import Chartbook.Graph.Basic
import Chartbook.Json.Record

/-!
Charts as JSON.
-/

namespace Chartbook

namespace NodeKind

def word : NodeKind → String
  | plain => "plain"
  | entry => "entry"
  | exit => "exit"
  | decision => "decision"

def ofWord? (word : String) : Option NodeKind :=
  [plain, entry, exit, decision].find? (·.word == word)

def toJson (kind : NodeKind) : Json :=
  .string kind.word

def ofJson? (json : Json) : Option NodeKind :=
  json.word?.bind ofWord?

def ofInnerJson? (json : Json) : Option NodeKind :=
  json.innerWord?.bind ofWord?

end NodeKind

namespace Node

def fieldNames : List FieldName :=
  [Record.plain "id", Record.plain "label", Record.plain "kind"]

def toFields (node : Node) : Json.Fields :=
  [("id", .string node.id), ("label", .string node.label), ("kind", node.kind.toJson)]

def toJson (node : Node) : Json :=
  .object node.toFields

def ofRecord? (decodeKind : Json → Option NodeKind) (record : Record) : Option Node := do
  let id ← record.required? "id" Json.string?
  let label ← record.required? "label" Json.string?
  let kind ← record.required? "kind" decodeKind
  some { id, label, kind }

def ofJson? (json : Json) : Option Node :=
  (Record.read? fieldNames 3 json).bind (ofRecord? NodeKind.ofJson?)

end Node

namespace Edge

def fieldNames : List FieldName :=
  [Record.plain "id", Record.plain "source", Record.plain "target", Record.plain "label"]

def toJson (edge : Edge) : Json :=
  .object ([("id", .string edge.id), ("source", .string edge.source),
    ("target", .string edge.target)] ++ Json.whenSome "label" .string edge.label)

def ofRecord? (record : Record) : Option Edge := do
  let id ← record.required? "id" Json.string?
  let source ← record.required? "source" Json.string?
  let target ← record.required? "target" Json.string?
  let label ← record.optional? "label" Json.string?
  some { id, source, target, label }

def ofJson? (json : Json) : Option Edge :=
  (Record.read? fieldNames 3 json).bind ofRecord?

end Edge

namespace Graph

def fieldNames : List FieldName :=
  [Record.plain "nodes", Record.plain "edges"]

def toJson (graph : Graph) : Json :=
  .object [("nodes", .list Node.toJson graph.nodes), ("edges", .list Edge.toJson graph.edges)]

def ofRecord? (record : Record) : Option Graph := do
  let nodes ← record.required? "nodes" (Json.listOf? Node.ofJson?)
  let edges ← record.required? "edges" (Json.listOf? Edge.ofJson?)
  some { nodes, edges }

def ofJson? (json : Json) : Option Graph :=
  (Record.read? fieldNames 2 json).bind ofRecord?

end Graph

end Chartbook
