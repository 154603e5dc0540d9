import Chartbook.Graph.Wire

/-!
What changed between two charts, by the identity of nodes and edges.
-/

namespace Chartbook

inductive ChangeSource where
  | user
  | agent
  | remote
  deriving DecidableEq, Repr, Inhabited

structure ChangeSet where
  source : ChangeSource
  nodeIds : List String
  edgeIds : List String
  deriving DecidableEq, Repr, Inhabited

structure Impact where
  nodeDelta : Int
  edgeDelta : Int
  changedNodeIds : List String
  changedEdgeIds : List String
  deriving DecidableEq, Repr, Inhabited

namespace ChangeSet

def isEmpty (changes : ChangeSet) : Bool :=
  changes.nodeIds.isEmpty && changes.edgeIds.isEmpty

end ChangeSet

namespace Graph

/-- The last node with the id; it is the one that counts where ids are repeated. -/
def lastNode? (graph : Graph) (id : String) : Option Node :=
  graph.nodes.reverse.find? (·.id == id)

def lastEdge? (graph : Graph) (id : String) : Option Edge :=
  graph.edges.reverse.find? (·.id == id)

def keepsNode (previous : Graph) (node : Node) : Bool :=
  match previous.lastNode? node.id with
  | some old => old.label == node.label && old.kind == node.kind
  | none => false

def keepsEdge (previous : Graph) (edge : Edge) : Bool :=
  match previous.lastEdge? edge.id with
  | some old => old.label == edge.label && old.source == edge.source && old.target == edge.target
  | none => false

def changes (previous next : Graph) (source : ChangeSource) : ChangeSet :=
  { source
    nodeIds := (next.nodes.filter fun node => !previous.keepsNode node).map (·.id)
    edgeIds := (next.edges.filter fun edge => !previous.keepsEdge edge).map (·.id) }

def impact (previous next : Graph) : Impact :=
  { nodeDelta := (next.nodes.length : Int) - previous.nodes.length
    edgeDelta := (next.edges.length : Int) - previous.edges.length
    changedNodeIds := (changes previous next .agent).nodeIds
    changedEdgeIds := (changes previous next .agent).edgeIds }

end Graph

namespace Impact

def none : Impact :=
  { nodeDelta := 0, edgeDelta := 0, changedNodeIds := [], changedEdgeIds := [] }

def fieldNames : List FieldName :=
  [{ name := "nodeDelta", aliases := ["nodesDelta"] },
    { name := "edgeDelta", aliases := ["edgesDelta"] },
    Record.plain "changedNodeIds", Record.plain "changedEdgeIds"]

def toJson (impact : Impact) : Json :=
  .object [("nodeDelta", .int impact.nodeDelta), ("edgeDelta", .int impact.edgeDelta),
    ("changedNodeIds", .strings impact.changedNodeIds),
    ("changedEdgeIds", .strings impact.changedEdgeIds)]

def ofRecord? (record : Record) : Option Impact := do
  let nodeDelta ← record.required? "nodeDelta" Json.int64?
  let edgeDelta ← record.required? "edgeDelta" Json.int64?
  let changedNodeIds ← record.withDefault? "changedNodeIds" [] Json.strings?
  let changedEdgeIds ← record.withDefault? "changedEdgeIds" [] Json.strings?
  some { nodeDelta, edgeDelta, changedNodeIds, changedEdgeIds }

def ofJson? (json : Json) : Option Impact :=
  (Record.read? fieldNames 2 json).bind ofRecord?

end Impact

namespace ChangeSource

def word : ChangeSource → String
  | user => "user"
  | agent => "agent"
  | remote => "remote"

def toJson (source : ChangeSource) : Json :=
  .string source.word

def ofJson? (json : Json) : Option ChangeSource :=
  json.word?.bind fun word => [user, agent, remote].find? (·.word == word)

end ChangeSource

namespace ChangeSet

def fieldNames : List FieldName :=
  [Record.plain "source", Record.plain "nodeIds", Record.plain "edgeIds"]

def toJson (changes : ChangeSet) : Json :=
  .object [("source", changes.source.toJson), ("nodeIds", .strings changes.nodeIds),
    ("edgeIds", .strings changes.edgeIds)]

def ofRecord? (record : Record) : Option ChangeSet := do
  let source ← record.required? "source" ChangeSource.ofJson?
  let nodeIds ← record.required? "nodeIds" Json.strings?
  let edgeIds ← record.required? "edgeIds" Json.strings?
  some { source, nodeIds, edgeIds }

def ofJson? (json : Json) : Option ChangeSet :=
  (Record.read? fieldNames 3 json).bind ofRecord?

end ChangeSet

end Chartbook
