/-!
Charts: nodes of four shapes and labelled edges, both in the order in which they were first met.
-/

namespace Chartbook

inductive NodeKind where
  | plain
  | entry
  | exit
  | decision
  deriving DecidableEq, Repr, Inhabited

namespace NodeKind

def marks : NodeKind → List Char × List Char
  | plain => (['['], [']'])
  | entry => (['[', '['], [']', ']'])
  | exit => (['(', '('], [')', ')'])
  | decision => (['\x7b'], ['\x7d'])

end NodeKind

structure Node where
  id : String
  label : String
  kind : NodeKind
  deriving DecidableEq, Repr, Inhabited

namespace Node

def mentioned (id : String) : Node :=
  { id, label := id, kind := .plain }

def isImplicit (node : Node) : Bool :=
  node.kind == .plain && node.label == node.id

end Node

structure Edge where
  id : String
  source : String
  target : String
  label : Option String
  deriving DecidableEq, Repr, Inhabited

namespace Edge

/-- The identity of the one edge between an ordered pair. The size of the source stands in front,
so that different pairs have different ids even where ids contain the separator. -/
def idOf (source target : String) : String :=
  "e" ++ toString source.utf8ByteSize ++ "-" ++ source ++ "-" ++ target

def between (source target : String) (label : Option String) : Edge :=
  { id := idOf source target, source, target, label }

def joins (edge : Edge) (source target : String) : Bool :=
  edge.source == source && edge.target == target

def touches (edge : Edge) (id : String) : Bool :=
  edge.source == id || edge.target == id

end Edge

structure Graph where
  nodes : List Node
  edges : List Edge
  deriving DecidableEq, Repr, Inhabited

namespace Graph

def empty : Graph :=
  { nodes := [], edges := [] }

def isEmpty (graph : Graph) : Bool :=
  graph.nodes.isEmpty && graph.edges.isEmpty

def node? (graph : Graph) (id : String) : Option Node :=
  graph.nodes.find? (·.id == id)

def hasNode (graph : Graph) (id : String) : Bool :=
  graph.nodes.any (·.id == id)

def edge? (graph : Graph) (source target : String) : Option Edge :=
  graph.edges.find? (·.joins source target)

def hasEdge (graph : Graph) (source target : String) : Bool :=
  graph.edges.any (·.joins source target)

def refersTo (graph : Graph) (id : String) : Bool :=
  graph.edges.any (·.touches id)

def endpoints (graph : Graph) : List String :=
  graph.edges.flatMap fun edge => [edge.source, edge.target]

def anchors (graph : Graph) (edge : Edge) : Bool :=
  graph.hasNode edge.source && graph.hasNode edge.target

def withoutDangling (graph : Graph) : Graph :=
  { graph with edges := graph.edges.filter graph.anchors }

end Graph

end Chartbook
