import Chartbook.FlowText.Reader

/-!
Editing a chart. Every edit is answered by one sentence; an unknown id is reported and does no harm.
-/

namespace Chartbook

inductive Edit where
  | addNode (id label : String) (kind : NodeKind)
  | removeNode (id : String)
  | addEdge (source target : String) (label : Option String)
  | removeEdge (source target : String)
  | replace (nodes : List Node) (edges : List Edge)
  deriving DecidableEq, Repr

inductive EditReport where
  | nodeExists (id : String)
  | nodeAdded (node : Node)
  | nodeMissing (id : String)
  | nodeRemoved (id : String) (edges : Nat)
  | edgeUpdated (source target : String) (label : Option String)
  | edgeAdded (source target : String) (label : Option String)
  | edgeMissing (source target : String)
  | edgeRemoved (source target : String)
  | replaced (nodes edges : Nat)
  deriving DecidableEq, Repr

namespace NodeKind

def title : NodeKind → String
  | plain => "Plain"
  | entry => "Entry"
  | exit => "Exit"
  | decision => "Decision"

end NodeKind

namespace EditReport

def labelText : Option String → String
  | some label => " : " ++ label
  | none => ""

def arrowText (source target : String) : String :=
  source ++ " -> " ++ target

def message : EditReport → String
  | nodeExists id => "Node '" ++ id ++ "' already exists."
  | nodeAdded node =>
      "Added " ++ node.kind.title ++ " node '" ++ node.id ++ "' (" ++ node.label ++ ")."
  | nodeMissing id => "Node '" ++ id ++ "' not found."
  | nodeRemoved id edges =>
      "Removed node '" ++ id ++ "' and " ++ toString edges ++ " connected edge(s)."
  | edgeUpdated source target label =>
      "Updated edge " ++ arrowText source target ++ labelText label ++ "."
  | edgeAdded source target label =>
      "Added edge " ++ arrowText source target ++ labelText label ++ "."
  | edgeMissing source target => "Edge " ++ arrowText source target ++ " not found."
  | edgeRemoved source target => "Removed edge " ++ arrowText source target ++ "."
  | replaced nodes edges =>
      "Replaced flow: " ++ toString nodes ++ " nodes, " ++ toString edges ++ " edges."

end EditReport

namespace Graph

def addNode (graph : Graph) (id label : String) (kind : NodeKind) : EditReport × Graph :=
  if graph.hasNode id then
    (.nodeExists id, graph)
  else
    let node : Node := { id, label := (Text.nonBlank? label).getD id, kind }
    (.nodeAdded node, { graph with nodes := graph.nodes ++ [node] })

def removeNode (graph : Graph) (id : String) : EditReport × Graph :=
  if graph.hasNode id then
    let kept := graph.edges.filter fun edge => !edge.touches id
    (.nodeRemoved id (graph.edges.length - kept.length),
      { nodes := graph.nodes.eraseP (·.id == id), edges := kept })
  else
    (.nodeMissing id, graph)

def relabel (source target : String) (label : Option String) : List Edge → List Edge
  | [] => []
  | edge :: rest =>
      if edge.joins source target then { edge with label } :: rest
      else edge :: relabel source target label rest

/-- Missing endpoints are created. An edge that is there already gets the new label. -/
def addEdge (graph : Graph) (source target : String) (label : Option String) :
    EditReport × Graph :=
  let shown := label.bind Text.nonBlank?
  let ready := (graph.mention source).mention target
  if ready.hasEdge source target then
    (.edgeUpdated source target shown,
      { ready with edges := relabel source target shown ready.edges })
  else
    (.edgeAdded source target shown,
      { ready with edges := ready.edges ++ [Edge.between source target shown] })

def removeEdge (graph : Graph) (source target : String) : EditReport × Graph :=
  if graph.hasEdge source target then
    (.edgeRemoved source target,
      { graph with edges := graph.edges.filter fun edge => !edge.joins source target })
  else
    (.edgeMissing source target, graph)

def addNewEdge (graph : Graph) (edge : Edge) : Graph :=
  if graph.hasEdge edge.source edge.target then graph
  else (graph.addEdge edge.source edge.target edge.label).2

/-- The graph of the given nodes and edges: of equal ids and of equal pairs the first counts, and
edges are identified anew. -/
def assemble (nodes : List Node) (edges : List Edge) : Graph :=
  edges.foldl addNewEdge (nodes.foldl declare empty)

def edit (graph : Graph) : Edit → EditReport × Graph
  | .addNode id label kind => graph.addNode id label kind
  | .removeNode id => graph.removeNode id
  | .addEdge source target label => graph.addEdge source target label
  | .removeEdge source target => graph.removeEdge source target
  | .replace nodes edges =>
      let made := assemble nodes edges
      (.replaced made.nodes.length made.edges.length, made)

end Graph

end Chartbook
