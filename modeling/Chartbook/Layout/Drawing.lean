import Chartbook.Graph.Wire
import Chartbook.Layout.Arrangement
import Chartbook.Layout.Coordinates

/-!
The drawing of a chart: every node with its place, size and rank.
-/

namespace Chartbook

structure DrawnNode (coordinate : Type) where
  node : Node
  x : coordinate
  y : coordinate
  width : coordinate
  height : coordinate
  rank : Nat
  deriving DecidableEq, Repr

structure Drawing (coordinate : Type) where
  direction : Direction
  nodes : List (DrawnNode coordinate)
  edges : List Edge
  width : coordinate
  height : coordinate
  deriving DecidableEq, Repr

namespace Drawing

def position? (drawing : Drawing coordinate) (id : String) : Option (coordinate × coordinate) :=
  (drawing.nodes.find? (·.node.id == id)).map fun drawn => (drawn.x, drawn.y)

end Drawing

namespace Graph

def indexOf (graph : Graph) (id : String) : Nat :=
  graph.nodes.findIdx (·.id == id)

def links (graph : Graph) : List Layout.Link :=
  let all := (graph.edges.filter graph.anchors).map fun edge =>
    ({ source := graph.indexOf edge.source, target := graph.indexOf edge.target } : Layout.Link)
  all.filter fun link => link.source != link.target

def sizes (graph : Graph) : List Layout.Size :=
  graph.nodes.map fun node => Layout.sizeOfKind node.kind

def ranks (graph : Graph) : List Nat :=
  Layout.longestPathRanks graph.nodes.length
    (Layout.acyclicLinks graph.nodes.length graph.links)

def layers (graph : Graph) : List (List Nat) :=
  (Layout.arrange graph.ranks (Layout.acyclicLinks graph.nodes.length graph.links)).layers

/-- Draws every node. Edges with an endpoint that is no node are left out. -/
def draw (graph : Graph) (direction : Direction) : Drawing Nat :=
  let placed := Layout.places direction graph.sizes graph.layers
  let ranks := graph.ranks
  let nodes := graph.nodes.zipIdx.map fun (node, index) =>
    let point := Layout.pointOf placed index
    let size := Layout.sizeOfKind node.kind
    ({ node, x := point.x, y := point.y, width := size.width, height := size.height
       rank := Layout.rankOf ranks index } : DrawnNode Nat)
  { direction
    nodes
    edges := graph.edges.filter graph.anchors
    width := (nodes.map fun drawn => drawn.x + drawn.width).foldl max 0
    height := (nodes.map fun drawn => drawn.y + drawn.height).foldl max 0 }

end Graph

namespace Direction

def word : Direction → String
  | topToBottom => "top_to_bottom"
  | leftToRight => "left_to_right"

def toJson (direction : Direction) : Json :=
  .string direction.word

def ofJson? (json : Json) : Option Direction :=
  json.word?.bind fun word => [topToBottom, leftToRight].find? (·.word == word)

end Direction

namespace DrawnNode

def fieldNames : List FieldName :=
  Node.fieldNames ++ [Record.plain "x", Record.plain "y", Record.plain "width",
    Record.plain "height", Record.plain "rank"]

def toJson (encode : coordinate → Json) (drawn : DrawnNode coordinate) : Json :=
  .object (drawn.node.toFields ++ [("x", encode drawn.x), ("y", encode drawn.y),
    ("width", encode drawn.width), ("height", encode drawn.height), ("rank", .nat drawn.rank)])

def ofRecord? (record : Record) : Option (DrawnNode Double) := do
  let node ← Node.ofRecord? NodeKind.ofInnerJson? record
  let x ← record.required? "x" Json.double?
  let y ← record.required? "y" Json.double?
  let width ← record.required? "width" Json.double?
  let height ← record.required? "height" Json.double?
  let rank ← record.required? "rank" Json.nat64?
  some { node, x, y, width, height, rank }

/-- The fields of the node stand among the others, so that only an object will do, and all of it
must be readable. -/
def ofJson? (json : Json) : Option (DrawnNode Double) := do
  let _ ← json.fields?
  if json.isReadable then (Record.read? fieldNames 0 json).bind ofRecord? else none

end DrawnNode

namespace Drawing

def fieldNames : List FieldName :=
  [Record.plain "direction", Record.plain "nodes", Record.plain "edges", Record.plain "width",
    Record.plain "height"]

def toJson (encode : coordinate → Json) (drawing : Drawing coordinate) : Json :=
  .object [("direction", drawing.direction.toJson),
    ("nodes", .list (DrawnNode.toJson encode) drawing.nodes),
    ("edges", .list Edge.toJson drawing.edges),
    ("width", encode drawing.width), ("height", encode drawing.height)]

def ofRecord? (record : Record) : Option (Drawing Double) := do
  let direction ← record.required? "direction" Direction.ofJson?
  let nodes ← record.required? "nodes" (Json.listOf? DrawnNode.ofJson?)
  let edges ← record.required? "edges" (Json.listOf? Edge.ofJson?)
  let width ← record.required? "width" Json.double?
  let height ← record.required? "height" Json.double?
  some { direction, nodes, edges, width, height }

def ofJson? (json : Json) : Option (Drawing Double) :=
  (Record.read? fieldNames 5 json).bind ofRecord?

end Drawing

end Chartbook
