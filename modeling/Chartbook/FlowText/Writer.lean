import Chartbook.FlowText.Reader

/-!
Writing a chart as one flow region: declarations, a blank line, edges.
-/

namespace Chartbook

namespace FlowText

def nodeLine (node : Node) : List Char :=
  Reference.write node.kind node.id.toList ++ ' ' :: node.label.toList

def mentionOf (id : String) : List Char :=
  Reference.write (Reference.shapeFor id.toList) id.toList

def labelSuffix : Option String → List Char
  | some label => if label = "" then [] else [' ', ':', ' '] ++ label.toList
  | none => []

def edgeLine (edge : Edge) : List Char :=
  mentionOf edge.source ++ [' '] ++ Statement.arrow ++ [' '] ++ mentionOf edge.target
    ++ labelSuffix edge.label

def impliedByEdges (graph : Graph) (node : Node) : Bool :=
  graph.refersTo node.id && node.isImplicit

def declarationLines (graph : Graph) : List (List Char) :=
  (graph.nodes.filter fun node => !impliedByEdges graph node).map nodeLine

def edgeLines (graph : Graph) : List (List Char) :=
  graph.edges.map edgeLine

def gap (declarations edges : List (List Char)) : List (List Char) :=
  if declarations.isEmpty || edges.isEmpty then [] else [[]]

def regionLines (graph : Graph) : List (List Char) :=
  [flowFence] ++ declarationLines graph ++ gap (declarationLines graph) (edgeLines graph)
    ++ edgeLines graph ++ [fence]

def block (graph : Graph) : List Char :=
  Text.unlines (regionLines graph)

end FlowText

def Graph.toText (graph : Graph) : String :=
  String.ofList (FlowText.block graph)

end Chartbook
