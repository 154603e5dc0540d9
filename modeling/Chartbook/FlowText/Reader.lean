import Chartbook.FlowText.Region
import Chartbook.FlowText.Statement

/-!
Reading the chart of a document. Reading never fails: a line that is no statement is skipped.
-/

namespace Chartbook

namespace Graph

def declare (graph : Graph) (node : Node) : Graph :=
  if graph.hasNode node.id then graph else { graph with nodes := graph.nodes ++ [node] }

def mention (graph : Graph) (id : String) : Graph :=
  graph.declare (Node.mentioned id)

/-- Mentions both endpoints. The first edge between an ordered pair counts. -/
def connect (graph : Graph) (source target : String) (label : Option String) : Graph :=
  let ready := (graph.mention source).mention target
  if ready.hasEdge source target then ready
  else { ready with edges := ready.edges ++ [Edge.between source target label] }

def record (graph : Graph) : FlowText.Statement → Graph
  | .edge source target label => graph.connect source target label
  | .node node => graph.declare node

def ofStatements (statements : List FlowText.Statement) : Graph :=
  statements.foldl record empty

end Graph

namespace FlowText

def statements (text : List Char) : List Statement :=
  (chartLines (Text.lines text)).filterMap Statement.read?

end FlowText

def Graph.ofText (text : String) : Graph :=
  ofStatements (FlowText.statements text.toList)

end Chartbook
