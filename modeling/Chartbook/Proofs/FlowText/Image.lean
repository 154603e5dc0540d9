import Chartbook.Proofs.FlowText.Printed
import Chartbook.Proofs.Graph.Identity

/-!
What the chart of a text is like. Main statement: an id names one node or one edge, every edge has its
nodes, and every id and label is one line with no blanks around it.
-/

namespace Chartbook

namespace FlowText

/-- Something to see, in one line and with no blanks around it. -/
def OneLine (text : String) : Prop :=
  Text.Tidy text.toList ∧ '\n' ∉ text.toList

theorem Statement.oneLine_of_mem_mentions {statement : Statement} (normal : statement.Normal)
    (plain : '\n' ∉ statement.line) {node : Node} (member : node ∈ statement.mentions) :
    OneLine node.id ∧ OneLine node.label := by
  obtain rfl | ⟨source, target, label, rfl, known⟩ := mem_mentions.mp member
  · obtain ⟨named, labelled⟩ := feed_not_mem_node_iff.mp plain
    exact ⟨⟨normal.1, named⟩, ⟨normal.2.2, labelled⟩⟩
  · obtain ⟨start, finish, _⟩ := feed_not_mem_edge_iff.mp plain
    obtain rfl | rfl := known
    · exact ⟨⟨normal.1, start⟩, ⟨normal.1, start⟩⟩
    · exact ⟨⟨normal.2.2.1, finish⟩, ⟨normal.2.2.1, finish⟩⟩

variable {text : String}

theorem normal_of_mem_statements {statement : Statement} (member : statement ∈ statements text.toList) :
    statement.Normal ∧ '\n' ∉ statement.line := by
  obtain ⟨line, plain, read⟩ := exists_line_of_mem_statements member
  exact ⟨Statement.normal_of_read? read, Statement.feed_not_mem_line read plain⟩

theorem oneLine_of_mem_nodes {node : Node} (member : node ∈ (Graph.ofText text).nodes) :
    OneLine node.id ∧ OneLine node.label := by
  rw [Graph.ofText, Graph.ofStatements_nodes] at member
  obtain ⟨statement, spoken, mentioned⟩ := List.mem_flatMap.mp (mem_of_mem_firsts Node.id member)
  obtain ⟨normal, plain⟩ := normal_of_mem_statements spoken
  exact Statement.oneLine_of_mem_mentions normal plain mentioned

theorem normal_of_mem_edges {edge : Edge} (member : edge ∈ (Graph.ofText text).edges) :
    (Statement.ofEdge edge).Normal ∧ '\n' ∉ (Statement.ofEdge edge).line :=
  normal_of_mem_statements (Graph.statement_of_mem_edges member).1

theorem oneLine_of_mem_edges {edge : Edge} (member : edge ∈ (Graph.ofText text).edges) :
    ∀ label ∈ edge.label, OneLine label := by
  obtain ⟨normal, plain⟩ := normal_of_mem_edges member
  intro label known
  exact ⟨normal.2.2.2 label known, (Statement.feed_not_mem_edge_iff.mp plain).2.2 label known⟩

end FlowText

open FlowText in
/-- Whatever the text, its chart has distinct nodes and distinct edges, each edge between two of the
nodes, and in it nothing that a line could not hold. The source of an edge stands in front of the first
arrow of a line, so it holds none. -/
theorem Graph.image_of_text (text : String) :
    let graph := ofText text
    graph.WellFormed ∧ (graph.edges.map Edge.id).Nodup ∧
    (∀ node ∈ graph.nodes, OneLine node.id ∧ OneLine node.label) ∧
    ∀ edge ∈ graph.edges, ¬Statement.arrow <:+: edge.source.toList ∧
      ∀ label ∈ edge.label, OneLine label := by
  intro graph
  have wellFormed : graph.WellFormed := wellFormed_ofStatements _
  refine ⟨wellFormed, wellFormed.nodup_edge_ids, fun _ => oneLine_of_mem_nodes, ?_⟩
  intro edge member
  exact ⟨(normal_of_mem_edges member).1.2.1, oneLine_of_mem_edges member⟩

end Chartbook
