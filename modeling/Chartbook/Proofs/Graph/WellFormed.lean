import Chartbook.Proofs.FlowText.Reader

/-!
Charts in which an id names one node, a pair of ids names one edge, and every edge has both its nodes.
What is read from statements is such a chart.
-/

namespace Chartbook.Graph

structure WellFormed (graph : Graph) : Prop where
  unique : (graph.nodes.map Node.id).Nodup
  single : (graph.edges.map Edge.pair).Nodup
  anchored : ∀ edge ∈ graph.edges, graph.anchors edge = true
  identified : ∀ edge ∈ graph.edges, edge = Edge.between edge.source edge.target edge.label

theorem hasNode_iff (graph : Graph) (id : String) :
    graph.hasNode id = true ↔ id ∈ graph.nodes.map Node.id := by
  simp [hasNode]

theorem anchors_iff (graph : Graph) (edge : Edge) :
    graph.anchors edge = true ↔
      edge.source ∈ graph.nodes.map Node.id ∧ edge.target ∈ graph.nodes.map Node.id := by
  rw [anchors, Bool.and_eq_true, hasNode_iff, hasNode_iff]

theorem wellFormed_ofStatements (statements : List FlowText.Statement) :
    (ofStatements statements).WellFormed where
  unique := nodup_ids statements
  single := nodup_pairs statements
  anchored := by
    intro edge member
    obtain ⟨spoken, _⟩ := statement_of_mem_edges member
    have source : Node.mentioned edge.source ∈
        (FlowText.Statement.edge edge.source edge.target edge.label).mentions := List.mem_cons_self
    have target : Node.mentioned edge.target ∈
        (FlowText.Statement.edge edge.source edge.target edge.label).mentions :=
      List.mem_cons_of_mem _ List.mem_cons_self
    rw [anchors_iff, List.mem_map, List.mem_map]
    exact ⟨exists_node spoken source, exists_node spoken target⟩
  identified := fun _ member => (statement_of_mem_edges member).2

namespace WellFormed

variable {graph : Graph} (wellFormed : graph.WellFormed)
include wellFormed

theorem node_unique {one two : Node} (first : one ∈ graph.nodes) (second : two ∈ graph.nodes)
    (same : one.id = two.id) : one = two :=
  List.inj_on_of_nodup_map wellFormed.unique first second same

theorem exists_endpoint {edge : Edge} (member : edge ∈ graph.edges) {id : String}
    (touches : edge.touches id = true) : ∃ node ∈ graph.nodes, node.id = id := by
  have anchored := wellFormed.anchored edge member
  rw [anchors_iff, List.mem_map, List.mem_map] at anchored
  rw [Edge.touches, Bool.or_eq_true, beq_iff_eq, beq_iff_eq] at touches
  obtain rfl | rfl := touches
  · exact anchored.1
  · exact anchored.2

end WellFormed

end Chartbook.Graph
