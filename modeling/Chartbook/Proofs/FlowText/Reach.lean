import Chartbook.Proofs.FlowText.Bare
import Chartbook.Proofs.FlowText.Image

/-!
The charts that the text form can hold. Main statement: a chart with bare ids comes back from its text
exactly if its labels can be written and no declaration is taken for an edge.
-/

namespace Chartbook

namespace FlowText

def BareIds (graph : Graph) : Prop :=
  ∀ node ∈ graph.nodes, Text.Tidy node.id.toList ∧ Bare node.id.toList

instance (graph : Graph) : Decidable (BareIds graph) :=
  inferInstanceAs (Decidable (∀ node ∈ graph.nodes, _))

/-- Every label stands in one line, without blanks around it. -/
structure Labelled (graph : Graph) : Prop where
  labels : ∀ node ∈ graph.nodes, Text.Tidy node.label.toList ∧ '\n' ∉ node.label.toList
  edgeLabels : ∀ edge ∈ graph.edges, ∀ label ∈ edge.label,
    Text.Tidy label.toList ∧ '\n' ∉ label.toList

/-- No node has a label that makes an edge of its declaration. -/
structure Writable (graph : Graph) : Prop extends Labelled graph where
  declarations : ∀ node ∈ graph.nodes, ∀ source target label,
    Statement.read? (nodeLine node) ≠ some (.edge source target label)

section Chart

variable {graph : Graph} (wellFormed : graph.WellFormed) (bare : BareIds graph)
include wellFormed bare

theorem bare_of_mem_edges {edge : Edge} (member : edge ∈ graph.edges) :
    (Text.Tidy edge.source.toList ∧ Bare edge.source.toList) ∧
      (Text.Tidy edge.target.toList ∧ Bare edge.target.toList) := by
  have known {id : String} (touches : edge.touches id = true) :
      Text.Tidy id.toList ∧ Bare id.toList := by
    obtain ⟨node, present, rfl⟩ := wellFormed.exists_endpoint member touches
    exact bare node present
  exact ⟨known (by simp [Edge.touches]), known (by simp [Edge.touches])⟩

section Labelled

variable (labelled : Labelled graph)
include labelled

theorem normal_printed : ∀ statement ∈ printed graph, statement.Normal ∧ '\n' ∉ statement.line := by
  intro statement member
  rw [printed, List.mem_append, List.mem_map, List.mem_map] at member
  obtain ⟨node, declared, rfl⟩ | ⟨edge, present, rfl⟩ := member
  · have known := (List.mem_filter.mp declared).1
    obtain ⟨tidy, free⟩ := bare node known
    obtain ⟨visible, plain⟩ := labelled.labels node known
    exact ⟨⟨tidy, free.unclosed node.kind, visible⟩,
      Statement.feed_not_mem_node_iff.mpr ⟨free.feedless, plain⟩⟩
  · obtain ⟨⟨tidy, free⟩, ⟨whole, other⟩⟩ := bare_of_mem_edges wellFormed bare present
    have written := labelled.edgeLabels edge present
    exact ⟨⟨tidy, free.arrowless, whole, fun label known => (written label known).1⟩,
      Statement.feed_not_mem_edge_iff.mpr
        ⟨free.feedless, other.feedless, fun label known => (written label known).2⟩⟩

theorem reread_printed : ∀ statement ∈ printed graph, reread? statement = some statement ∨
    ∃ node ∈ graph.nodes, statement = .node node ∧
      ∃ source target label, reread? statement = some (.edge source target label) := by
  intro statement member
  have normal := (normal_printed wellFormed bare labelled statement member).1
  rw [printed, List.mem_append, List.mem_map, List.mem_map] at member
  obtain ⟨node, declared, rfl⟩ | ⟨edge, present, rfl⟩ := member
  · have known := (List.mem_filter.mp declared).1
    refine (Statement.reread_node_of_bare normal (bare node known).2).imp_right ?_
    exact fun misread => ⟨node, known, rfl, misread⟩
  · obtain ⟨⟨_, start⟩, ⟨_, finish⟩⟩ := bare_of_mem_edges wellFormed bare present
    exact .inl (Statement.reread_edge_of_bare normal start finish)

theorem ofText_toText_of_labelled :
    Graph.ofText graph.toText = Graph.ofStatements ((printed graph).filterMap reread?) :=
  ofText_toText_of_feedless fun statement written =>
    (normal_printed wellFormed bare labelled statement written).2

theorem not_mem_of_misread {node : Node} (known : node ∈ graph.nodes) {source target : String}
    {label : Option String}
    (misread : Statement.read? (nodeLine node) = some (.edge source target label)) :
    node ∉ (Graph.ofText graph.toText).nodes := by
  intro member
  rw [ofText_toText_of_labelled wellFormed bare labelled] at member
  obtain declared | ⟨implicit, _⟩ := Graph.statement_of_mem_nodes member
  · obtain ⟨statement, written, read⟩ := List.mem_filterMap.mp declared
    obtain same | ⟨_, _, _, _, _, _, edge⟩ :=
      reread_printed wellFormed bare labelled statement written
    · obtain rfl : statement = .node node := Option.some.inj (same.symm.trans read)
      cases same.symm.trans misread
    · cases edge.symm.trans read
  · rw [(Node.isImplicit_iff node).mp implicit] at misread
    exact Statement.no_edge_of_mentioned (bare node known).2 source target label misread

end Labelled

theorem writable_of_kept (nodes : ∀ node ∈ graph.nodes, node ∈ (Graph.ofText graph.toText).nodes)
    (edges : ∀ edge ∈ graph.edges, edge ∈ (Graph.ofText graph.toText).edges) : Writable graph := by
  have labelled : Labelled graph :=
    { labels := fun node member => (oneLine_of_mem_nodes (nodes node member)).2
      edgeLabels := fun edge member => oneLine_of_mem_edges (edges edge member) }
  refine { labelled with declarations := ?_ }
  intro node member source target label misread
  exact not_mem_of_misread wellFormed bare labelled member misread (nodes node member)

theorem ofText_toText_of_writable (writable : Writable graph) :
    Graph.ofText graph.toText = Graph.ofStatements (printed graph) := by
  have fixed : ∀ statement ∈ printed graph, reread? statement = some statement := by
    intro statement member
    obtain same | ⟨node, known, rfl, source, target, label, misread⟩ :=
      reread_printed wellFormed bare writable.toLabelled statement member
    · exact same
    · exact absurd misread (writable.declarations node known source target label)
  have all : (printed graph).filterMap reread? = printed graph :=
    (List.filterMap_congr fixed).trans List.filterMap_some
  rw [ofText_toText_of_labelled wellFormed bare writable.toLabelled, all]

end Chart

end FlowText

namespace Graph

open FlowText

/-- A chart with bare ids comes back from its text, edges in their order, exactly if it is writable. Then
it is written as the same text again. -/
theorem text_holds_iff (graph : Graph) (wellFormed : graph.WellFormed) (bare : BareIds graph) :
    let again := ofText graph.toText
    (again.edges = graph.edges ∧ again.nodes.Perm graph.nodes ↔ Writable graph) ∧
      (again.edges = graph.edges ∧ again.nodes.Perm graph.nodes → again.toText = graph.toText) := by
  intro again
  have writable (kept : again.edges = graph.edges ∧ again.nodes.Perm graph.nodes) :
      Writable graph := by
    refine writable_of_kept wellFormed bare (fun _ member => kept.2.mem_iff.mpr member) ?_
    intro edge member
    rw [← kept.1] at member
    exact member
  have reading (written : Writable graph) : again = ofStatements (printed graph) :=
    ofText_toText_of_writable wellFormed bare written
  refine ⟨⟨writable, ?_⟩, ?_⟩
  · intro written
    rw [reading written]
    exact ⟨edges_printed wellFormed, perm_nodes_printed wellFormed⟩
  · intro kept
    rw [reading (writable kept)]
    exact toText_printed wellFormed

def crowded : Graph :=
  { nodes := [.mentioned "a-b", { id := "start", label := "from -> [a] : b", kind := .entry }]
    edges := [.between "start" "a-b" (some "-> [start] : c")] }

theorem crowded_comes_back :
    crowded.WellFormed ∧ BareIds crowded ∧ Writable crowded ∧
    (ofText crowded.toText).edges = crowded.edges ∧
    (ofText crowded.toText).nodes.Perm crowded.nodes ∧
    (ofText crowded.toText).toText = crowded.toText := by
  have wellFormed : crowded.WellFormed :=
    { unique := by decide, single := by decide, anchored := by decide, identified := by decide }
  have bare : BareIds crowded := by decide
  have declared : ∀ node ∈ crowded.nodes, Statement.read? (nodeLine node) = some (.node node) := by
    decide
  have writable : Writable crowded := by
    refine { labels := by decide, declarations := ?_, edgeLabels := by decide }
    intro node member source target label misread
    cases (declared node member).symm.trans misread
  have held := text_holds_iff crowded wellFormed bare
  have kept := held.1.mpr writable
  exact ⟨wellFormed, bare, writable, kept.1, kept.2, held.2 kept⟩

end Graph

end Chartbook
