import Chartbook.Proofs.FlowText.Printed
import Chartbook.Proofs.FlowText.Splice

/-!
Prose around a chart. Main statement: putting a chart into a document keeps the prose of the document,
but what follows a region that is opened and never closed makes way for the first region.
-/

namespace Chartbook.FlowText

structure Feedless (graph : Graph) : Prop where
  nodes : ∀ node ∈ graph.nodes, '\n' ∉ node.id.toList ∧ '\n' ∉ node.label.toList
  edges : ∀ edge ∈ graph.edges, '\n' ∉ edge.source.toList ∧ '\n' ∉ edge.target.toList ∧
    ∀ label ∈ edge.label, '\n' ∉ label.toList

theorem Feedless.printed {graph : Graph} (feedless : Feedless graph) :
    ∀ statement ∈ printed graph, '\n' ∉ statement.line := by
  intro statement member
  rw [FlowText.printed, List.mem_append, List.mem_map, List.mem_map] at member
  obtain ⟨node, declared, rfl⟩ | ⟨edge, present, rfl⟩ := member
  · exact Statement.feed_not_mem_node_iff.mpr (feedless.nodes node (List.mem_filter.mp declared).1)
  · exact Statement.feed_not_mem_edge_iff.mpr (feedless.edges edge present)

/-- Up to the blanks at the ends of its lines, the prose of the new document is that of the old one. A
document that opens a region and closes none keeps the prose before the region only. -/
theorem prose_after_splice (document : String) (graph : Graph) (feedless : Feedless graph) :
    let lines := Text.lines document.toList
    (remarks (Text.lines (splice document graph).toList)).map Text.trimEnd =
      (remarks (standing lines)).map Text.trimEnd ∧
    ((parts lines).any Part.isRegion = true ∨ (∀ line ∈ lines, opens line = false) →
      standing lines = lines) := by
  intro lines
  constructor
  · obtain ⟨before, after, quiet, _, pieces, kept⟩ :=
      surrounds_spliceText document.toList (block graph)
    obtain ⟨body, shape, inside, _⟩ := exists_block_body feedless.printed
    rw [remarks_lines, splice, String.toList_ofList, pieces, shape, List.append_assoc,
      remarks_quiet_append _ quiet, remarks_region_append after inside, ← remarks_of_quiet quiet,
      kept]
  · exact standing_eq_self

theorem prose_around_region :
    let document := "Plan. \n```flow\n[a]\n```\nDone.\n"
    let graph := Graph.ofText "[a] -> [b] : next"
    Feedless graph ∧
    (remarks (Text.lines (splice document graph).toList)).map Text.trimEnd =
      ["Plan.".toList, "Done.".toList] := by
  intro document graph
  have feedless : Feedless graph := { nodes := by decide +kernel, edges := by decide +kernel }
  exact ⟨feedless, (prose_after_splice document graph feedless).1.trans (by decide +kernel)⟩

/-- What follows an unfinished region is prose that is not kept. -/
theorem prose_behind_fence_lost :
    let document := "```flow\nKeep me."
    Feedless Graph.empty ∧
    (remarks (Text.lines (splice document Graph.empty).toList)).map Text.trimEnd ≠
      (remarks (Text.lines document.toList)).map Text.trimEnd :=
  ⟨{ nodes := by decide, edges := by decide }, by decide +kernel⟩

end Chartbook.FlowText
