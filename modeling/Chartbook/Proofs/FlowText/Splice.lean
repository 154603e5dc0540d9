import Chartbook.Proofs.FlowText.Setting
import Chartbook.Workspace.Basic

/-!
A chart put into a document is the chart that the document is read as. Main statement: what is read
after splicing depends on the spliced graph only.
-/

namespace Chartbook.FlowText

/-- The pieces of a text are those of the block between lines that add nothing to it. Their prose is
that of the given lines. -/
def Surrounds (block text : List Char) (lines : List (List Char)) : Prop :=
  ∃ before after, (∀ line ∈ before, opens line = false) ∧
    (parts after).flatMap Part.body = [] ∧
    Text.pieces text = before ++ Text.pieces block ++ after ∧
    (remarks before ++ remarks after).map Text.trimEnd = (remarks lines).map Text.trimEnd

theorem surrounds_spliceText (text block : List Char) :
    Surrounds block (spliceText text block) (standing (Text.lines text)) := by
  obtain ⟨before, after, setting⟩ := exists_setting text
  exact ⟨before, after, setting.quiet, flatMap_body_of_no_region setting.barren, setting.pieces block,
    setting.kept⟩

theorem pieces_block (graph : Graph) :
    ∃ body, Text.pieces (block graph) = flowFence :: body ++ [fence] := by
  let inner := declarationLines graph ++
    gap (declarationLines graph) (edgeLines graph) ++ edgeLines graph
  refine ⟨inner.flatMap Text.pieces, ?_⟩
  have shape : regionLines graph = flowFence :: (inner ++ [fence]) := by
    simp [regionLines, inner]
  have opening : Text.pieces flowFence = [flowFence] := by decide
  have closing : Text.pieces fence = [fence] := by decide
  rw [block, shape, Text.pieces_unlines (by simp), List.flatMap_cons, List.flatMap_append,
    List.flatMap_singleton, opening, closing]
  rfl

theorem statements_spliceText (text : List Char) (graph : Graph) :
    statements (spliceText text (block graph)) = statements (block graph) := by
  obtain ⟨before, after, quiet, barren, pieces, _⟩ := surrounds_spliceText text (block graph)
  obtain ⟨body, shape⟩ := pieces_block graph
  rw [statements_eq_pieces, statements_eq_pieces, pieces, shape]
  exact statementsIn_around body quiet barren

theorem ofText_splice (document : String) (graph : Graph) :
    Graph.ofText (splice document graph) = Graph.ofText graph.toText := by
  rw [Graph.ofText, Graph.ofText, splice, Graph.toText, String.toList_ofList, String.toList_ofList,
    statements_spliceText]

/-- What is read from a document after a chart was put into it is what is read from the written
chart alone. So an edited diagram decides the chart of the workspace, and the text it is written
into has no part in it. -/
theorem chart_after_splice :
    (∀ (document : String) (graph : Graph),
      Graph.ofText (splice document graph) = Graph.ofText graph.toText) ∧
    ∀ (workspace : Workspace) (moment : Moment) (graph : Graph),
      (workspace.canvasEdit moment graph).2.graph = Graph.ofText graph.withoutDangling.toText := by
  refine ⟨ofText_splice, ?_⟩
  intro workspace moment graph
  rw [Workspace.canvasEdit, Workspace.setText, Workspace.emit, ofText_splice]

end Chartbook.FlowText
