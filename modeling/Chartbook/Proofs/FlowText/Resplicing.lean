import Chartbook.Proofs.FlowText.Prose

/-!
One chart after another in the same document. Main statement: the last chart that is put into a document
decides every character, as if the one before it had never been there.
-/

namespace Chartbook.FlowText

theorem closes_dropReturn (line : List Char) : closes (Text.dropReturn line) = closes line := by
  rw [← closes_trim, ← Text.trim_trimEnd, Text.trimEnd_dropReturn, Text.trim_trimEnd, closes_trim]

theorem closingLines_of_pieces {text last : List Char} {start : List (List Char)}
    (shape : Text.pieces text = start ++ [last]) (several : start ≠ []) :
    closingLines text = if last = [] then [[]] else [] := by
  have among : last ∈ Text.pieces text := by
    rw [shape]
    simp
  have plain : '\n' ∉ last := Text.not_mem_of_mem_pieces among
  rw [closingLines, ← Text.unlines_pieces text, shape]
  by_cases empty : last = []
  · rw [empty, if_pos rfl, Text.unlines_append several (by simp), if_pos]
    exact List.getLast?_concat
  · rw [Text.getLast?_unlines start empty, if_neg empty, if_neg]
    exact fun ended => plain (List.mem_of_getLast? ended)

theorem ended_closingLines {text : List Char} {start after : List (List Char)}
    (shape : Text.pieces text = start ++ fence :: after) (some_start : start ≠ [])
    (unreturned : ∀ line ∈ after, line.getLast? ≠ some '\r') :
    Text.ended after ++ closingLines text = after := by
  obtain rfl | ⟨early, last, rfl⟩ := List.eq_nil_or_concat' after
  · rw [closingLines_of_pieces shape some_start]
    rfl
  · have split : Text.pieces text = (start ++ fence :: early) ++ [last] := by
      rw [shape, List.append_assoc, List.cons_append]
    have whole := Text.ended_unreturned unreturned
    rw [List.getLast?_concat] at whole
    rw [closingLines_of_pieces split (by simp)]
    simpa using whole

section Written

variable {made : List Char} {before body after : List (List Char)}
  (unreturned : ∀ line ∈ before ++ after, line.getLast? ≠ some '\r')
  (quiet : ∀ line ∈ before, opens line = false) (inside : ∀ line ∈ body, closes line = false)
  (shape : Text.pieces made = (before ++ flowFence :: body) ++ fence :: after)
include unreturned quiet inside shape

theorem parts_of_written :
    parts (Text.lines made) = before.map Part.prose ++
      .region flowFence (body.map Text.dropReturn) fence :: parts (Text.ended after) := by
  have early : before.map Text.dropReturn = before :=
    Text.map_dropReturn fun line member => unreturned line (List.mem_append_left _ member)
  have behind : Text.ended (fence :: after) = fence :: Text.ended after := by
    cases after <;> rfl
  have opening : Text.dropReturn flowFence = flowFence := by decide
  have lines : Text.lines made =
      before ++ (flowFence :: body.map Text.dropReturn ++ fence :: Text.ended after) := by
    rw [Text.lines, shape, Text.ended_append _ (by simp), List.map_append, List.map_cons, early, opening,
      behind, List.append_assoc, List.cons_append]
  rw [lines, parts_prose_append _ quiet, parts_region_append]
  intro line member
  obtain ⟨old, among, rfl⟩ := List.mem_map.mp member
  rw [closes_dropReturn, inside old among]

theorem spliceText_of_written (barren : (parts after).any Part.isRegion = false) (block : List Char) :
    spliceText made block = Text.unlines (before ++ block :: after) := by
  have whole : Text.ended after ++ closingLines made = after :=
    ended_closingLines shape (by simp) fun line member => unreturned line (List.mem_append_right _ member)
  have fallen := parts_of_written unreturned quiet inside shape
  have region : (parts (Text.lines made)).any Part.isRegion = true := by
    rw [fallen]
    simp [Part.isRegion]
  have none : (parts (Text.ended after)).any Part.isRegion = false := by
    rw [closingLines] at whole
    split at whole
    · rw [← any_isRegion_append_empty, whole, barren]
    · rw [List.append_nil] at whole
      rw [whole, barren]
  have kept : (parts (Text.ended after)).filter (fun part => !part.isRegion) =
      parts (Text.ended after) := by
    rw [List.filter_eq_self]
    intro part member
    simpa using List.any_eq_false.mp none part member
  rw [spliceText, if_pos region, fallen, fillRegions_prose_append, fillRegions, fillRegions_filled, kept,
    flatMap_lines_parts, unlines_closingFeed made (by simp), List.append_assoc, List.cons_append, whole]

end Written

/-- Whatever the first chart was, the second one leaves the document that it would have made of the
original. The first chart must not break out of its lines, and no line of the document may end in a
carriage return, since the first writing would drop it. -/
theorem splice_after_splice (document : String) (first second : Graph)
    (unreturned : ∀ line ∈ Text.lines document.toList, line.getLast? ≠ some '\r')
    (feedless : Feedless first) :
    splice (splice document first) second = splice document second := by
  obtain ⟨before, after, setting⟩ := exists_setting document.toList
  obtain ⟨body, block_pieces, inside, _⟩ := exists_block_body feedless.printed
  have shape : Text.pieces (spliceText document.toList (block first)) =
      (before ++ flowFence :: body) ++ fence :: after := by
    rw [setting.pieces, block_pieces]
    simp
  rw [splice, splice, splice, String.toList_ofList,
    spliceText_of_written (setting.unreturned unreturned) setting.quiet inside shape setting.barren,
    setting.spliced]

theorem splice_twice_two_regions :
    let document := "Plan.\n```flow\n[a]\n```\n\n```flow\n[b]\n```"
    let first := Graph.ofText "[a] -> [b] : next"
    let second := Graph.ofText "[c] Last"
    (∀ line ∈ Text.lines document.toList, line.getLast? ≠ some '\r') ∧ Feedless first ∧
    splice (splice document first) second = "Plan.\n```flow\n[c] Last\n```\n" := by
  intro document first second
  have unreturned : ∀ line ∈ Text.lines document.toList, line.getLast? ≠ some '\r' := by
    decide +kernel
  have feedless : Feedless first := { nodes := by decide +kernel, edges := by decide +kernel }
  refine ⟨unreturned, feedless, ?_⟩
  exact (splice_after_splice document first second unreturned feedless).trans (by decide +kernel)

end Chartbook.FlowText
