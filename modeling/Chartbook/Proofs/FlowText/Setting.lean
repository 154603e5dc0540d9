import Chartbook.FlowText.Splice
import Chartbook.Proofs.FlowText.Remarks

/-!
Where a chart goes in a document. Whatever chart is put into it, a document becomes the same lines before
and the same lines behind the written chart. These lines open and close no region, they bring along the
prose that stays, and they end in carriage returns only if lines of the document do.
-/

namespace Chartbook.FlowText

theorem WellFenced.split {found : List Part} (fenced : WellFenced found)
    (mixed : ¬found.all Part.isProse = true) :
    ∃ (before : List (List Char)) (part : Part) (rest : List Part),
      found = before.map Part.prose ++ part :: rest ∧
      (∀ line ∈ before, opens line = false) ∧ part.isProse = false ∧
      WellFenced (part :: rest) := by
  induction fenced with
  | nil => simp at mixed
  | @prose line rest ordinary fenced ih =>
      obtain ⟨before, part, later, shape, quiet, begins, tail⟩ :=
        ih (by simpa [Part.isProse] using mixed)
      refine ⟨line :: before, part, later, by simp [shape], ?_, begins, tail⟩
      intro other member
      rcases List.mem_cons.mp member with same | earlier
      · rw [same]
        exact ordinary
      · exact quiet other earlier
  | @region opening body closing rest begun inside ends fenced _ =>
      exact ⟨[], .region opening body closing, rest, rfl, by simp, rfl,
        .region begun inside ends fenced⟩
  | @unfinished opening body begun inside =>
      exact ⟨[], .unfinished opening body, [], rfl, by simp, rfl, .unfinished begun inside⟩

theorem any_isRegion_withoutRegions (found : List Part) :
    (found.filter fun part => !part.isRegion).any Part.isRegion = false := by
  rw [List.any_eq_false]
  intro part member
  simpa using (List.mem_filter.mp member).2

theorem fillRegions_filled (block : List Char) (found : List Part) :
    fillRegions block true found =
      (found.filter fun part => !part.isRegion).flatMap Part.lines := by
  induction found with
  | nil => rfl
  | cons part rest ih =>
      cases part with
      | prose line => simp [fillRegions, Part.isRegion, Part.lines, ih]
      | region opening body closing => simp [fillRegions, Part.isRegion, ih]
      | unfinished opening body => simp [fillRegions, Part.isRegion, Part.lines, ih]

theorem fillRegions_prose_append (block : List Char) (filled : Bool)
    (before : List (List Char)) (rest : List Part) :
    fillRegions block filled (before.map Part.prose ++ rest) =
      before ++ fillRegions block filled rest := by
  induction before with
  | nil => rfl
  | cons line before ih => simp [fillRegions, ih]

theorem fillUnfinished_prose_append (block : List Char) (before : List (List Char))
    (rest : List Part) :
    fillUnfinished block (before.map Part.prose ++ rest) =
      before ++ fillUnfinished block rest := by
  induction before with
  | nil => rfl
  | cons line before ih => simp [fillUnfinished, ih]

/-- The lines before and behind any chart that is put into `text`. -/
structure Setting (text : List Char) (before after : List (List Char)) : Prop where
  spliced : ∀ block, spliceText text block = Text.unlines (before ++ block :: after)
  quiet : ∀ line ∈ before, opens line = false
  barren : (parts after).any Part.isRegion = false
  plain : ∀ line ∈ before ++ after, '\n' ∉ line
  unreturned : (∀ line ∈ Text.lines text, line.getLast? ≠ some '\r') →
    ∀ line ∈ before ++ after, line.getLast? ≠ some '\r'
  kept : (remarks before ++ remarks after).map Text.trimEnd =
    (remarks (standing (Text.lines text))).map Text.trimEnd

theorem Setting.pieces {text : List Char} {before after : List (List Char)}
    (setting : Setting text before after) (block : List Char) :
    Text.pieces (spliceText text block) = before ++ Text.pieces block ++ after := by
  have plainBefore : ∀ line ∈ before, '\n' ∉ line :=
    fun line member => setting.plain line (List.mem_append_left _ member)
  have plainAfter : ∀ line ∈ after, '\n' ∉ line :=
    fun line member => setting.plain line (List.mem_append_right _ member)
  rw [setting.spliced, Text.pieces_unlines (by simp), List.flatMap_append, List.flatMap_cons,
    Text.flatMap_pieces_of_not_mem plainBefore, Text.flatMap_pieces_of_not_mem plainAfter,
    List.append_assoc]

def closingLines (text : List Char) : List (List Char) :=
  if text.getLast? = some '\n' then [[]] else []

theorem unlines_closingFeed (text : List Char) {all : List (List Char)} (some_all : all ≠ []) :
    Text.unlines all ++ closingFeed text = Text.unlines (all ++ closingLines text) := by
  rw [closingFeed, closingLines]
  split
  · rw [Text.unlines_append some_all (by simp)]
    rfl
  · rw [List.append_nil, List.append_nil]

theorem setting_of_lines {text : List Char} {before after : List (List Char)}
    (spliced : ∀ block, spliceText text block =
      Text.unlines (before ++ block :: after) ++ closingFeed text)
    (quiet : ∀ line ∈ before, opens line = false) (barren : (parts after).any Part.isRegion = false)
    (lines : ∀ line ∈ before ++ after, line ∈ Text.lines text)
    (kept : remarks before ++ remarks after = remarks (standing (Text.lines text))) :
    Setting text before (after ++ closingLines text) := by
  have extended {line : List Char} (member : line ∈ before ++ (after ++ closingLines text)) :
      line ∈ Text.lines text ∨ line = [] := by
    rw [← List.append_assoc, List.mem_append, closingLines] at member
    obtain inside | last := member
    · exact .inl (lines line inside)
    · split at last
      · exact .inr (List.mem_singleton.mp last)
      · cases last
  refine
    { spliced := ?_
      quiet := quiet
      barren := ?_
      plain := ?_
      unreturned := ?_
      kept := ?_ }
  · intro block
    rw [spliced, unlines_closingFeed text (by simp), List.append_assoc, List.cons_append]
  · rw [closingLines]
    split
    · rw [any_isRegion_append_empty, barren]
    · rw [List.append_nil, barren]
  · intro line member
    obtain inside | rfl := extended member
    · exact Text.not_mem_of_mem_lines inside
    · exact List.not_mem_nil
  · intro unreturned line member
    obtain inside | rfl := extended member
    · exact unreturned line inside
    · decide
  · rw [closingLines]
    split
    · rw [remarks_append_empty, kept]
    · rw [List.append_nil, kept]

theorem setting_of_region {text : List Char} {before : List (List Char)} {opening closing : List Char}
    {body : List (List Char)} {rest : List Part}
    (shape : parts (Text.lines text) = before.map Part.prose ++ .region opening body closing :: rest)
    (quiet : ∀ line ∈ before, opens line = false) (fenced : WellFenced rest) :
    ∃ after, Setting text before after := by
  let after := (rest.filter fun part => !part.isRegion).flatMap Part.lines
  have region : (parts (Text.lines text)).any Part.isRegion = true := by
    simp [shape, Part.isRegion]
  have whole := flatMap_lines_parts (Text.lines text)
  rw [shape, List.flatMap_append, List.flatMap_map, List.flatMap_cons] at whole
  refine ⟨after ++ closingLines text, setting_of_lines ?_ quiet ?_ ?_ ?_⟩
  · intro block
    rw [spliceText, if_pos region, shape, fillRegions_prose_append, fillRegions, fillRegions_filled]
  · rw [parts_flatMap_lines fenced.withoutRegions, any_isRegion_withoutRegions]
  · intro line member
    rw [← whole]
    rcases List.mem_append.mp member with early | late
    · exact List.mem_append_left _ (by simpa [Part.lines] using early)
    · obtain ⟨part, among, inside⟩ := List.mem_flatMap.mp late
      refine List.mem_append_right _ (List.mem_append_right _ ?_)
      exact List.mem_flatMap.mpr ⟨part, (List.mem_filter.mp among).1, inside⟩
  · rw [remarks_withoutRegions fenced, remarks_of_quiet quiet, standing, if_pos region, remarks,
      shape, List.flatMap_append, List.filter_append, List.flatMap_map]
    simp [Part.outside]

theorem setting_of_unfinished {text : List Char} {before : List (List Char)} {opening : List Char}
    {body : List (List Char)}
    (shape : parts (Text.lines text) = before.map Part.prose ++ [.unfinished opening body])
    (quiet : ∀ line ∈ before, opens line = false) (begun : opens opening = true) :
    ∃ after, Setting text before after := by
  have open_ : ¬(parts (Text.lines text)).any Part.isRegion = true := by simp [shape, Part.isRegion]
  have mixed : ¬(parts (Text.lines text)).all Part.isProse = true := by simp [shape, Part.isProse]
  have whole := flatMap_lines_parts (Text.lines text)
  rw [shape, List.flatMap_append, List.flatMap_map, List.flatMap_singleton] at whole
  have plain : (before.flatMap fun line => (Part.prose line).lines) = before := by simp [Part.lines]
  rw [plain] at whole
  refine ⟨[] ++ closingLines text, setting_of_lines ?_ quiet (by decide) ?_ ?_⟩
  · intro block
    rw [spliceText, if_neg open_, if_neg mixed, shape, fillUnfinished_prose_append, fillUnfinished]
    rfl
  · intro line member
    rw [List.append_nil] at member
    rw [← whole]
    exact List.mem_append_left _ member
  · have first : ((Text.lines text).takeWhile fun line => !opens line) = before := by
      rw [← whole, List.takeWhile_append_of_pos fun line member => by simp [quiet line member]]
      simp [Part.lines, begun]
    rw [standing, if_neg open_, first]
    exact List.append_nil _

/-- What stays of a document that opens no region. -/
def remainder (document : List (List Char)) : List Char :=
  Text.trimEnd (Text.unlines (document.filter fun line => (Statement.read? line).isNone))

section Quiet

variable {document : List (List Char)} (plain : ∀ line ∈ document, '\n' ∉ line)
include plain

theorem piece_of_remainder (visible : remainder document ≠ []) {piece : List Char}
    (member : piece ∈ Text.pieces (remainder document)) :
    piece ∈ document ∨ ∃ cut, Text.OnlyBlanks cut ∧ piece ++ cut ∈ document ∧
      ∀ character ∈ piece.getLast?, Text.isBlank character = false := by
  let prose := document.filter fun line => (Statement.read? line).isNone
  have some_prose : prose ≠ [] := by
    intro none
    apply visible
    change Text.trimEnd (Text.unlines prose) = []
    rw [none]
    rfl
  have whole : Text.pieces (Text.unlines prose) = prose := by
    rw [Text.pieces_unlines some_prose, Text.flatMap_pieces_of_not_mem]
    exact fun line inside => plain line (List.mem_filter.mp inside).1
  obtain early | ⟨cut, blank, longer, shown⟩ := Text.piece_of_trimEnd member
  · rw [whole] at early
    exact .inl (List.mem_filter.mp early).1
  · rw [whole] at longer
    exact .inr ⟨cut, blank, (List.mem_filter.mp longer).1, shown⟩

theorem remarks_remainder (quiet : ∀ line ∈ document, opens line = false) :
    ((Text.pieces (remainder document)).filter isRemark).map Text.trimEnd =
      (remarks (standing document)).map Text.trimEnd := by
  have among : (document.filter fun line => (Statement.read? line).isNone).filter isRemark =
      document.filter isRemark := by
    rw [List.filter_filter]
    refine List.filter_congr fun line _ => ?_
    rw [isRemark, Bool.and_assoc, Bool.and_self]
  rw [standing_eq_self (.inr quiet), remarks_of_quiet quiet, ← among]
  exact remarks_trimEnd_unlines fun line inside => plain line (List.mem_filter.mp inside).1

end Quiet

section QuietText

variable {text : List Char} (quiet : ∀ line ∈ Text.lines text, opens line = false)
include quiet

theorem spliceText_of_quiet (block : List Char) :
    spliceText text block = appendBlock block (Text.lines text) := by
  have prose := (all_isProse_parts_iff (Text.lines text)).mpr quiet
  have closed : ¬(parts (Text.lines text)).any Part.isRegion = true := by
    rw [List.any_eq_true]
    rintro ⟨part, member, region⟩
    have other := List.all_eq_true.mp prose part member
    cases part <;> simp_all [Part.isProse, Part.isRegion]
  rw [spliceText, if_neg closed, if_pos prose]

theorem setting_of_nothing (empty : remainder (Text.lines text) = []) : Setting text [] [[]] where
  spliced := by
    intro block
    rw [spliceText_of_quiet quiet, appendBlock, ← remainder, if_pos empty]
    simp [Text.unlines, Text.join]
  quiet := by simp
  barren := by decide
  plain := by simp
  unreturned := by simp
  kept := by
    rw [← remarks_remainder (fun _ => Text.not_mem_of_mem_lines) quiet, empty]
    decide

theorem setting_of_remainder (visible : remainder (Text.lines text) ≠ []) :
    Setting text (Text.pieces (remainder (Text.lines text)) ++ [[]]) [[]] := by
  have plain : ∀ line ∈ Text.lines text, '\n' ∉ line := fun _ => Text.not_mem_of_mem_lines
  have quietPieces : ∀ piece ∈ Text.pieces (remainder (Text.lines text)), opens piece = false := by
    intro piece member
    obtain inside | ⟨cut, blank, longer, _⟩ := piece_of_remainder plain visible member
    · exact quiet piece inside
    · rw [← opens_trim, ← Text.trim_append_blanks piece blank, opens_trim]
      exact quiet _ longer
  have piece_or {line : List Char}
      (member : line ∈ Text.pieces (remainder (Text.lines text)) ++ [[]] ++ [[]]) :
      line ∈ Text.pieces (remainder (Text.lines text)) ∨ line = [] := by
    simpa using member
  refine
    { spliced := ?_
      quiet := ?_
      barren := by decide
      plain := ?_
      unreturned := ?_
      kept := ?_ }
  · intro block
    have spaced := Text.unlines_append (Text.pieces_ne_nil (remainder (Text.lines text)))
      (List.cons_ne_nil [] [block, []])
    rw [Text.unlines_pieces] at spaced
    rw [spliceText_of_quiet quiet, appendBlock, ← remainder, if_neg visible, ← List.append_cons, spaced]
    simp [Text.unlines, Text.join]
  · intro line member
    obtain piece | rfl := piece_or (List.mem_append_left _ member)
    · exact quietPieces line piece
    · decide
  · intro line member
    obtain piece | rfl := piece_or member
    · exact Text.not_mem_of_mem_pieces piece
    · exact List.not_mem_nil
  · intro unreturned line member
    obtain piece | rfl := piece_or member
    · obtain inside | ⟨_, _, _, shown⟩ := piece_of_remainder plain visible piece
      · exact unreturned line inside
      · intro returned
        exact absurd (shown '\r' returned) (by decide)
    · decide
  · have behind : remarks [[]] = [] := by decide
    rw [remarks_append_empty, behind, List.append_nil, remarks_of_quiet quietPieces,
      remarks_remainder plain quiet]

end QuietText

theorem exists_setting (text : List Char) : ∃ before after, Setting text before after := by
  by_cases prose : (parts (Text.lines text)).all Part.isProse = true
  · have quiet := (all_isProse_parts_iff _).mp prose
    by_cases empty : remainder (Text.lines text) = []
    · exact ⟨_, _, setting_of_nothing quiet empty⟩
    · exact ⟨_, _, setting_of_remainder quiet empty⟩
  · obtain ⟨before, part, rest, shape, quiet, begins, tail⟩ :=
      (wellFenced_parts (Text.lines text)).split prose
    cases tail with
    | prose => cases begins
    | region _ _ _ fenced => exact ⟨before, setting_of_region shape quiet fenced⟩
    | unfinished begun => exact ⟨before, setting_of_unfinished shape quiet begun⟩

end Chartbook.FlowText
