import Chartbook.Proofs.FlowText.Region
import Mathlib.Data.List.TakeWhile

/-!
The prose of a document: its lines outside the closed regions that mean nothing in a chart. What is
prose shows up to the blanks at the ends of the lines.
-/

namespace Chartbook.FlowText

/-- The lines of a part that no closed region holds. -/
def Part.outside : Part → List (List Char)
  | prose line => [line]
  | region .. => []
  | unfinished opening body => opening :: body

/-- Neither blank nor a statement nor the beginning of a region. -/
def isRemark (line : List Char) : Bool :=
  !(Text.trim line).isEmpty && !opens line && (Statement.read? line).isNone

def remarks (document : List (List Char)) : List (List Char) :=
  ((parts document).flatMap Part.outside).filter isRemark

/-- The lines whose prose stays when a chart is put into a document: all of them, or, where a region
is opened and none closed, those before the one that is opened. -/
def standing (document : List (List Char)) : List (List Char) :=
  if (parts document).any Part.isRegion then document
  else document.takeWhile fun line => !opens line

theorem takeWhile_of_quiet {document : List (List Char)}
    (quiet : ∀ line ∈ document, opens line = false) :
    (document.takeWhile fun line => !opens line) = document :=
  List.takeWhile_eq_self_iff.mpr fun line member => by simp [quiet line member]

theorem standing_eq_self {document : List (List Char)}
    (open_or_closed : (parts document).any Part.isRegion = true ∨
      ∀ line ∈ document, opens line = false) : standing document = document := by
  rw [standing]
  split
  · rfl
  · exact takeWhile_of_quiet (open_or_closed.resolve_left ‹_›)

@[simp]
theorem isRemark_trimEnd (line : List Char) : isRemark (Text.trimEnd line) = isRemark line := by
  simp only [isRemark, Text.trim_trimEnd]
  rw [← opens_trim, ← Statement.read?_trim, Text.trim_trimEnd, opens_trim, Statement.read?_trim]

theorem filter_isRemark_map_trimEnd (all : List (List Char)) :
    (all.map Text.trimEnd).filter isRemark = (all.filter isRemark).map Text.trimEnd := by
  have same : isRemark ∘ Text.trimEnd = isRemark := by
    funext line
    exact isRemark_trimEnd line
  rw [List.filter_map, same]

theorem filter_isRemark_empty {all : List (List Char)} (empty : ∀ line ∈ all, line = []) :
    all.filter isRemark = [] := by
  rw [List.filter_eq_nil_iff]
  intro line member
  rw [empty line member]
  decide

theorem remarks_map_trimEnd (document : List (List Char)) :
    remarks (document.map Text.trimEnd) = (remarks document).map Text.trimEnd := by
  have opens_trimEnd (line : List Char) : opens (Text.trimEnd line) = opens line := by
    rw [← opens_trim, Text.trim_trimEnd, opens_trim]
  have closes_trimEnd (line : List Char) : closes (Text.trimEnd line) = closes line := by
    rw [← closes_trim, Text.trim_trimEnd, closes_trim]
  have whole : parts (document.map Text.trimEnd) = (parts document).map (Part.map Text.trimEnd) :=
    partsFrom_map opens_trimEnd closes_trimEnd none document
  have outsides : ∀ part : Part,
      (part.map Text.trimEnd).outside = part.outside.map Text.trimEnd := by
    intro part
    cases part <;> rfl
  rw [remarks, remarks, whole, List.flatMap_map, ← filter_isRemark_map_trimEnd, List.map_flatMap]
  simp only [outsides]

theorem flatMap_outside_append_empty (document : List (List Char)) :
    (parts (document ++ [[]])).flatMap Part.outside = (parts document).flatMap Part.outside ++ [[]] := by
  obtain plain | ⟨before, opening, body, shape, longer⟩ := partsFrom_append_empty none document
  · simp [parts, plain, Part.outside]
  · simp [parts, shape, longer, Part.outside]

theorem remarks_append_empty (document : List (List Char)) :
    remarks (document ++ [[]]) = remarks document := by
  have blank : [([] : List Char)].filter isRemark = [] := filter_isRemark_empty (by simp)
  rw [remarks, flatMap_outside_append_empty, List.filter_append, blank, List.append_nil, remarks]

theorem remarks_quiet_append {before : List (List Char)} (rest : List (List Char))
    (quiet : ∀ line ∈ before, opens line = false) :
    remarks (before ++ rest) = before.filter isRemark ++ remarks rest := by
  have outsides : (before.map Part.prose).flatMap Part.outside = before := by
    rw [List.flatMap_map]
    simp [Part.outside]
  rw [remarks, parts_prose_append rest quiet, List.flatMap_append, List.filter_append, outsides,
    remarks]

theorem remarks_of_quiet {document : List (List Char)}
    (quiet : ∀ line ∈ document, opens line = false) : remarks document = document.filter isRemark := by
  have scanned := remarks_quiet_append [] quiet
  rw [List.append_nil] at scanned
  rw [scanned]
  exact List.append_nil _

theorem remarks_region_append {body : List (List Char)} (after : List (List Char))
    (inside : ∀ line ∈ body, closes line = false) :
    remarks ((flowFence :: body ++ [fence]) ++ after) = remarks after := by
  rw [remarks, List.append_assoc, List.singleton_append, parts_region_append after inside]
  rfl

theorem remarks_withoutRegions {found : List Part} (fenced : WellFenced found) :
    remarks ((found.filter fun part => !part.isRegion).flatMap Part.lines) =
      (found.flatMap Part.outside).filter isRemark := by
  have outsides : (found.filter fun part => !part.isRegion).flatMap Part.outside =
      found.flatMap Part.outside := by
    clear fenced
    induction found with
    | nil => rfl
    | cons part rest ih =>
        cases part with
        | prose line => simpa [Part.isRegion, Part.outside] using ih
        | region opening body closing => simpa [Part.isRegion, Part.outside] using ih
        | unfinished opening body => simpa [Part.isRegion, Part.outside] using ih
  rw [remarks, parts_flatMap_lines fenced.withoutRegions, outsides]

theorem remarks_lines (text : List Char) :
    (remarks (Text.lines text)).map Text.trimEnd =
      (remarks (Text.pieces text)).map Text.trimEnd := by
  rw [← remarks_map_trimEnd, ← remarks_map_trimEnd, Text.lines]
  rcases Text.ended_map_trimEnd (Text.pieces text) with same | more
  · rw [same]
  · rw [← more, remarks_append_empty]

theorem remarks_trimEnd_unlines {all : List (List Char)} (plain : ∀ line ∈ all, '\n' ∉ line) :
    ((Text.pieces (Text.trimEnd (Text.unlines all))).filter isRemark).map Text.trimEnd =
      (all.filter isRemark).map Text.trimEnd := by
  by_cases empty : all = []
  · rw [empty]
    decide
  · obtain ⟨cut, blank, whole, _⟩ := Text.trimEnd_parts (Text.unlines all)
    obtain ⟨after, trailing, lengthened⟩ :=
      Text.pieces_append_blanks (Text.trimEnd (Text.unlines all)) blank
    rw [← whole, Text.pieces_unlines empty, Text.flatMap_pieces_of_not_mem plain] at lengthened
    rw [← filter_isRemark_map_trimEnd, ← filter_isRemark_map_trimEnd, lengthened,
      List.filter_append, filter_isRemark_empty trailing, List.append_nil]

end Chartbook.FlowText
