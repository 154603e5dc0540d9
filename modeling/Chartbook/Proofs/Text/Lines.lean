import Chartbook.Text.Lines
import Chartbook.Proofs.Text.Blank
import Mathlib.Data.List.Basic

/-!
Texts and their pieces between line feeds. A line is a piece up to trimming, and the lines that end in no
carriage return are the pieces themselves.
-/

namespace Chartbook.Text

theorem pieces_ne_nil (text : List Char) : pieces text ≠ [] := by
  cases text with
  | nil => simp [pieces]
  | cons character rest =>
      rw [pieces]
      split
      · simp
      · split <;> simp

theorem pieces_feed (rest : List Char) : pieces ('\n' :: rest) = [] :: pieces rest := by
  simp [pieces]

theorem pieces_cons {character : Char} {text first : List Char} {later : List (List Char)}
    (plain : character ≠ '\n') (found : pieces text = first :: later) :
    pieces (character :: text) = (character :: first) :: later := by
  simp [pieces, plain, found]

theorem pieces_append (left right : List Char) :
    ∃ before last first after, pieces left = before ++ [last] ∧ pieces right = first :: after ∧
      pieces (left ++ right) = before ++ (last ++ first) :: after := by
  induction left with
  | nil =>
      obtain ⟨first, after, found⟩ := List.exists_cons_of_ne_nil (pieces_ne_nil right)
      exact ⟨[], [], first, after, rfl, found, found⟩
  | cons character rest ih =>
      obtain ⟨before, last, first, after, ofRest, ofRight, ofBoth⟩ := ih
      by_cases feed : character = '\n'
      · subst feed
        refine ⟨[] :: before, last, first, after, ?_, ofRight, ?_⟩
        · rw [pieces_feed, ofRest, List.cons_append]
        · rw [List.cons_append, pieces_feed, ofBoth, List.cons_append]
      · cases before with
        | nil =>
            refine ⟨[], character :: last, first, after, ?_, ofRight, ?_⟩
            · exact pieces_cons feed ofRest
            · exact pieces_cons feed ofBoth
        | cons line before =>
            refine ⟨(character :: line) :: before, last, first, after, ?_, ofRight, ?_⟩
            · exact pieces_cons feed ofRest
            · exact pieces_cons feed ofBoth

theorem pieces_append_feed (left right : List Char) :
    pieces (left ++ '\n' :: right) = pieces left ++ pieces right := by
  obtain ⟨before, last, first, after, ofLeft, ofRight, ofBoth⟩ := pieces_append left ('\n' :: right)
  rw [pieces_feed] at ofRight
  obtain ⟨rfl, rfl⟩ := List.cons.inj ofRight
  rw [ofBoth, ofLeft]
  simp

theorem pieces_of_not_mem {line : List Char} (plain : '\n' ∉ line) : pieces line = [line] := by
  induction line with
  | nil => rfl
  | cons character rest ih =>
      simp only [List.mem_cons, not_or] at plain
      exact pieces_cons (Ne.symm plain.1) (ih plain.2)

theorem not_mem_of_mem_pieces {text piece : List Char} (member : piece ∈ pieces text) :
    '\n' ∉ piece := by
  induction text generalizing piece with
  | nil => simp_all [pieces]
  | cons character rest ih =>
      by_cases feed : character = '\n'
      · subst feed
        rw [pieces_feed] at member
        rcases List.mem_cons.mp member with first | later
        · simp [first]
        · exact ih later
      · obtain ⟨first, after, found⟩ := List.exists_cons_of_ne_nil (pieces_ne_nil rest)
        rw [pieces_cons feed found] at member
        rcases List.mem_cons.mp member with same | later
        · rw [same]
          simp only [List.mem_cons, not_or]
          exact ⟨Ne.symm feed, ih (by simp [found])⟩
        · exact ih (by simp [found, later])

theorem mem_of_mem_pieces {text piece : List Char} (member : piece ∈ pieces text) :
    ∀ character ∈ piece, character ∈ text := by
  induction text generalizing piece with
  | nil => simp_all [pieces]
  | cons head rest ih =>
      intro character inside
      by_cases feed : head = '\n'
      · subst feed
        rw [pieces_feed] at member
        rcases List.mem_cons.mp member with first | later
        · simp [first] at inside
        · exact List.mem_cons_of_mem _ (ih later character inside)
      · obtain ⟨first, after, found⟩ := List.exists_cons_of_ne_nil (pieces_ne_nil rest)
        rw [pieces_cons feed found] at member
        rcases List.mem_cons.mp member with same | later
        · rw [same] at inside
          rcases List.mem_cons.mp inside with head | tail
          · simp [head]
          · exact List.mem_cons_of_mem _ (ih (by simp [found]) character tail)
        · exact List.mem_cons_of_mem _ (ih (by simp [found, later]) character inside)

theorem pieces_unlines {all : List (List Char)} (nonempty : all ≠ []) :
    pieces (unlines all) = all.flatMap pieces := by
  rw [unlines]
  fun_induction join ['\n'] all with
  | case1 => contradiction
  | case2 last => simp
  | case3 line next rest ih =>
      rw [List.append_assoc, List.singleton_append, pieces_append_feed, ih (by simp)]
      simp

theorem flatMap_pieces_of_not_mem {all : List (List Char)} (plain : ∀ line ∈ all, '\n' ∉ line) :
    all.flatMap pieces = all := by
  induction all with
  | nil => rfl
  | cons line rest ih =>
      rw [List.flatMap_cons, pieces_of_not_mem (plain line (by simp)),
        ih fun other member => plain other (by simp [member])]
      rfl

theorem pieces_append_blanks (text : List Char) {blanks : List Char} (blank : OnlyBlanks blanks) :
    ∃ after, (∀ line ∈ after, line = []) ∧
      (pieces (text ++ blanks)).map trimEnd = (pieces text).map trimEnd ++ after := by
  obtain ⟨before, last, first, after, ofText, ofBlanks, ofBoth⟩ := pieces_append text blanks
  have visible : ∀ line ∈ first :: after, OnlyBlanks line := by
    intro line member character inside
    rw [← ofBlanks] at member
    exact blank character (mem_of_mem_pieces member character inside)
  refine ⟨after.map trimEnd, ?_, ?_⟩
  · intro line member
    obtain ⟨other, inside, rfl⟩ := List.mem_map.mp member
    exact trimEnd_of_blanks (visible other (List.mem_cons_of_mem first inside))
  · rw [ofBoth, ofText]
    simp [trimEnd_append_blanks last (visible first List.mem_cons_self)]

@[simp]
theorem trimEnd_dropReturn (line : List Char) : trimEnd (dropReturn line) = trimEnd line := by
  rw [dropReturn]
  split
  · rename_i returned
    obtain ⟨start, shape⟩ := List.getLast?_eq_some_iff.mp returned
    rw [shape, List.dropLast_concat]
    refine (trimEnd_append_blanks start ?_).symm
    intro character member
    rw [List.mem_singleton.mp member]
    decide
  · rfl

theorem not_mem_dropReturn {line : List Char} {character : Char} (absent : character ∉ line) :
    character ∉ dropReturn line := by
  rw [dropReturn]
  split
  · exact fun member => absent (List.dropLast_subset line member)
  · exact absent

theorem ended_map_trimEnd (all : List (List Char)) :
    (ended all).map trimEnd = all.map trimEnd ∨
      (ended all).map trimEnd ++ [[]] = all.map trimEnd := by
  fun_induction ended all with
  | case1 => simp
  | case2 =>
      right
      simp [trimEnd_of_blanks onlyBlanks_nil]
  | case3 last => simp
  | case4 line next rest ih =>
      rcases ih with same | more
      · left
        simpa using same
      · right
        simpa using more

theorem map_trim_of_map_trimEnd {all other : List (List Char)}
    (same : all.map trimEnd = other.map trimEnd) : all.map trim = other.map trim := by
  have trimmed := congrArg (List.map trim) same
  simpa [List.map_map, Function.comp_def] using trimmed

theorem not_mem_of_mem_ended {all : List (List Char)} (plain : ∀ line ∈ all, '\n' ∉ line) :
    ∀ line ∈ ended all, '\n' ∉ line := by
  fun_induction ended all with
  | case1 => simp
  | case2 => simp
  | case3 last => exact plain
  | case4 line next rest ih =>
      intro found member
      rcases List.mem_cons.mp member with same | later
      · rw [same]
        exact not_mem_dropReturn (plain line (by simp))
      · exact ih (fun other inside => plain other (by simp_all)) found later

theorem not_mem_of_mem_lines {text line : List Char} (member : line ∈ lines text) :
    '\n' ∉ line :=
  not_mem_of_mem_ended (fun _ => not_mem_of_mem_pieces) line member

theorem unlines_append {left right : List (List Char)} (some_left : left ≠ []) (some_right : right ≠ []) :
    unlines (left ++ right) = unlines left ++ '\n' :: unlines right := by
  obtain ⟨first, later, rfl⟩ := List.exists_cons_of_ne_nil some_right
  rw [unlines, unlines]
  fun_induction join ['\n'] left with
  | case1 => contradiction
  | case2 last => simp [join, unlines]
  | case3 line next rest ih =>
      have tail := ih (by simp)
      rw [List.cons_append, List.cons_append, join, ← List.cons_append, tail]
      simp

theorem unlines_pieces (text : List Char) : unlines (pieces text) = text := by
  induction text with
  | nil => rfl
  | cons character rest ih =>
      by_cases feed : character = '\n'
      · subst feed
        have start : unlines [[]] = [] := rfl
        rw [pieces_feed, ← List.singleton_append, unlines_append (by simp) (pieces_ne_nil rest), start,
          ih, List.nil_append]
      · obtain ⟨first, later, found⟩ := List.exists_cons_of_ne_nil (pieces_ne_nil rest)
        rw [found] at ih
        rw [pieces_cons feed found, ← ih]
        cases later <;> rfl

theorem getLast?_unlines (all : List (List Char)) {last : List Char} (visible : last ≠ []) :
    (unlines (all ++ [last])).getLast? = last.getLast? := by
  by_cases some_all : all = []
  · rw [some_all]
    rfl
  · have shape : unlines (all ++ [last]) = (unlines all ++ ['\n']) ++ last := by
      rw [unlines_append some_all (by simp), List.append_assoc]
      rfl
    rw [shape, List.getLast?_append_of_ne_nil _ visible]

theorem piece_of_trimEnd {text piece : List Char} (member : piece ∈ pieces (trimEnd text)) :
    piece ∈ pieces text ∨ ∃ cut, OnlyBlanks cut ∧ piece ++ cut ∈ pieces text ∧
      ∀ character ∈ piece.getLast?, isBlank character = false := by
  obtain ⟨blanks, blank, whole, visible⟩ := trimEnd_parts text
  obtain ⟨before, last, first, after, ofText, ofBlanks, ofBoth⟩ := pieces_append (trimEnd text) blanks
  rw [← whole] at ofBoth
  rw [ofText] at member
  rw [ofBoth]
  rcases List.mem_append.mp member with early | late
  · exact .inl (List.mem_append_left _ early)
  · obtain rfl := List.mem_singleton.mp late
    refine .inr ⟨first, ?_, List.mem_append_right _ List.mem_cons_self, ?_⟩
    · have among : first ∈ pieces blanks := by
        rw [ofBlanks]
        exact List.mem_cons_self
      exact fun character inside => blank character (mem_of_mem_pieces among character inside)
    · intro character found
      have some_piece : piece ≠ [] := by
        rintro rfl
        cases found
      apply visible character
      rw [← unlines_pieces (trimEnd text), ofText, getLast?_unlines before some_piece]
      exact found

theorem ended_append (left : List (List Char)) {right : List (List Char)} (some_right : right ≠ []) :
    ended (left ++ right) = left.map dropReturn ++ ended right := by
  obtain ⟨first, later, rfl⟩ := List.exists_cons_of_ne_nil some_right
  induction left with
  | nil => rfl
  | cons line rest ih =>
      rw [List.map_cons, List.cons_append, List.cons_append, ← ih]
      cases rest <;> rfl

section Unreturned

variable {all : List (List Char)} (unreturned : ∀ line ∈ all, line.getLast? ≠ some '\r')
include unreturned

theorem map_dropReturn : all.map dropReturn = all := by
  have same : ∀ line ∈ all, dropReturn line = line := by
    intro line member
    rw [dropReturn, if_neg (unreturned line member)]
  rw [List.map_congr_left same, List.map_id']

theorem ended_unreturned : ended all ++ (if all.getLast? = some [] then [[]] else []) = all := by
  obtain rfl | ⟨start, last, rfl⟩ := List.eq_nil_or_concat' all
  · rfl
  · have early : ∀ line ∈ start, line.getLast? ≠ some '\r' :=
      fun line member => unreturned line (List.mem_append_left _ member)
    rw [ended_append start (by simp), map_dropReturn early, List.getLast?_concat]
    by_cases empty : last = [] <;> simp [ended, empty]

end Unreturned

end Chartbook.Text
