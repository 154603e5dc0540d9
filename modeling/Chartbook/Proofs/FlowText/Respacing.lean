import Chartbook.Proofs.FlowText.Statement

/-!
What is behind an arrow, read with other blanks in it. An end that can be read up to two closing brackets
without the blanks before them can be read with them.
-/

namespace Chartbook.FlowText.Statement

theorem colon_of_readLabel? {spaces more : List Char} {first : Char} {label : Option String}
    (read : readLabel? (Text.trim (spaces ++ first :: more)) = some label)
    (blank : Text.OnlyBlanks spaces) (visible : Text.isBlank first = false) : first = ':' := by
  rw [Text.trim_blanks_append _ blank] at read
  have shown : ∀ character ∈ (first :: more).head?, Text.isBlank character = false := by
    intro character same
    cases same
    exact visible
  have head := Text.head?_trim shown
  cases kept : Text.trim (first :: more) with
  | nil => simp [kept] at head
  | cons character rest =>
      obtain rfl : character = first := by simpa [kept] using head
      rw [kept] at read
      apply Classical.byContradiction
      intro other
      simp [readLabel?, other] at read

theorem readLabel?_colon {blanks : List Char} (blank : Text.OnlyBlanks blanks) (later : List Char) :
    ∃ label, readLabel? (Text.trim (blanks ++ ':' :: later)) = some label := by
  rw [Text.trim_blanks_append _ blank]
  have visible : ∀ first ∈ (':' :: later).head?, Text.isBlank first = false := by
    simp [Text.isBlank]
  have head := Text.head?_trim visible
  cases kept : Text.trim (':' :: later) with
  | nil => simp [kept] at head
  | cons first rest =>
      have colon : first = ':' := by simpa [kept] using head
      rw [colon, readLabel?]
      split <;> exact ⟨_, rfl⟩

section Respaced

variable {inside blanks rest written : List Char} {found : Reference} {reading : Option String}

theorem respaced_entry (quiet : ¬ Text.Doubled ']' (inside ++ blanks))
    (last : (inside ++ blanks).getLast? ≠ some ']') (blank : Text.OnlyBlanks blanks)
    (visible : Text.Tidy written) (same : Text.trim rest ≠ [] → written = Text.trim rest)
    (taken : Reference.readAs? ('[' :: '[' :: (inside ++ ']' :: ']' :: ' ' :: written)) .entry =
      some found)
    (labelled : readLabel? (Text.trim found.rest) = some reading) :
    ∃ reference,
      Reference.read? ('[' :: '[' :: (inside ++ blanks ++ ']' :: ']' :: rest)) = some reference ∧
      ∃ outcome, readLabel? (Text.trim reference.rest) = some outcome := by
  obtain ⟨within, cut, _, named, solid⟩ := Reference.readAs?_entry_iff.mp taken
  have alone : ¬ Text.Doubled ']' inside := fun doubled =>
    quiet (doubled.trans (List.prefix_append _ _).isInfix)
  obtain ⟨whole, left⟩ | ⟨_, left⟩ := Text.cut?_double_of_not_doubled alone cut
  · rw [left, ← List.singleton_append, Text.trim_blanks_append _ onlyBlanks_space,
      visible.trimmed] at labelled
    have reached : Text.cut? [']', ']'] (inside ++ blanks ++ ']' :: ']' :: rest) =
        some (inside ++ blanks, rest) :=
      (Text.cut?_double_eq_some_iff ']' _ _ _).mpr ⟨rfl, quiet, last⟩
    have shown : Text.trim (inside ++ blanks) ≠ [] := by
      rw [Text.trim_append_blanks _ blank, ← whole, ← named]
      exact solid
    refine ⟨{ kind := .entry, id := Text.trim (inside ++ blanks), rest },
      Reference.read?_of_entry (Reference.readAs?_entry_iff.mpr ⟨_, reached, rfl, rfl, shown⟩), ?_⟩
    by_cases nothing : Text.trim rest = []
    · exact ⟨none, by rw [nothing]; rfl⟩
    · exact ⟨reading, by rw [← same nothing]; exact labelled⟩
  · rw [left] at labelled
    cases colon_of_readLabel? labelled Text.onlyBlanks_nil rfl

theorem before_of_plain
    (taken : Reference.readAs? ('[' :: (inside ++ ']' :: ']' :: ' ' :: written)) .plain = some found)
    (labelled : readLabel? (Text.trim found.rest) = some reading) :
    ∃ before spaces later, inside = before ++ ']' :: (spaces ++ ':' :: later) ∧ ']' ∉ before ∧
      Text.trim before ≠ [] ∧ Text.OnlyBlanks spaces := by
  obtain ⟨before, cut, _, named, solid⟩ := Reference.readAs?_plain_iff.mp taken
  have unclosed := ((Text.cut?_single_eq_some_iff _ _ _ _).mp cut).2
  rw [named] at solid
  obtain ⟨_, left⟩ | ⟨later, within, left⟩ := Text.cut?_single_of_append cut
  · rw [left] at labelled
    cases colon_of_readLabel? labelled Text.onlyBlanks_nil rfl
  · obtain ⟨spaces, blank, spaced, shown⟩ := Text.trimStart_parts later
    cases kept : Text.trimStart later with
    | nil =>
        rw [kept, List.append_nil] at spaced
        rw [left, spaced] at labelled
        cases colon_of_readLabel? labelled blank rfl
    | cons first more =>
        rw [kept] at spaced shown
        rw [left, spaced, List.append_assoc, List.cons_append] at labelled
        obtain rfl := colon_of_readLabel? labelled blank (shown first rfl)
        exact ⟨before, spaces, more, by rw [within, spaced], unclosed, solid, blank⟩

theorem respaced_plain (quiet : ¬ Text.Doubled ']' inside)
    (taken : Reference.read? ('[' :: (inside ++ ']' :: ']' :: ' ' :: written)) = some found)
    (plain : found.kind = .plain)
    (labelled : readLabel? (Text.trim found.rest) = some reading) :
    ∃ reference,
      Reference.read? ('[' :: (inside ++ blanks ++ ']' :: ']' :: rest)) = some reference ∧
      ∃ outcome, readLabel? (Text.trim reference.rest) = some outcome := by
  obtain ⟨first, noEntry⟩ := Reference.read?_eq_some_iff.mp taken
  rw [plain] at first
  obtain ⟨before, spaces, more, within, unclosed, solid, blankSpaces⟩ :=
    before_of_plain first labelled
  have reached : Text.cut? [']'] (inside ++ blanks ++ ']' :: ']' :: rest) =
      some (before, spaces ++ ':' :: (more ++ blanks ++ ']' :: ']' :: rest)) :=
    (Text.cut?_single_eq_some_iff ']' _ _ _).mpr ⟨by simp [within], unclosed⟩
  refine ⟨{ kind := .plain, id := Text.trim before, rest := _ },
    Reference.read?_eq_some_iff.mpr
      ⟨Reference.readAs?_plain_iff.mpr ⟨before, reached, rfl, rfl, solid⟩, fun _ => ?_⟩,
    readLabel?_colon blankSpaces _⟩
  cases entry : Reference.readAs? ('[' :: (inside ++ blanks ++ ']' :: ']' :: rest)) .entry with
  | none => rfl
  | some other =>
      obtain ⟨later, rfl⟩ : ∃ later, before = '[' :: later := by
        obtain ⟨_, opening⟩ := Reference.bracket_of_entry entry
        cases before with
        | nil => exact absurd rfl solid
        | cons first later =>
            rw [within] at opening
            exact ⟨later, by rw [(List.cons.inj opening).1]⟩
      obtain ⟨text, rfl⟩ : ∃ text, inside = '[' :: text := ⟨_, within⟩
      have alone : ¬ Text.Doubled ']' text := fun doubled =>
        quiet (doubled.trans (List.suffix_cons _ _).isInfix)
      obtain ⟨skipped, tail, early, blank⟩ := Reference.blanks_of_readAs?
        (show Reference.readAs? (NodeKind.entry.marks.1 ++ (text ++ ']' :: ']' :: ' ' :: written))
          .entry = none from noEntry plain)
        ⟨text, ' ' :: written, by simp [NodeKind.marks]⟩
      rw [(List.cons.inj within).2] at early alone
      obtain ⟨rfl, _⟩ | ⟨ended, _⟩ := Text.cut?_double_of_not_doubled alone early
      · exact absurd (by simp) (blank.not_mem (rfl : Text.isBlank ']' = false))
      · have colon : ':' ∈ skipped ++ [']'] := by
          rw [← ended]
          simp
        exact absurd (by simpa using colon) (blank.not_mem (rfl : Text.isBlank ':' = false))

theorem respaced_target (quiet : ¬ Text.Doubled ']' ('[' :: inside ++ blanks))
    (last : ('[' :: inside ++ blanks).getLast? ≠ some ']') (blank : Text.OnlyBlanks blanks)
    (visible : Text.Tidy written) (same : Text.trim rest ≠ [] → written = Text.trim rest)
    (taken : Reference.read? ('[' :: (inside ++ ']' :: ']' :: ' ' :: written)) = some found)
    (labelled : readLabel? (Text.trim found.rest) = some reading) :
    ∃ reference,
      Reference.read? ('[' :: (inside ++ blanks ++ ']' :: ']' :: rest)) = some reference ∧
      ∃ outcome, readLabel? (Text.trim reference.rest) = some outcome := by
  have first := (Reference.read?_eq_some_iff.mp taken).1
  obtain kind | ⟨impossible, _⟩ | ⟨_, kind⟩ :=
    Reference.kind_of_opening (show Reference.readAs? (NodeKind.plain.marks.1 ++ _) _ = _ from first)
  · have alone : ¬ Text.Doubled ']' inside := fun doubled =>
      quiet (doubled.trans ⟨['['], blanks, rfl⟩)
    exact respaced_plain alone taken kind labelled
  · cases impossible
  · rw [kind] at first
    obtain ⟨deeper, rfl⟩ : ∃ deeper, inside = '[' :: deeper := by
      obtain ⟨_, opening⟩ := Reference.bracket_of_entry first
      cases inside with
      | nil => cases (List.cons.inj opening).1
      | cons second deeper => exact ⟨deeper, by rw [(List.cons.inj opening).1]⟩
    have inner : ¬ Text.Doubled ']' (deeper ++ blanks) := fun doubled =>
      quiet (doubled.trans (List.suffix_append ['[', '['] _).isInfix)
    have ending : (deeper ++ blanks).getLast? ≠ some ']' := by
      intro closed
      apply last
      have filled : deeper ++ blanks ≠ [] := by
        intro empty
        rw [empty] at closed
        cases closed
      exact (List.getLast?_append_of_ne_nil ['[', '['] filled).trans closed
    exact respaced_entry inner ending blank visible same first labelled

end Respaced

theorem exists_end {target : String} {label outcome : Option String} {reference : Reference}
    (tidy : ∀ written ∈ label, Text.Tidy written.toList)
    (taken : Reference.read? (mentionOf target ++ labelSuffix label) = some reference)
    (labelled : readLabel? (Text.trim reference.rest) = some outcome) :
    ∃ ending, readEnd? (' ' :: (mentionOf target ++ labelSuffix label)) = some ending := by
  refine ⟨(reference.id, outcome), readEnd?_eq_some_iff.mpr ⟨reference, ?_, labelled, rfl⟩⟩
  rw [trim_end tidy]
  exact taken

theorem end_of_respaced {target : String} {label reading : Option String}
    {inside blanks rest written found : List Char}
    (tidy : ∀ written ∈ label, Text.Tidy written.toList)
    (cut : Text.cut? [']', ']'] (mentionOf target ++ labelSuffix label) =
      some (inside ++ blanks, rest))
    (blank : Text.OnlyBlanks blanks) (visible : Text.Tidy written)
    (same : Text.trim rest ≠ [] → written = Text.trim rest)
    (read : readEnd? (' ' :: (inside ++ ']' :: ']' :: ' ' :: written)) = some (found, reading)) :
    ∃ ending, readEnd? (' ' :: (mentionOf target ++ labelSuffix label)) = some ending := by
  by_cases plain : Reference.shapeFor target.toList = .plain
  · obtain ⟨parts, quiet, last⟩ := (Text.cut?_double_eq_some_iff ']' _ _ _).mp cut
    obtain ⟨reference, taken, labelled, rfl⟩ := readEnd?_eq_some_iff.mp read
    obtain ⟨later, rfl⟩ : ∃ later, inside = '[' :: later := by
      rw [mentionOf, plain] at parts
      cases inside with
      | nil =>
          cases blanks with
          | nil => cases (List.cons.inj parts).1
          | cons first blanks =>
              have shown := blank first List.mem_cons_self
              rw [← (List.cons.inj parts).1] at shown
              cases shown
      | cons first later => exact ⟨later, by rw [(List.cons.inj parts).1]⟩
    have trimmed : Text.trim (' ' :: ('[' :: later ++ ']' :: ']' :: ' ' :: written)) =
        '[' :: (later ++ ']' :: ']' :: ' ' :: written) := by
      rw [← List.singleton_append, Text.trim_blanks_append _ onlyBlanks_space]
      refine Text.trim_of_ends (by simp [Text.isBlank]) ?_
      have split : '[' :: later ++ ']' :: ']' :: ' ' :: written =
          '[' :: (later ++ [']', ']', ' ']) ++ written := by simp
      rw [split, List.getLast?_append_of_ne_nil _ visible.nonempty]
      exact visible.last
    rw [trimmed] at taken
    obtain ⟨again, retaken, outcome, relabelled⟩ :=
      respaced_target quiet last blank visible same taken labelled
    have parts : mentionOf target ++ labelSuffix label =
        '[' :: (later ++ blanks ++ ']' :: ']' :: rest) := by simpa using parts
    rw [← parts] at retaken
    exact exists_end tidy retaken relabelled
  · have held := (Reference.shapeFor_holds target.toList).resolve_right plain
    obtain whole | ⟨impossible, _⟩ :=
      Reference.read?_append (Reference.holds_iff.mp held) (labelSuffix label)
    · have labelled := readLabel?_labelSuffix tidy
      exact exists_end tidy whole (by rw [List.nil_append, labelled])
    · exact absurd impossible plain

end Chartbook.FlowText.Statement
