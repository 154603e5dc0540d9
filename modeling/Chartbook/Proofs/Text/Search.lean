import Chartbook.Text.Search
import Mathlib.Data.List.Infix

/-!
Cutting at a mark cuts at its first occurrence.
-/

namespace Chartbook.Text

theorem after?_eq_some_iff (mark text rest : List Char) :
    after? mark text = some rest ↔ text = mark ++ rest := by
  rw [after?]
  induction mark generalizing text with
  | nil =>
      rw [List.isPrefixOf?, Option.some.injEq, List.nil_append]
  | cons first later ih =>
      cases text with
      | nil => simp [List.isPrefixOf?]
      | cons character text =>
          rw [List.isPrefixOf?]
          by_cases same : first = character
          · simp [same, ih]
          · simp [same, Ne.symm same]

theorem after?_eq_none_iff (mark text : List Char) :
    after? mark text = none ↔ ¬ mark <+: text := by
  cases found : after? mark text with
  | none =>
      refine iff_of_true rfl ?_
      rintro ⟨rest, parts⟩
      have stripped := (after?_eq_some_iff mark text rest).mpr parts.symm
      rw [found] at stripped
      cases stripped
  | some rest =>
      refine iff_of_false nofun ?_
      rw [Classical.not_not]
      exact ⟨rest, ((after?_eq_some_iff mark text rest).mp found).symm⟩

theorem before?_eq_some_iff (mark text front : List Char) :
    before? mark text = some front ↔ text = front ++ mark := by
  rw [before?, Option.map_eq_some_iff]
  constructor
  · rintro ⟨rest, found, rfl⟩
    have turned := congrArg List.reverse ((after?_eq_some_iff _ _ _).mp found)
    simpa using turned
  · rintro rfl
    exact ⟨front.reverse, (after?_eq_some_iff _ _ _).mpr (by simp), by simp⟩

variable {mark : List Char}

theorem all_but_last_of_mark (mark before rest : List Char) :
    before ++ mark.dropLast <+: before ++ mark ++ rest := by
  rw [List.append_assoc, List.prefix_append_right_inj]
  exact (List.dropLast_prefix mark).trans (List.prefix_append mark rest)

theorem cut?_eq_some_iff (nonempty : mark ≠ []) (text before rest : List Char) :
    cut? mark text = some (before, rest) ↔
      text = before ++ mark ++ rest ∧ ¬ mark <:+: before ++ mark.dropLast := by
  induction text generalizing before with
  | nil =>
      rw [cut?, if_neg nonempty]
      refine iff_of_false nofun ?_
      rintro ⟨parts, _⟩
      simp [nonempty] at parts
  | cons character text ih =>
      rw [cut?]
      cases found : after? mark (character :: text) with
      | some tail =>
          have start := (after?_eq_some_iff _ _ _).mp found
          have long := List.length_pos_iff.mpr nonempty
          dsimp only
          rw [start, Option.some.injEq, Prod.mk.injEq]
          constructor
          · rintro ⟨rfl, rfl⟩
            refine ⟨rfl, ?_⟩
            intro inside
            have short := inside.length_le
            rw [List.nil_append, List.length_dropLast] at short
            omega
          · rintro ⟨parts, first⟩
            cases before with
            | nil => exact ⟨rfl, List.append_cancel_left parts⟩
            | cons head before =>
                have early := all_but_last_of_mark mark (head :: before) rest
                rw [← parts] at early
                refine absurd (List.IsPrefix.isInfix ?_) first
                refine List.prefix_of_prefix_length_le (List.prefix_append mark tail) early ?_
                rw [List.length_append, List.length_dropLast, List.length_cons]
                omega
      | none =>
          have absent := (after?_eq_none_iff _ _).mp found
          dsimp only
          cases before with
          | nil =>
              refine iff_of_false (by simp) ?_
              rintro ⟨parts, _⟩
              exact absent ⟨rest, parts.symm⟩
          | cons head before =>
              have taken : (cut? mark text).map (fun found => (character :: found.1, found.2)) =
                  some (head :: before, rest) ↔
                  character = head ∧ cut? mark text = some (before, rest) := by
                cases cut? mark text <;> simp [and_assoc, Prod.ext_iff]
              rw [taken, ih]
              constructor
              · rintro ⟨rfl, rfl, first⟩
                refine ⟨rfl, ?_⟩
                rw [List.cons_append, List.infix_cons_iff]
                rintro (early | later)
                · exact absent (early.trans (all_but_last_of_mark mark (character :: before) rest))
                · exact first later
              · rintro ⟨parts, first⟩
                injection parts with same parts
                refine ⟨same, parts, ?_⟩
                intro later
                exact first (later.trans (List.infix_cons_iff.mpr (.inr (List.infix_refl _))))

theorem cut?_eq_none_iff (nonempty : mark ≠ []) (text : List Char) :
    cut? mark text = none ↔ ¬ mark <:+: text := by
  induction text with
  | nil => simp [cut?, nonempty]
  | cons character text ih =>
      rw [cut?, List.infix_cons_iff, not_or, ← after?_eq_none_iff, ← ih]
      cases after? mark (character :: text) <;> simp

theorem exists_cut? (nonempty : mark ≠ []) {text : List Char} (member : mark <:+: text) :
    ∃ before rest, cut? mark text = some (before, rest) := by
  cases found : cut? mark text with
  | none => exact absurd member ((cut?_eq_none_iff nonempty text).mp found)
  | some parts => exact ⟨parts.1, parts.2, rfl⟩

theorem infix_of_cut? (nonempty : mark ≠ []) {text before rest : List Char}
    (found : cut? mark text = some (before, rest)) : mark <:+: text :=
  ⟨before, rest, ((cut?_eq_some_iff nonempty text before rest).mp found).1.symm⟩

theorem cut?_append (nonempty : mark ≠ []) {text before rest : List Char}
    (found : cut? mark text = some (before, rest)) (more : List Char) :
    cut? mark (text ++ more) = some (before, rest ++ more) := by
  obtain ⟨parts, first⟩ := (cut?_eq_some_iff nonempty _ _ _).mp found
  refine (cut?_eq_some_iff nonempty _ _ _).mpr ⟨?_, first⟩
  rw [parts, List.append_assoc _ rest more]

theorem cut?_single_eq_some_iff (character : Char) (text before rest : List Char) :
    cut? [character] text = some (before, rest) ↔
      text = before ++ character :: rest ∧ character ∉ before := by
  rw [cut?_eq_some_iff (by simp)]
  simp [List.singleton_infix_iff]

theorem cut?_single_of_append {character : Char} {text more before rest : List Char}
    (found : cut? [character] (text ++ character :: more) = some (before, rest)) :
    before = text ∧ rest = more ∨
      ∃ later, text = before ++ character :: later ∧ rest = later ++ character :: more := by
  obtain ⟨parts, absent⟩ := (cut?_single_eq_some_iff character _ before rest).mp found
  obtain ⟨longer, same, tail⟩ | ⟨later, same, tail⟩ := List.append_eq_append_iff.mp parts
  · cases longer with
    | nil => exact .inl ⟨by simpa using same, by simpa using tail.symm⟩
    | cons first longer =>
        injection tail with head tail
        refine absurd ?_ absent
        rw [same, head]
        simp
  · cases later with
    | nil => exact .inl ⟨by simpa using same.symm, by simpa using tail⟩
    | cons first later =>
        injection tail with head tail
        subst head
        exact .inr ⟨later, same, tail⟩

theorem pair_infix_append_iff (one two : Char) (left right : List Char) :
    [one, two] <:+: left ++ right ↔
      [one, two] <:+: left ∨ [one, two] <:+: right ∨
        left.getLast? = some one ∧ right.head? = some two := by
  rw [List.infix_append_iff_ne_nil]
  refine or_congr_right (or_congr_right ?_)
  constructor
  · rintro ⟨first, second, some_first, some_second, parts, last, head⟩
    cases first with
    | nil => contradiction
    | cons character first =>
        cases first with
        | nil =>
            obtain ⟨rfl, rfl⟩ : one = character ∧ [two] = second := List.cons.inj parts
            exact ⟨List.singleton_suffix_iff_getLast?_eq_some.mp last,
              List.singleton_prefix_iff_head?_eq_some.mp head⟩
        | cons another first =>
            have size := congrArg List.length parts
            have long := List.length_pos_iff.mpr some_second
            simp only [List.length_cons, List.length_append, List.length_nil] at size
            omega
  · rintro ⟨last, head⟩
    refine ⟨[one], [two], by simp, by simp, rfl, ?_, ?_⟩
    · exact List.singleton_suffix_iff_getLast?_eq_some.mpr last
    · exact List.singleton_prefix_iff_head?_eq_some.mpr head

def Doubled (character : Char) (text : List Char) : Prop :=
  [character, character] <:+: text

instance (character : Char) (text : List Char) : Decidable (Doubled character text) :=
  inferInstanceAs (Decidable ([character, character] <:+: text))

theorem doubled_append_iff (character : Char) (left right : List Char) :
    Doubled character (left ++ right) ↔
      Doubled character left ∨ Doubled character right ∨
        left.getLast? = some character ∧ right.head? = some character :=
  pair_infix_append_iff character character left right

theorem cut?_double_eq_some_iff (character : Char) (text before rest : List Char) :
    cut? [character, character] text = some (before, rest) ↔
      text = before ++ character :: character :: rest ∧
        ¬ Doubled character before ∧ before.getLast? ≠ some character := by
  have alone : ¬ Doubled character [character] := by
    intro inside
    have short := inside.length_le
    simp at short
  have across := doubled_append_iff character before [character]
  simp only [alone, false_or, List.head?_cons, and_true] at across
  rw [cut?_eq_some_iff (by simp), List.dropLast_cons_of_ne_nil (by simp), List.dropLast_singleton,
    ← Doubled, across, not_or, List.append_assoc]
  rfl

theorem cut?_double_of_not_doubled {character : Char} {text more before rest : List Char}
    (plain : ¬ Doubled character text)
    (found : cut? [character, character] (text ++ character :: character :: more) =
      some (before, rest)) :
    before = text ∧ rest = more ∨ text = before ++ [character] ∧ rest = character :: more := by
  by_cases last : text.getLast? = some character
  · right
    obtain ⟨start, rfl⟩ := List.getLast?_eq_some_iff.mp last
    have apart := mt (doubled_append_iff character start [character]).mpr plain
    rw [not_or, not_or] at apart
    have early := (cut?_double_eq_some_iff character
      (start ++ [character] ++ character :: character :: more) start (character :: more)).mpr
        ⟨by simp, apart.1, fun again => apart.2.2 ⟨again, rfl⟩⟩
    rw [found, Option.some.injEq, Prod.mk.injEq] at early
    exact ⟨by rw [early.1], early.2⟩
  · left
    have exactly := (cut?_double_eq_some_iff character _ text more).mpr ⟨rfl, plain, last⟩
    rw [found, Option.some.injEq, Prod.mk.injEq] at exactly
    exact exactly

theorem cut?_double_append {character : Char} {text more before rest : List Char}
    (plain : ¬ Doubled character text) (last : text.getLast? ≠ some character)
    (found : cut? [character, character] (text ++ more) = some (before, rest)) :
    ∃ later, before = text ++ later ∧ cut? [character, character] more = some (later, rest) := by
  cases tail : cut? [character, character] more with
  | none =>
      have absent := (cut?_eq_none_iff (by simp) more).mp tail
      have whole := mt (doubled_append_iff character text more).mp
      simp only [plain, last, false_and, or_false, false_or] at whole
      rw [(cut?_eq_none_iff (by simp) (text ++ more)).mpr (whole absent)] at found
      cases found
  | some parts =>
      obtain ⟨later, tailRest⟩ := parts
      obtain ⟨same, quiet, ending⟩ := (cut?_double_eq_some_iff character more later tailRest).mp tail
      have whole := (cut?_double_eq_some_iff character (text ++ more) (text ++ later) tailRest).mpr
        ⟨by rw [same, List.append_assoc],
          by simp [doubled_append_iff, plain, quiet, last],
          by cases final : later.getLast? <;> simp_all⟩
      rw [found, Option.some.injEq, Prod.mk.injEq] at whole
      exact ⟨later, whole.1, by rw [whole.2]⟩

end Chartbook.Text
