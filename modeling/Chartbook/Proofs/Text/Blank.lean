import Chartbook.Text.Blank
import Mathlib.Data.List.Basic

/-!
Trimming takes the blanks at both ends and nothing else.
-/

namespace Chartbook.Text

def OnlyBlanks (text : List Char) : Prop :=
  ∀ character ∈ text, isBlank character = true

def weight (text : List Char) : Nat :=
  text.countP fun character => !isBlank character

theorem onlyBlanks_nil : OnlyBlanks [] := by
  intro character member
  simp at member

theorem onlyBlanks_append (left right : List Char) :
    OnlyBlanks (left ++ right) ↔ OnlyBlanks left ∧ OnlyBlanks right := by
  simp only [OnlyBlanks, List.mem_append, or_imp, forall_and]

theorem onlyBlanks_reverse (text : List Char) : OnlyBlanks text.reverse ↔ OnlyBlanks text := by
  simp only [OnlyBlanks, List.mem_reverse]

theorem OnlyBlanks.not_mem {text : List Char} {character : Char} (blank : OnlyBlanks text)
    (visible : isBlank character = false) : character ∉ text := by
  intro member
  rw [blank character member] at visible
  cases visible

theorem dropWhile_isBlank_of_blanks {blanks : List Char} (blank : OnlyBlanks blanks) :
    blanks.dropWhile isBlank = [] := by
  have dropped : (blanks ++ []).dropWhile isBlank = List.dropWhile isBlank [] :=
    List.dropWhile_append_of_pos blank
  rwa [List.append_nil] at dropped

theorem trimStart_blanks_append {blanks : List Char} (text : List Char)
    (blank : OnlyBlanks blanks) : trimStart (blanks ++ text) = trimStart text :=
  List.dropWhile_append_of_pos blank

theorem trimEnd_append_blanks {blanks : List Char} (text : List Char)
    (blank : OnlyBlanks blanks) : trimEnd (text ++ blanks) = trimEnd text := by
  rw [trimEnd, List.reverse_append,
    List.dropWhile_append_of_pos ((onlyBlanks_reverse blanks).mpr blank), trimEnd]

theorem trimStart_parts (text : List Char) :
    ∃ before, OnlyBlanks before ∧ text = before ++ trimStart text ∧
      ∀ first ∈ (trimStart text).head?, isBlank first = false := by
  refine ⟨text.takeWhile isBlank, ?_, ?_, ?_⟩
  · intro character member
    exact List.all_eq_true.mp List.all_takeWhile character member
  · exact List.takeWhile_append_dropWhile.symm
  · intro first found
    have outcome := List.head?_dropWhile_not isBlank text
    rw [trimStart] at found
    rw [found] at outcome
    exact outcome

theorem trimEnd_parts (text : List Char) :
    ∃ after, OnlyBlanks after ∧ text = trimEnd text ++ after ∧
      ∀ last ∈ (trimEnd text).getLast?, isBlank last = false := by
  obtain ⟨before, blank, parts, first⟩ := trimStart_parts text.reverse
  refine ⟨before.reverse, (onlyBlanks_reverse before).mpr blank, ?_, ?_⟩
  · have turned := congrArg List.reverse parts
    simpa [trimEnd, trimStart] using turned
  · intro last found
    apply first last
    simpa [trimEnd, trimStart] using found

theorem trimStart_of_head {text : List Char}
    (first : ∀ character ∈ text.head?, isBlank character = false) : trimStart text = text := by
  cases text with
  | nil => rfl
  | cons character rest =>
      have visible : isBlank character = false := first character rfl
      simp [trimStart, visible]

theorem trimEnd_of_getLast {text : List Char}
    (last : ∀ character ∈ text.getLast?, isBlank character = false) : trimEnd text = text := by
  have turned : trimStart text.reverse = text.reverse :=
    trimStart_of_head (by simpa using last)
  rw [trimEnd]
  rw [trimStart] at turned
  rw [turned, List.reverse_reverse]

theorem trim_of_ends {text : List Char}
    (first : ∀ character ∈ text.head?, isBlank character = false)
    (last : ∀ character ∈ text.getLast?, isBlank character = false) : trim text = text := by
  rw [trim, trimStart_of_head first, trimEnd_of_getLast last]

theorem trim_blanks_append {blanks : List Char} (text : List Char)
    (blank : OnlyBlanks blanks) : trim (blanks ++ text) = trim text := by
  rw [trim, trimStart_blanks_append text blank, trim]

theorem trim_of_blanks {blanks : List Char} (blank : OnlyBlanks blanks) : trim blanks = [] := by
  rw [trim, trimStart, dropWhile_isBlank_of_blanks blank]
  rfl

theorem trim_append_blanks {blanks : List Char} (text : List Char)
    (blank : OnlyBlanks blanks) : trim (text ++ blanks) = trim text := by
  obtain ⟨before, cut, parts, first⟩ := trimStart_parts text
  rw [parts, List.append_assoc, trim_blanks_append _ cut, trim_blanks_append _ cut]
  cases kept : trimStart text with
  | nil => rw [List.nil_append, trim_of_blanks blank]; rfl
  | cons character rest =>
      have visible : ∀ head ∈ (trimStart text).head?, isBlank head = false := first
      rw [kept] at visible
      rw [trim, trimStart_of_head (by simpa using visible), trimEnd_append_blanks _ blank, trim,
        trimStart_of_head visible]

theorem trim_parts (text : List Char) :
    ∃ before after, OnlyBlanks before ∧ OnlyBlanks after ∧
      text = before ++ trim text ++ after := by
  obtain ⟨before, cutBefore, parts, _⟩ := trimStart_parts text
  obtain ⟨after, cutAfter, rest, _⟩ := trimEnd_parts (trimStart text)
  refine ⟨before, after, cutBefore, cutAfter, ?_⟩
  rw [List.append_assoc, trim, ← rest]
  exact parts

theorem trim_infix (text : List Char) : trim text <:+: text := by
  obtain ⟨before, after, _, _, parts⟩ := trim_parts text
  exact ⟨before, after, parts.symm⟩

theorem trim_last {text : List Char} :
    ∀ last ∈ (trim text).getLast?, isBlank last = false := by
  obtain ⟨_, _, _, last⟩ := trimEnd_parts (trimStart text)
  exact last

theorem trim_first {text : List Char} :
    ∀ first ∈ (trim text).head?, isBlank first = false := by
  obtain ⟨_, _, _, visible⟩ := trimStart_parts text
  obtain ⟨after, _, parts, _⟩ := trimEnd_parts (trimStart text)
  intro first found
  apply visible first
  rw [parts]
  rw [trim] at found
  cases kept : trimEnd (trimStart text) with
  | nil => simp [kept] at found
  | cons character rest => simpa [kept] using found

@[simp]
theorem trim_trim (text : List Char) : trim (trim text) = trim text :=
  trim_of_ends trim_first trim_last

@[simp]
theorem trim_trimEnd (text : List Char) : trim (trimEnd text) = trim text := by
  obtain ⟨after, blank, parts, _⟩ := trimEnd_parts text
  have whole := trim_append_blanks (trimEnd text) blank
  rw [← parts] at whole
  exact whole.symm

theorem trimEnd_of_blanks {blanks : List Char} (blank : OnlyBlanks blanks) : trimEnd blanks = [] := by
  have cut := trimEnd_append_blanks [] blank
  rwa [List.nil_append] at cut

theorem trim_eq_nil_iff (text : List Char) : trim text = [] ↔ OnlyBlanks text := by
  constructor
  · intro empty
    obtain ⟨before, after, cutBefore, cutAfter, parts⟩ := trim_parts text
    rw [parts, empty, List.append_nil]
    exact (onlyBlanks_append before after).mpr ⟨cutBefore, cutAfter⟩
  · exact trim_of_blanks

theorem head?_trim {text : List Char}
    (visible : ∀ first ∈ text.head?, isBlank first = false) : (trim text).head? = text.head? := by
  obtain ⟨before, after, blankBefore, blankAfter, parts⟩ := trim_parts text
  have skipped {blanks rest : List Char} (blank : OnlyBlanks blanks)
      (same : text = blanks ++ rest) : blanks = [] := by
    cases blanks with
    | nil => rfl
    | cons first later =>
        have shown := visible first (by rw [same]; rfl)
        exact absurd List.mem_cons_self (blank.not_mem shown)
  have start : before = [] := skipped blankBefore (parts.trans (List.append_assoc _ _ _))
  rw [start, List.nil_append] at parts
  cases kept : trim text with
  | nil =>
      rw [kept, List.nil_append] at parts
      have finish : after = [] := skipped blankAfter (parts.trans (List.append_nil after).symm)
      rw [parts, finish]
  | cons first later =>
      rw [kept] at parts
      rw [parts]
      rfl

/-- Something of a text, with no blanks around it. -/
structure Tidy (text : List Char) : Prop where
  trimmed : trim text = text
  nonempty : text ≠ []

instance (text : List Char) : Decidable (Tidy text) :=
  decidable_of_iff (trim text = text ∧ text ≠ [])
    ⟨fun held => ⟨held.1, held.2⟩, fun tidy => ⟨tidy.trimmed, tidy.nonempty⟩⟩

theorem tidy_trim {text : List Char} (visible : trim text ≠ []) : Tidy (trim text) :=
  { trimmed := trim_trim text, nonempty := visible }

theorem tidy_of_nonBlank? {text shown : String} (visible : nonBlank? text = some shown) :
    Tidy shown.toList := by
  rw [nonBlank?] at visible
  split at visible
  · cases visible
  · rename_i solid
    cases visible
    rw [trimmed, String.toList_ofList]
    refine tidy_trim ?_
    rw [Ne, trim_eq_nil_iff]
    simpa [blank, OnlyBlanks] using solid

theorem nonBlank?_of_tidy {text : String} (tidy : Tidy text.toList) : nonBlank? text = some text := by
  have visible : blank text = false := by
    apply Bool.eq_false_iff.mpr
    intro blanks
    apply tidy.nonempty
    rw [← tidy.trimmed, trim_eq_nil_iff]
    simpa [blank, OnlyBlanks] using blanks
  rw [nonBlank?, visible, trimmed, tidy.trimmed, String.ofList_toList]
  rfl

namespace Tidy

variable {text : List Char}

theorem first (tidy : Tidy text) : ∀ first ∈ text.head?, isBlank first = false := by
  rw [← tidy.trimmed]
  exact trim_first

theorem last (tidy : Tidy text) : ∀ last ∈ text.getLast?, isBlank last = false := by
  rw [← tidy.trimmed]
  exact trim_last

theorem not_blanks (tidy : Tidy text) : ¬ OnlyBlanks text := by
  rw [← trim_eq_nil_iff, tidy.trimmed]
  exact tidy.nonempty

theorem start_nil {start rest : List Char} (tidy : Tidy (start ++ rest))
    (blank : OnlyBlanks start) : start = [] := by
  cases start with
  | nil => rfl
  | cons character later =>
      exact absurd List.mem_cons_self (blank.not_mem (tidy.first character rfl))

end Tidy

theorem trim_around {middle : List Char} (tidy : Tidy middle) (left right : List Char) :
    trim (left ++ middle ++ right) = trimStart left ++ middle ++ trimEnd right := by
  obtain ⟨before, blankBefore, front, first⟩ := trimStart_parts left
  obtain ⟨after, blankAfter, back, last⟩ := trimEnd_parts right
  have whole : left ++ middle ++ right =
      before ++ (trimStart left ++ middle ++ trimEnd right ++ after) := by
    have shown : left ++ middle ++ right =
        before ++ trimStart left ++ middle ++ (trimEnd right ++ after) := by
      rw [← front, ← back]
    simpa only [List.append_assoc] using shown
  rw [whole, trim_blanks_append _ blankBefore, trim_append_blanks _ blankAfter]
  apply trim_of_ends
  · intro character found
    cases kept : trimStart left with
    | nil =>
        rw [kept, List.nil_append, List.head?_append_of_ne_nil middle tidy.nonempty] at found
        exact tidy.first character found
    | cons head tail =>
        rw [kept] at first found
        exact first character found
  · intro character found
    cases kept : trimEnd right with
    | nil =>
        rw [kept, List.append_nil, List.getLast?_append_of_ne_nil _ tidy.nonempty] at found
        exact tidy.last character found
    | cons head tail =>
        rw [kept] at last found
        rw [List.getLast?_append_of_ne_nil _ (List.cons_ne_nil head tail)] at found
        exact last character found

theorem trim_before {text : List Char} {final : Char} (last : text.getLast? = some final)
    (visible : isBlank final = false) (right : List Char) :
    trim (text ++ right) = trimStart text ++ trimEnd right ∧ trimStart text ≠ [] := by
  obtain ⟨before, blank, parts, first⟩ := trimStart_parts text
  have filled : trimStart text ≠ [] := by
    intro gone
    rw [gone, List.append_nil] at parts
    rw [parts] at last
    exact blank.not_mem visible (List.mem_of_getLast? last)
  have tidy : Tidy (trimStart text) := by
    refine { trimmed := trim_of_ends first ?_, nonempty := filled }
    intro character found
    rw [parts, List.getLast?_append_of_ne_nil _ filled] at last
    rw [last] at found
    cases found
    exact visible
  refine ⟨?_, filled⟩
  have shown := trim_around tidy before right
  rw [← parts] at shown
  rw [shown, trimStart, dropWhile_isBlank_of_blanks blank]
  rfl

theorem weight_append (left right : List Char) : weight (left ++ right) = weight left + weight right :=
  List.countP_append

theorem weight_cons (character : Char) (text : List Char) :
    weight (character :: text) = weight text + if isBlank character then 0 else 1 := by
  rw [weight, List.countP_cons]
  cases isBlank character <;> rfl

theorem weight_of_blanks {blanks : List Char} (blank : OnlyBlanks blanks) : weight blanks = 0 := by
  rw [weight, List.countP_eq_zero]
  intro character member
  simp [blank character member]

@[simp]
theorem weight_trim (text : List Char) : weight (trim text) = weight text := by
  obtain ⟨before, after, cutBefore, cutAfter, parts⟩ := trim_parts text
  have whole := congrArg weight parts
  rw [weight_append, weight_append, weight_of_blanks cutBefore, weight_of_blanks cutAfter] at whole
  omega

end Chartbook.Text
