import Chartbook.Proofs.Json.Extent

/-!
Line breaks inside values. A line break stands between tokens, and what comes behind it is no whole
text of an array or object.

Main statement: `Spans.endsEarly`.
-/

namespace Chartbook.Json

open Text

section Tokens

variable {text rest later : List Char} {mark : Char}

theorem before_or_behind (cut : '\n' :: later <:+ text) (part : rest <:+ text) :
    rest <:+ later ∨ '\n' :: later <:+ rest := by
  obtain short | long := List.suffix_or_suffix_of_suffix part cut
  · obtain rfl | short := List.suffix_cons_iff.mp short
    · exact .inr List.suffix_rfl
    · exact .inl short
  · exact .inr long

theorem not_inside_token (taken : Inline text rest) (cut : '\n' :: later <:+ text) :
    ¬ rest <:+ later := by
  obtain ⟨part, rfl, clean⟩ := taken
  rintro ⟨middle, rfl⟩
  rw [← List.cons_append] at cut
  exact clean ((List.suffix_append_self_iff.mp cut).subset List.mem_cons_self)

theorem trimStart_of_skipSpace (found : skipSpace text = mark :: rest)
    (visible : isBlank mark = false) (cut : '\n' :: later <:+ text) (short : rest <:+ later) :
    trimStart later = mark :: rest := by
  obtain ⟨spaces, blank, parts⟩ := skipSpace_parts text
  rw [found] at parts
  subst parts
  obtain ⟨middle, rfl⟩ | far := before_or_behind cut (List.suffix_append spaces (mark :: rest))
  · rw [← List.cons_append] at cut
    have within := List.suffix_append_self_iff.mp cut
    have clear : OnlyBlanks middle := fun character member =>
      blank character (within.subset (List.mem_cons_of_mem _ member))
    rw [trimStart_blanks_append _ clear]
    exact trimStart_of_head (by simpa using visible)
  · obtain same | deep := List.suffix_cons_iff.mp far
    · injection same with same
      rw [← same] at visible
      cases visible
    · have long := deep.length_le
      have least := short.length_le
      rw [List.length_cons] at long
      omega

end Tokens

namespace Bracket

variable {bracket : Bracket} {text later : List Char} {first : Char}

theorem opens_opening (bracket : Bracket) : opens bracket.opening = true := by
  cases bracket <;> rfl

theorem not_opens_closing (bracket : Bracket) : opens bracket.closing = false := by
  cases bracket <;> rfl

theorem visible_closing (bracket : Bracket) : isBlank bracket.closing = false := by
  cases bracket <;> rfl

theorem cut_inner {inner : List Char} (cut : '\n' :: later <:+ bracket.opening :: inner) :
    '\n' :: later <:+ inner := by
  obtain same | deep := List.suffix_cons_iff.mp cut
  · injection same with same
    cases bracket <;> cases same
  · exact deep

theorem trimStart_of_valueAt? {tail : List Char}
    (entry : bracket.valueAt? text = some (first :: tail)) (visible : isBlank first = false)
    (cut : '\n' :: later <:+ text) (short : first :: tail <:+ later) :
    trimStart later = first :: tail ∨
      ∃ mark rest, trimStart later = mark :: rest ∧ opens mark = false := by
  have behind : tail <:+ later := (List.suffix_cons first tail).trans short
  cases bracket with
  | square => exact .inl (trimStart_of_skipSpace (Option.some.inj entry) visible cut behind)
  | curly =>
      obtain ⟨keyText, key, afterKey, valueText, quoted, read, colon, shown⟩ :=
        valueAt?_curly_eq_some_iff.mp entry
      obtain beforeKey | cut := before_or_behind cut (suffix_of_skipSpace quoted)
      · exact .inr ⟨_, _, trimStart_of_skipSpace quoted rfl cut beforeKey, rfl⟩
      have token := (steady_readText read).1
      obtain insideKey | cut := before_or_behind cut token.suffix
      · exact absurd insideKey (not_inside_token token cut)
      obtain beforeColon | cut := before_or_behind cut (suffix_of_skipSpace colon)
      · exact .inr ⟨_, _, trimStart_of_skipSpace colon rfl cut beforeColon, rfl⟩
      · exact .inl (trimStart_of_skipSpace shown visible cut behind)

end Bracket

theorem not_isBlank_of_beginsValue {first : Char} (starts : beginsValue first = true) :
    isBlank first = false := by
  simp only [beginsValue, Bracket.opens, Bool.or_eq_true, beq_iff_eq] at starts
  obtain atom | rfl | rfl := starts
  · exact not_isBlank_of_beginsAtom atom
  · rfl
  · rfl

namespace Spans

variable {inside : Option Bracket} {bracket : Bracket} {text rest later : List Char}

/-- No array or object that starts here, after blanks, goes to the end of the text, nor of a longer
one. -/
def EndsEarly (text : List Char) : Prop :=
  ∀ bracket inner, trimStart text = Bracket.opening bracket :: inner →
    ∀ more, ¬ Spans none (trimStart text ++ more) []

theorem endsEarly_of_mark {mark : Char} (shown : trimStart text = mark :: rest)
    (other : Bracket.opens mark = false) : EndsEarly text := by
  intro bracket inner opened
  rw [shown] at opened
  injection opened with same
  rw [same, Bracket.opens_opening] at other
  cases other

theorem endsEarly_of_value {value after : List Char} {mark : Char} (spans : Spans none value after)
    (next : skipSpace after = mark :: rest) (shown : trimStart text = value) : EndsEarly text := by
  intro bracket inner opened more again
  rw [shown] at opened again
  have left := again.unique (spans.append more fun _ _ => ⟨bracket, inner, opened⟩)
  rw [(List.append_eq_nil_iff.mp left.symm).1] at next
  cases next

theorem endsEarly_of_entry {value after : List Char} {mark : Char}
    (entry : bracket.valueAt? text = some value) (spans : Spans none value after)
    (next : skipSpace after = mark :: rest) (cut : '\n' :: later <:+ text)
    (short : value <:+ later) : EndsEarly later := by
  obtain ⟨first, tail, rfl, starts⟩ := spans.begins
  obtain shown | ⟨mark, rest, shown, other⟩ :=
    Bracket.trimStart_of_valueAt? entry (not_isBlank_of_beginsValue starts) cut short
  · exact endsEarly_of_value spans next shown
  · exact endsEarly_of_mark shown other

/-- A line break inside a value, or inside what is left of an array or object, comes before one of
its parts or behind the last. -/
theorem endsEarly (spans : Spans inside text rest) (cut : '\n' :: later <:+ text)
    (short : rest <:+ later) : EndsEarly later := by
  induction spans with
  | atom read => exact absurd short (not_inside_token (steady_readAtom? read).1 cut)
  | empty bracket starts closed =>
      rw [starts] at cut
      exact endsEarly_of_mark
        (trimStart_of_skipSpace closed bracket.visible_closing (Bracket.cut_inner cut) short)
        bracket.not_opens_closing
  | full bracket starts entries ih =>
      rw [starts] at cut
      exact ih (Bracket.cut_inner cut) short
  | @last bracket text value after rest entry spans closed ih =>
      obtain early | cut := before_or_behind cut (Bracket.suffix_of_valueAt? entry)
      · exact endsEarly_of_entry entry spans closed cut early
      obtain within | cut := before_or_behind cut spans.suffix
      · exact ih cut within
      · exact endsEarly_of_mark
          (trimStart_of_skipSpace closed bracket.visible_closing cut short)
          bracket.not_opens_closing
  | @more bracket text value after behind rest entry spans next entries ih ihBehind =>
      obtain early | cut := before_or_behind cut (Bracket.suffix_of_valueAt? entry)
      · exact endsEarly_of_entry entry spans next cut early
      obtain within | cut := before_or_behind cut spans.suffix
      · exact ih cut within
      obtain first | cut := before_or_behind cut (suffix_of_skipSpace next)
      · exact endsEarly_of_mark (trimStart_of_skipSpace next rfl cut first) rfl
      · exact ihBehind cut short

end Spans

end Chartbook.Json
