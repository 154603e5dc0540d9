import Chartbook.Proofs.Json.Token

/-!
Where values end. Which part of a text is read as a value depends neither on the fuel nor on the
depth, and hardly on what stands behind it.

Main statements: `spans_of_readValue`, `Spans.unique`, `Spans.append`.
-/

namespace Chartbook.Json

open Text

section Marks

variable {text rest : List Char} {mark : Char}

theorem suffix_of_skipSpace (found : skipSpace text = mark :: rest) : rest <:+ text := by
  have shown := skipSpace_suffix text
  rw [found] at shown
  exact (List.suffix_cons mark rest).trans shown

theorem mem_of_skipSpace (found : skipSpace text = mark :: rest) : mark ∈ text := by
  refine (skipSpace_suffix text).subset ?_
  rw [found]
  exact List.mem_cons_self

end Marks

inductive Bracket where
  | square
  | curly

namespace Bracket

def opening : Bracket → Char
  | square => '['
  | curly => '\x7b'

def closing : Bracket → Char
  | square => ']'
  | curly => '\x7d'

def opens (mark : Char) : Bool :=
  mark == '[' || mark == '\x7b'

def valueAt? : Bracket → List Char → Option (List Char)
  | square, text => some (skipSpace text)
  | curly, text => do
      let keyText ← after? ['"'] (skipSpace text)
      let (_, afterKey) ← readText keyText
      let valueText ← after? [':'] (skipSpace afterKey)
      some (skipSpace valueText)

variable {bracket other : Bracket} {text value later : List Char} {first : Char}

theorem eq_of_opening (same : bracket.opening = other.opening) : bracket = other := by
  cases bracket <;> cases other <;> first | rfl | cases same

theorem valueAt?_curly_eq_some_iff :
    curly.valueAt? text = some value ↔
      ∃ keyText key afterKey valueText, skipSpace text = '"' :: keyText ∧
        readText keyText = some (key, afterKey) ∧ skipSpace afterKey = ':' :: valueText ∧
        skipSpace valueText = value := by
  simp only [valueAt?, Option.bind_eq_bind, Option.bind_eq_some_iff, after?_eq_some_iff,
    Option.some.injEq, Prod.exists, List.cons_append, List.nil_append]
  constructor
  · rintro ⟨keyText, quoted, key, afterKey, read, valueText, colon, shown⟩
    exact ⟨keyText, key, afterKey, valueText, quoted, read, colon, shown⟩
  · rintro ⟨keyText, key, afterKey, valueText, quoted, read, colon, shown⟩
    exact ⟨keyText, quoted, key, afterKey, read, valueText, colon, shown⟩

theorem closing_ne_comma (bracket : Bracket) : bracket.closing ≠ ',' := by
  cases bracket <;> decide

theorem suffix_of_valueAt? (entry : bracket.valueAt? text = some value) : value <:+ text := by
  cases bracket with
  | square =>
      cases entry
      exact skipSpace_suffix text
  | curly =>
      obtain ⟨keyText, key, afterKey, valueText, quoted, read, colon, rfl⟩ :=
        valueAt?_curly_eq_some_iff.mp entry
      have inText := suffix_of_skipSpace quoted
      have inKeyText := (steady_readText read).1.suffix
      exact (skipSpace_suffix valueText).trans
        ((suffix_of_skipSpace colon).trans (inKeyText.trans inText))

theorem valueAt?_append (entry : bracket.valueAt? text = some (first :: later)) (more : List Char) :
    bracket.valueAt? (text ++ more) = some (first :: later ++ more) := by
  cases bracket with
  | square =>
      have found : skipSpace text = first :: later := Option.some.inj entry
      exact congrArg some (skipSpace_append found more)
  | curly =>
      obtain ⟨keyText, key, afterKey, valueText, quoted, read, colon, shown⟩ :=
        valueAt?_curly_eq_some_iff.mp entry
      have left : afterKey ≠ [] := by
        rintro rfl
        cases colon
      exact valueAt?_curly_eq_some_iff.mpr ⟨_, _, _, _, skipSpace_append quoted more,
        (steady_readText read).2 left more, skipSpace_append colon more,
        skipSpace_append shown more⟩

end Bracket

/-- From the first text to the second there is a value. With a bracket it is the rest of an array or
object instead, its closing bracket included. -/
inductive Spans : Option Bracket → List Char → List Char → Prop
  | atom {text rest : List Char} {value : Json} (read : readAtom? text = some (value, rest)) :
      Spans none text rest
  | empty (bracket : Bracket) {text inner rest : List Char}
      (starts : text = bracket.opening :: inner)
      (closed : skipSpace inner = bracket.closing :: rest) : Spans none text rest
  | full (bracket : Bracket) {text inner rest : List Char}
      (starts : text = bracket.opening :: inner)
      (entries : Spans (some bracket) inner rest) : Spans none text rest
  | last {bracket : Bracket} {text value after rest : List Char}
      (entry : bracket.valueAt? text = some value) (spans : Spans none value after)
      (closed : skipSpace after = bracket.closing :: rest) : Spans (some bracket) text rest
  | more {bracket : Bracket} {text value after later rest : List Char}
      (entry : bracket.valueAt? text = some value) (spans : Spans none value after)
      (next : skipSpace after = ',' :: later) (entries : Spans (some bracket) later rest) :
      Spans (some bracket) text rest

variable {inside : Option Bracket} {bracket : Bracket} {text rest other later : List Char}

def beginsValue (first : Char) : Bool :=
  beginsAtom first || Bracket.opens first

theorem beginsValue_opening (bracket : Bracket) : beginsValue bracket.opening = true := by
  cases bracket <;> rfl

theorem not_beginsAtom_opening (bracket : Bracket) : beginsAtom bracket.opening = false := by
  cases bracket <;> rfl

theorem readAtom?_opening (bracket : Bracket) (inner : List Char) :
    readAtom? (bracket.opening :: inner) = none := by
  cases found : readAtom? (bracket.opening :: inner) with
  | none => rfl
  | some read =>
      obtain ⟨first, tail, same, atom⟩ := begins_of_readAtom? found
      injection same with same
      rw [← same, not_beginsAtom_opening] at atom
      cases atom

theorem Spans.begins (spans : Spans none text rest) :
    ∃ first later, text = first :: later ∧ beginsValue first = true := by
  cases spans with
  | atom read =>
      obtain ⟨first, later, rfl, atom⟩ := begins_of_readAtom? read
      exact ⟨first, later, rfl, by simp [beginsValue, atom]⟩
  | empty bracket starts => exact ⟨_, _, starts, beginsValue_opening bracket⟩
  | full bracket starts => exact ⟨_, _, starts, beginsValue_opening bracket⟩

namespace Spans

theorem group {inner : List Char} (spans : Spans none (bracket.opening :: inner) rest) :
    skipSpace inner = bracket.closing :: rest ∨ Spans (some bracket) inner rest := by
  cases spans with
  | atom read =>
      rw [readAtom?_opening] at read
      cases read
  | empty other starts closed =>
      injection starts with same parts
      rw [← parts, ← Bracket.eq_of_opening same] at closed
      exact .inl closed
  | full other starts entries =>
      injection starts with same parts
      rw [← parts, ← Bracket.eq_of_opening same] at entries
      exact .inr entries

theorem exists_entry (spans : Spans (some bracket) text rest) :
    ∃ value after, bracket.valueAt? text = some value ∧ Spans none value after ∧
      (skipSpace after = bracket.closing :: rest ∨
        ∃ later, skipSpace after = ',' :: later ∧ Spans (some bracket) later rest) := by
  cases spans with
  | last entry spans closed => exact ⟨_, _, entry, spans, .inl closed⟩
  | more entry spans next entries => exact ⟨_, _, entry, spans, .inr ⟨_, next, entries⟩⟩

theorem not_closed (spans : Spans (some bracket) text rest) :
    skipSpace text ≠ bracket.closing :: other := by
  intro closed
  obtain ⟨value, after, entry, spans, _⟩ := spans.exists_entry
  cases bracket with
  | square =>
      cases entry
      obtain ⟨first, later, parts, starts⟩ := spans.begins
      rw [parts] at closed
      cases closed
      cases starts
  | curly =>
      obtain ⟨_, _, _, _, quoted, _⟩ := Bracket.valueAt?_curly_eq_some_iff.mp entry
      rw [quoted] at closed
      cases closed

theorem unique (spans : Spans inside text rest) (again : Spans inside text other) :
    rest = other := by
  induction spans generalizing other with
  | atom read =>
      cases again with
      | atom again =>
          rw [read] at again
          cases again
          rfl
      | empty bracket starts | full bracket starts =>
          rw [starts, readAtom?_opening] at read
          cases read
  | empty bracket starts closed =>
      subst starts
      obtain closed' | entries := again.group
      · rw [closed] at closed'
        injection closed'
      · exact absurd closed entries.not_closed
  | full bracket starts entries ih =>
      subst starts
      obtain closed | entries' := again.group
      · exact absurd closed entries.not_closed
      · exact ih entries'
  | last entry spans closed ih =>
      obtain ⟨value, after, entry', spans', ends⟩ := again.exists_entry
      cases entry.symm.trans entry'
      cases ih spans'
      obtain closed' | ⟨later, next, _⟩ := ends
      · rw [closed] at closed'
        injection closed'
      · rw [closed] at next
        injection next with mark
        exact absurd mark (Bracket.closing_ne_comma _)
  | more entry spans next entries ih later =>
      obtain ⟨value, after, entry', spans', ends⟩ := again.exists_entry
      cases entry.symm.trans entry'
      cases ih spans'
      obtain closed | ⟨tail, next', entries'⟩ := ends
      · rw [next] at closed
        injection closed with mark
        exact absurd mark.symm (Bracket.closing_ne_comma _)
      · rw [next] at next'
        cases next'
        exact later entries'

theorem valueAt?_append {value : List Char} (spans : Spans none value rest)
    (entry : bracket.valueAt? text = some value) (more : List Char) :
    bracket.valueAt? (text ++ more) = some (value ++ more) := by
  obtain ⟨first, later, rfl, _⟩ := spans.begins
  exact Bracket.valueAt?_append entry more

theorem append (spans : Spans inside text rest) (more : List Char)
    (ended : inside = none → rest = [] → ∃ bracket inner, text = Bracket.opening bracket :: inner) :
    Spans inside (text ++ more) (rest ++ more) := by
  induction spans with
  | atom read =>
      refine .atom ((steady_readAtom? read).2 ?_ more)
      intro last
      obtain ⟨bracket, inner, rfl⟩ := ended rfl last
      rw [readAtom?_opening] at read
      cases read
  | empty bracket starts closed =>
      exact .empty bracket (by rw [starts, List.cons_append]) (skipSpace_append closed more)
  | full bracket starts entries ih =>
      exact .full bracket (by rw [starts, List.cons_append]) (ih nofun)
  | last entry spans closed ih =>
      refine .last (spans.valueAt?_append entry more) (ih ?_)
        (skipSpace_append closed more)
      intro _ empty
      rw [empty] at closed
      cases closed
  | more entry spans next entries ih later =>
      refine .more (spans.valueAt?_append entry more) (ih ?_)
        (skipSpace_append next more) (later nofun)
      intro _ empty
      rw [empty] at next
      cases next

theorem suffix (spans : Spans inside text rest) : rest <:+ text := by
  induction spans with
  | atom read => exact (steady_readAtom? read).1.suffix
  | empty bracket starts closed =>
      rw [starts]
      exact (suffix_of_skipSpace closed).trans (List.suffix_cons _ _)
  | full bracket starts entries ih =>
      rw [starts]
      exact ih.trans (List.suffix_cons _ _)
  | last entry spans closed ih =>
      exact (suffix_of_skipSpace closed).trans (ih.trans (Bracket.suffix_of_valueAt? entry))
  | more entry spans next entries ih later =>
      exact later.trans ((suffix_of_skipSpace next).trans
        (ih.trans (Bracket.suffix_of_valueAt? entry)))

theorem closing_mem (spans : Spans inside text rest) :
    ∀ bracket, inside = some bracket → bracket.closing ∈ text := by
  induction spans with
  | atom | empty | full => nofun
  | last entry spans closed =>
      rintro bracket ⟨⟩
      refine (spans.suffix.trans (Bracket.suffix_of_valueAt? entry)).subset ?_
      exact mem_of_skipSpace closed
  | more entry spans next entries _ later =>
      rintro bracket ⟨⟩
      refine (spans.suffix.trans (Bracket.suffix_of_valueAt? entry)).subset ?_
      exact (suffix_of_skipSpace next).subset (later _ rfl)

theorem closing_mem_of_opening {inner : List Char}
    (spans : Spans none (bracket.opening :: inner) rest) : bracket.closing ∈ inner := by
  obtain closed | entries := spans.group
  · exact mem_of_skipSpace closed
  · exact entries.closing_mem bracket rfl

end Spans

/-! What the reader takes for a value is one. -/

theorem readAtom?_of_readValue {fuel room : Nat} {found : Json × List Char}
    (read : readValue fuel room text = some found) :
    readAtom? text = some found ∨ ∃ bracket inner, text = Bracket.opening bracket :: inner := by
  cases fuel with
  | zero => cases read
  | succ fuel =>
      rw [readValue.eq_def] at read
      dsimp only at read
      split at read
      case h_5 inner => exact .inr ⟨.square, inner, rfl⟩
      case h_6 inner => exact .inr ⟨.curly, inner, rfl⟩
      case h_7 =>
        left
        obtain ⟨first, later, rfl, number⟩ := begins_of_readNumber? read
        rw [readAtom?_of_number number, read]
      all_goals exact .inl read

structure Spanned (fuel : Nat) : Prop where
  value {room : Nat} {text : List Char} {found : Json × List Char}
    (read : readValue fuel room text = some found) : Spans none text found.2
  items {room : Nat} {text : List Char} {found : List Json × List Char}
    (read : readItems fuel room text = some found) : Spans (some .square) text found.2
  fields {room : Nat} {text : List Char} {found : List (Option String × Json) × List Char}
    (read : readFields fuel room text = some found) : Spans (some .curly) text found.2

namespace Spanned

variable {fuel room : Nat}

theorem of_readValue (spanned : Spanned fuel) {found : Json × List Char}
    (read : readValue (fuel + 1) room text = some found) : Spans none text found.2 := by
  obtain atom | ⟨bracket, inner, rfl⟩ := readAtom?_of_readValue read
  · exact .atom atom
  cases bracket with
  | square =>
      simp only [Bracket.opening, readValue] at read
      split at read
      · rename_i closed
        cases read
        exact .empty .square rfl closed
      · obtain ⟨items, inner, rfl⟩ := Option.map_eq_some_iff.mp read
        exact .full .square rfl (spanned.items inner)
  | curly =>
      simp only [Bracket.opening, readValue] at read
      split at read
      · rename_i closed
        cases read
        exact .empty .curly rfl closed
      · obtain ⟨fields, inner, rfl⟩ := Option.map_eq_some_iff.mp read
        exact .full .curly rfl (spanned.fields inner)

theorem of_readItems (spanned : Spanned fuel) {found : List Json × List Char}
    (read : readItems (fuel + 1) room text = some found) :
    Spans (some .square) text found.2 := by
  rw [readItems] at read
  split at read
  case h_1 => cases read
  rename_i item
  split at read
  · rename_i next
    obtain ⟨items, later, rfl⟩ := Option.map_eq_some_iff.mp read
    have entries := spanned.items later
    exact .more rfl (spanned.value item) next entries
  · rename_i closed
    cases read
    exact .last rfl (spanned.value item) closed
  · cases read

theorem of_readFields (spanned : Spanned fuel) {found : List (Option String × Json) × List Char}
    (read : readFields (fuel + 1) room text = some found) :
    Spans (some .curly) text found.2 := by
  rw [readFields] at read
  split at read
  case h_2 => cases read
  rename_i quoted
  split at read
  case h_1 => cases read
  rename_i key
  split at read
  case h_2 => cases read
  rename_i colon
  split at read
  case h_1 => cases read
  rename_i value
  have entry := Bracket.valueAt?_curly_eq_some_iff.mpr ⟨_, _, _, _, quoted, key, colon, rfl⟩
  split at read
  · rename_i next
    obtain ⟨fields, later, rfl⟩ := Option.map_eq_some_iff.mp read
    have entries := spanned.fields later
    exact .more entry (spanned.value value) next entries
  · rename_i closed
    cases read
    exact .last entry (spanned.value value) closed
  · cases read

end Spanned

theorem spanned (fuel : Nat) : Spanned fuel := by
  induction fuel with
  | zero => exact ⟨nofun, nofun, nofun⟩
  | succ fuel ih => exact ⟨ih.of_readValue, ih.of_readItems, ih.of_readFields⟩

theorem spans_of_readValue {fuel room : Nat} {found : Json × List Char}
    (read : readValue fuel room text = some found) : Spans none text found.2 :=
  (spanned fuel).value read

end Chartbook.Json
