import Chartbook.Proofs.FlowText.Statement

/-!
Closing brackets. They tell apart a plain reference whose id begins with a bracket and an entry, which
begin alike.
-/

namespace Chartbook.FlowText.Reference

variable {found : Reference}

theorem doubled_behind {id more : List Char} (unclosed : ']' ∉ id) (head : more.head? ≠ some ']')
    (doubled : Text.Doubled ']' (id ++ ']' :: more)) : Text.Doubled ']' more := by
  have absent {text : List Char} (plain : ']' ∉ text) : ¬ Text.Doubled ']' text :=
    fun inside => plain (inside.subset List.mem_cons_self)
  rw [Text.doubled_append_iff, ← List.singleton_append, Text.doubled_append_iff] at doubled
  obtain inside | (inside | inside | ⟨_, next⟩) | ⟨last, _⟩ := doubled
  · exact absurd inside (absent unclosed)
  · have short := inside.length_le
    simp at short
  · exact inside
  · exact absurd next head
  · exact absurd (List.mem_of_getLast? last) unclosed

/-- A plain reference with an opening bracket in its id was no entry, for want of closing brackets
behind it. It does not become one with other text behind it that has no more of them. -/
theorem stays_plain {text more : List Char} {other : Reference} (read : read? text = some found)
    (plain : found.kind = .plain)
    (behind : ∀ first ∈ found.rest.head?, Text.isBlank first = true)
    (tight : ∀ second ∈ text.tail.head?, Text.isBlank second = false)
    (doubled : Text.Doubled ']' more → Text.Doubled ']' found.rest)
    (head : more.head? ≠ some ']')
    (reread : read? (write .plain found.id ++ more) = some other) : other.kind ≠ .entry := by
  intro entry
  obtain ⟨taken, noEntry⟩ := read?_eq_some_iff.mp read
  obtain ⟨body, inside, rfl, cut, _, named, _⟩ := readAs?_eq_some_iff.mp taken
  have unclosed := unclosed_of_read? read
  have noEntry := noEntry plain
  rw [plain] at cut unclosed noEntry tight
  rw [NodeKind.marks, List.singleton_infix_iff] at unclosed
  obtain ⟨rfl, quiet⟩ := (Text.cut?_single_eq_some_iff _ _ _ _).mp cut
  have again := (read?_eq_some_iff.mp reread).1
  rw [entry] at again
  cases known : found.id with
  | nil => exact (tidy_of_read? read).nonempty known
  | cons first later =>
      rw [known] at again unclosed named
      have bracket : first = '[' := by
        obtain ⟨_, parts⟩ := bracket_of_entry again
        exact (List.cons.inj parts).1
      subst bracket
      have regrouped : write .plain ('[' :: later) ++ more = '[' :: '[' :: (later ++ ']' :: more) := by
        simp [write, NodeKind.marks]
      rw [regrouped] at again
      obtain ⟨_, second, _⟩ := readAs?_entry_iff.mp again
      have available := doubled (doubled_behind
        (fun member => unclosed (List.mem_cons_of_mem _ member)) head
        (Text.infix_of_cut? NodeKind.entry.closing_ne_nil second))
      obtain ⟨rest, rfl⟩ : ∃ rest, inside = '[' :: rest := by
        cases inside with
        | nil => cases named
        | cons second rest =>
            have visible : ∀ first ∈ (second :: rest).head?, Text.isBlank first = false := by
              intro first same
              exact tight first same
            have same := Text.head?_trim visible
            rw [← named, List.head?_cons, List.head?_cons, Option.some.injEq] at same
            exact ⟨rest, by rw [← same]⟩
      have closed : ']' ∉ rest := fun member => quiet (List.mem_cons_of_mem _ member)
      obtain ⟨blanks, tail, early, blank⟩ := blanks_of_readAs?
        (show readAs? (NodeKind.entry.marks.1 ++ (rest ++ ']' :: found.rest)) .entry = none from noEntry)
        (available.trans (List.IsSuffix.isInfix ⟨rest ++ [']'], by simp⟩))
      obtain ⟨parts, _⟩ := (Text.cut?_double_eq_some_iff ']' _ blanks tail).mp early
      have solid : ']' ∉ blanks := blank.not_mem rfl
      have first := (Text.cut?_single_eq_some_iff ']' _ rest found.rest).mpr ⟨rfl, closed⟩
      rw [(Text.cut?_single_eq_some_iff ']' _ blanks (']' :: tail)).mpr ⟨parts, solid⟩,
        Option.some.injEq, Prod.mk.injEq] at first
      have shown := behind ']' (by rw [← first.2]; rfl)
      cases shown

theorem read?_mention {id more : List Char} (tidy : Text.Tidy id)
    (read : read? (write (shapeFor id) id ++ more) = some found) :
    ∃ source, read? (write (shapeFor id) id) = some source := by
  obtain held | plain := shapeFor_holds id
  · exact ⟨_, holds_iff.mp held⟩
  · rw [plain] at read ⊢
    have taken := (read?_eq_some_iff.mp read).1
    rw [write, List.append_assoc, List.append_assoc] at taken
    obtain ⟨inside, rest, cut⟩ := Text.exists_cut? NodeKind.plain.closing_ne_nil
      (List.suffix_append id NodeKind.plain.marks.2).isInfix
    have visible : Text.trim inside ≠ [] := by
      intro hollow
      have blank := (Text.trim_eq_nil_iff inside).mp hollow
      obtain same | ⟨impossible, _⟩ | ⟨_, entry⟩ := kind_of_opening taken
      · rw [same] at taken
        obtain ⟨within, again, _, named, visible⟩ := readAs?_opening_iff.mp taken
        have longer := Text.cut?_append NodeKind.plain.closing_ne_nil cut more
        rw [List.append_assoc, again, Option.some.injEq, Prod.mk.injEq] at longer
        rw [named, longer.1] at visible
        exact visible hollow
      · cases impossible
      · rw [entry] at taken
        obtain ⟨later, parts⟩ := bracket_of_entry taken
        have within := ((Text.cut?_single_eq_some_iff _ _ _ _).mp cut).1
        cases id with
        | nil => exact tidy.nonempty rfl
        | cons first later =>
            have bracket : first = '[' := (List.cons.inj parts).1
            subst bracket
            cases inside with
            | nil => cases (List.cons.inj within).1
            | cons second inside =>
                have shown := blank second List.mem_cons_self
                rw [← (List.cons.inj within).1] at shown
                cases shown
    let source : Reference := { kind := .plain, id := Text.trim inside, rest }
    have taken : readAs? (write .plain id) .plain = some source := by
      rw [write, List.append_assoc]
      exact readAs?_opening_iff.mpr ⟨inside, cut, rfl, rfl, visible⟩
    cases entry : readAs? (write .plain id) .entry with
    | none => exact ⟨source, read?_eq_some_iff.mpr ⟨taken, fun _ => entry⟩⟩
    | some other => exact ⟨other, read?_of_entry entry⟩

theorem entry_beyond_mention {id ending : List Char}
    (alone : readAs? ('[' :: '[' :: (id ++ [']'])) .entry = none)
    (taken : readAs?
      ('[' :: '[' :: (id ++ ']' :: ([' '] ++ Statement.arrow ++ [' '] ++ ending))) .entry = some found)
    (start : ∀ first ∈ ending.head?, Text.isBlank first = false ∧ first ≠ ']') :
    ¬ Text.Doubled ']' (id ++ [']']) ∧ ∃ inside blanks, Text.OnlyBlanks blanks ∧
      Text.cut? [']', ']'] ending = some (inside ++ blanks, found.rest) ∧
      found.id = Text.trimStart id ++ ']' :: ([' '] ++ Statement.arrow ++ [' '] ++ inside) := by
  obtain ⟨within, cut, _, named, solid⟩ := readAs?_entry_iff.mp taken
  have unclosed : ¬ Text.Doubled ']' (id ++ [']']) := by
    intro doubled
    obtain ⟨blanks, tail, early, blank⟩ := blanks_of_readAs?
      (show readAs? (NodeKind.entry.marks.1 ++ (id ++ [']'])) .entry = none from alone) doubled
    have longer := Text.cut?_append NodeKind.entry.closing_ne_nil early
      ([' '] ++ Statement.arrow ++ [' '] ++ ending)
    rw [List.append_assoc, List.singleton_append, NodeKind.marks, cut, Option.some.injEq,
      Prod.mk.injEq] at longer
    rw [named, longer.1] at solid
    exact solid (Text.trim_of_blanks blank)
  refine ⟨unclosed, ?_⟩
  have passed : ¬ Text.Doubled ']' (id ++ [']'] ++ ([' '] ++ Statement.arrow ++ [' '])) := by
    rw [Text.doubled_append_iff, not_or, not_or]
    exact ⟨unclosed, by decide, by simp⟩
  have final : (id ++ [']'] ++ ([' '] ++ Statement.arrow ++ [' '])).getLast? ≠ some ']' := by
    simp [Statement.arrow]
  have shape : id ++ ']' :: ([' '] ++ Statement.arrow ++ [' '] ++ ending) =
      id ++ [']'] ++ ([' '] ++ Statement.arrow ++ [' ']) ++ ending := by simp
  rw [shape] at cut
  obtain ⟨behind, rfl, reached⟩ := Text.cut?_double_append passed final cut
  obtain ⟨blanks, blank, spaced, last⟩ := Text.trimEnd_parts behind
  refine ⟨Text.trimEnd behind, blanks, blank, by rw [← spaced]; exact reached, ?_⟩
  have filled : Text.trimEnd behind ≠ [] := by
    intro empty
    obtain ⟨parts, _⟩ := (Text.cut?_double_eq_some_iff ']' _ _ _).mp reached
    rw [spaced, empty, List.nil_append] at parts
    cases blanks with
    | nil => exact (start ']' (by rw [parts]; rfl)).2 rfl
    | cons space blanks =>
        have shown := (start space (by rw [parts]; rfl)).1
        rw [blank space List.mem_cons_self] at shown
        cases shown
  obtain ⟨before, blankBefore, front, first⟩ := Text.trimStart_parts id
  have regrouped : id ++ [']'] ++ ([' '] ++ Statement.arrow ++ [' ']) ++ behind =
      before ++ (Text.trimStart id ++ ']' :: ([' '] ++ Statement.arrow ++ [' '] ++ Text.trimEnd behind) ++
        blanks) := by
    conv_lhs => rw [front, spaced]
    simp
  rw [named, regrouped, Text.trim_blanks_append _ blankBefore, Text.trim_append_blanks _ blank]
  refine Text.trim_of_ends ?_ ?_
  · cases kept : Text.trimStart id with
    | nil => simp [Text.isBlank]
    | cons character more =>
        rw [kept] at first
        exact first
  · rw [List.append_cons, List.getLast?_append_of_ne_nil _ (by simp),
      List.getLast?_append_of_ne_nil _ filled]
    exact last

theorem ended_iff_of_plain {id : List Char} {found : Reference}
    (read : readAs? (write .plain id) .plain = some found) :
    Text.trim found.rest = [] ↔ ']' ∉ id := by
  obtain ⟨inside, cut, _⟩ :=
    readAs?_plain_iff.mp (show readAs? ('[' :: (id ++ [']'])) .plain = some found from read)
  have quiet := ((Text.cut?_single_eq_some_iff _ _ _ _).mp cut).2
  obtain ⟨rfl, nothing⟩ | ⟨later, within, left⟩ := Text.cut?_single_of_append cut
  · rw [nothing]
    exact iff_of_true rfl quiet
  · refine iff_of_false ?_ (fun absent => absent (by rw [within]; simp))
    intro ended
    cases (Text.trim_eq_nil_iff _).mp ended ']' (by rw [left]; simp)

theorem plain_of_unclosed {id : List Char} {found : Reference}
    (unclosed : ¬ Text.Doubled ']' (id ++ [']']))
    (read : read? (write .plain ('[' :: id)) = some found) :
    found.kind = .plain := by
  have first := (read?_eq_some_iff.mp read).1
  rw [write, List.append_assoc] at first
  obtain kind | ⟨impossible, _⟩ | ⟨_, kind⟩ := kind_of_opening first
  · exact kind
  · cases impossible
  · rw [kind] at first
    obtain ⟨_, cut, _⟩ := readAs?_entry_iff.mp
      (show readAs? ('[' :: '[' :: (id ++ [']'])) .entry = some found from first)
    exact absurd (Text.infix_of_cut? NodeKind.entry.closing_ne_nil cut) unclosed

theorem ended_of_trimStart {id : List Char} {left other : Reference}
    (unclosed : ¬ Text.Doubled ']' (id ++ [']']))
    (read : readAs? (write .plain ('[' :: id)) .plain = some left)
    (reread : read? (write .plain ('[' :: Text.trimStart id)) = some other)
    (ended : Text.trim other.rest = []) : Text.trim left.rest = [] := by
  obtain ⟨before, blank, front, _⟩ := Text.trimStart_parts id
  have within : Text.trimStart id ++ [']'] <:+ id ++ [']'] :=
    ⟨before, by rw [← List.append_assoc, ← front]⟩
  have plain := plain_of_unclosed (fun doubled => unclosed (doubled.trans within.isInfix)) reread
  have first := (read?_eq_some_iff.mp reread).1
  rw [plain] at first
  have absent := (ended_iff_of_plain first).mp ended
  refine (ended_iff_of_plain read).mpr ?_
  rw [front, List.mem_cons, List.mem_append]
  rintro (bracket | early | late)
  · cases bracket
  · exact blank.not_mem rfl early
  · exact absent (List.mem_cons_of_mem _ late)

end Chartbook.FlowText.Reference
