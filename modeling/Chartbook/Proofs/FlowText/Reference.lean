import Chartbook.FlowText.Reference
import Chartbook.Proofs.Text.Blank
import Chartbook.Proofs.Text.Search

/-!
What can be read from a written reference, alone and with more text behind it. The marks of an entry
begin like those of a plain node, so text behind a plain reference can turn it into an entry. No other
text behind a reference changes what is read.
-/

namespace Chartbook

namespace NodeKind

theorem closing_ne_nil (kind : NodeKind) : kind.marks.2 ≠ [] := by
  cases kind <;> simp [marks]

end NodeKind

namespace FlowText.Reference

variable {text : List Char} {kind : NodeKind} {found : Reference}

theorem readAs?_eq_some_iff :
    readAs? text kind = some found ↔ ∃ body inside, text = kind.marks.1 ++ body ∧
      Text.cut? kind.marks.2 body = some (inside, found.rest) ∧
      found.kind = kind ∧ found.id = Text.trim inside ∧ found.id ≠ [] := by
  rw [readAs?]
  simp only [Option.bind_eq_bind, Option.bind_eq_some_iff, Text.after?_eq_some_iff]
  constructor
  · rintro ⟨body, parts, ⟨inside, rest⟩, cut, outcome⟩
    dsimp only at outcome
    split at outcome
    · cases outcome
    · rename_i visible
      rw [Option.some.injEq] at outcome
      subst outcome
      exact ⟨body, inside, parts, cut, rfl, rfl, visible⟩
  · rintro ⟨body, inside, parts, cut, rfl, named, visible⟩
    refine ⟨body, parts, (inside, found.rest), cut, ?_⟩
    rw [named] at visible
    rw [if_neg visible, ← named]

theorem kind_of_readAs? (read : readAs? text kind = some found) : found.kind = kind := by
  obtain ⟨_, _, _, _, known, _⟩ := readAs?_eq_some_iff.mp read
  exact known

theorem readAs?_opening_iff {body : List Char} :
    readAs? (kind.marks.1 ++ body) kind = some found ↔ ∃ inside,
      Text.cut? kind.marks.2 body = some (inside, found.rest) ∧
      found.kind = kind ∧ found.id = Text.trim inside ∧ found.id ≠ [] := by
  rw [readAs?_eq_some_iff]
  constructor
  · rintro ⟨other, inside, parts, found⟩
    rw [List.append_cancel_left parts]
    exact ⟨inside, found⟩
  · rintro ⟨inside, found⟩
    exact ⟨body, inside, rfl, found⟩

theorem blanks_of_readAs? {body : List Char} (unread : readAs? (kind.marks.1 ++ body) kind = none)
    (closed : kind.marks.2 <:+: body) :
    ∃ blanks rest, Text.cut? kind.marks.2 body = some (blanks, rest) ∧ Text.OnlyBlanks blanks := by
  obtain ⟨inside, rest, cut⟩ := Text.exists_cut? kind.closing_ne_nil closed
  refine ⟨inside, rest, cut, (Text.trim_eq_nil_iff inside).mp ?_⟩
  apply Classical.byContradiction
  intro solid
  let found : Reference := { kind, id := Text.trim inside, rest }
  have taken : readAs? (kind.marks.1 ++ body) kind = some found :=
    readAs?_opening_iff.mpr ⟨inside, cut, rfl, rfl, solid⟩
  rw [unread] at taken
  cases taken

theorem read?_eq_some_iff :
    read? text = some found ↔
      readAs? text found.kind = some found ∧ (found.kind = .plain → readAs? text .entry = none) := by
  constructor
  · intro read
    obtain ⟨kind, _, taken⟩ := List.exists_of_findSome?_eq_some read
    rw [kind_of_readAs? taken]
    refine ⟨taken, ?_⟩
    rintro rfl
    cases entry : readAs? text .entry with
    | none => rfl
    | some other =>
        simp only [read?, List.findSome?, entry] at read
        cases read
        cases (kind_of_readAs? entry).symm.trans (kind_of_readAs? taken)
  · rintro ⟨taken, entry⟩
    obtain ⟨body, _, parts, _⟩ := readAs?_eq_some_iff.mp taken
    cases kind : found.kind with
    | entry =>
        rw [kind] at taken
        rw [read?, List.findSome?, taken]
    | exit =>
        rw [kind] at taken parts
        have noEntry : readAs? text .entry = none := by rw [parts]; rfl
        rw [read?, List.findSome?, noEntry, List.findSome?, taken]
    | decision =>
        rw [kind] at taken parts
        have noEntry : readAs? text .entry = none := by rw [parts]; rfl
        have noExit : readAs? text .exit = none := by rw [parts]; rfl
        rw [read?, List.findSome?, noEntry, List.findSome?, noExit, List.findSome?, taken]
    | plain =>
        rw [kind] at taken parts
        have noExit : readAs? text .exit = none := by rw [parts]; rfl
        have noDecision : readAs? text .decision = none := by rw [parts]; rfl
        rw [read?, List.findSome?, entry kind, List.findSome?, noExit, List.findSome?, noDecision,
          List.findSome?, taken]

theorem read?_of_entry (taken : readAs? text .entry = some found) : read? text = some found := by
  rw [read?_eq_some_iff, kind_of_readAs? taken]
  exact ⟨taken, nofun⟩

theorem read?_append (read : read? text = some found) (more : List Char) :
    read? (text ++ more) = some { found with rest := found.rest ++ more } ∨
      found.kind = .plain ∧ ∃ entry, read? (text ++ more) = some entry ∧ entry.kind = .entry := by
  obtain ⟨taken, entry⟩ := read?_eq_some_iff.mp read
  have longer : readAs? (text ++ more) found.kind =
      some { found with rest := found.rest ++ more } := by
    obtain ⟨body, inside, parts, cut, known, named, visible⟩ := readAs?_eq_some_iff.mp taken
    refine readAs?_eq_some_iff.mpr ⟨body ++ more, inside, ?_, ?_, rfl, named, visible⟩
    · rw [parts, List.append_assoc]
    · exact Text.cut?_append found.kind.closing_ne_nil cut more
  by_cases plain : found.kind = .plain
  · cases other : readAs? (text ++ more) .entry with
    | none => exact .inl (read?_eq_some_iff.mpr ⟨longer, fun _ => other⟩)
    | some first => exact .inr ⟨plain, first, read?_of_entry other, kind_of_readAs? other⟩
  · exact .inl (read?_eq_some_iff.mpr ⟨longer, fun same => absurd same plain⟩)

theorem readAs?_plain_iff {body : List Char} :
    readAs? ('[' :: body) .plain = some found ↔ ∃ inside,
      Text.cut? [']'] body = some (inside, found.rest) ∧
      found.kind = .plain ∧ found.id = Text.trim inside ∧ found.id ≠ [] :=
  readAs?_opening_iff

theorem readAs?_entry_iff {body : List Char} :
    readAs? ('[' :: '[' :: body) .entry = some found ↔ ∃ inside,
      Text.cut? [']', ']'] body = some (inside, found.rest) ∧
      found.kind = .entry ∧ found.id = Text.trim inside ∧ found.id ≠ [] :=
  readAs?_opening_iff

theorem bracket_of_entry {text : List Char} (read : readAs? ('[' :: text) .entry = some found) :
    ∃ body, text = '[' :: body := by
  obtain ⟨body, _, parts, _⟩ := readAs?_eq_some_iff.mp read
  exact ⟨body, (List.cons.inj parts).2⟩

theorem kind_of_opening {body : List Char}
    (read : readAs? (kind.marks.1 ++ body) found.kind = some found) :
    found.kind = kind ∨ kind = .entry ∧ found.kind = .plain ∨
      kind = .plain ∧ found.kind = .entry := by
  obtain ⟨inside, _, parts, _⟩ := readAs?_eq_some_iff.mp read
  cases kind <;> cases known : found.kind <;> simp [known, NodeKind.marks] at parts ⊢

theorem cut?_written {id more inside rest : List Char} (unclosed : ¬ kind.marks.2 <:+: id)
    (cut : Text.cut? kind.marks.2 (id ++ (kind.marks.2 ++ more)) = some (inside, rest)) :
    inside = id ∧ rest = more ∨
      ∃ closer, kind.marks.2 = [closer, closer] ∧ id = inside ++ [closer] ∧
        rest = closer :: more := by
  have single {closer : Char} (absent : ¬ [closer] <:+: id)
      (cut : Text.cut? [closer] (id ++ ([closer] ++ more)) = some (inside, rest)) :
      inside = id ∧ rest = more := by
    rw [List.singleton_infix_iff] at absent
    have exactly := (Text.cut?_single_eq_some_iff closer _ id more).mpr ⟨rfl, absent⟩
    rw [List.singleton_append] at cut
    rw [cut, Option.some.injEq, Prod.mk.injEq] at exactly
    exact exactly
  cases kind with
  | plain => exact .inl (single unclosed cut)
  | decision => exact .inl (single unclosed cut)
  | entry =>
      obtain whole | parts := Text.cut?_double_of_not_doubled unclosed cut
      · exact .inl whole
      · exact .inr ⟨']', rfl, parts⟩
  | exit =>
      obtain whole | parts := Text.cut?_double_of_not_doubled unclosed cut
      · exact .inl whole
      · exact .inr ⟨')', rfl, parts⟩

theorem cut?_plain {id more inside rest : List Char}
    (cut : Text.cut? NodeKind.plain.marks.2 (id ++ (NodeKind.plain.marks.2 ++ more)) =
      some (inside, rest)) :
    inside = id ∧ rest = more ∨
      ∃ later, id = inside ++ ']' :: later ∧ rest = later ++ ']' :: more :=
  Text.cut?_single_of_append cut

/-- What is read where a reference was written: the reference, or one that something other than a
blank follows, or an entry in place of a plain node. -/
theorem read?_write_append {id more : List Char} (tidy : Text.Tidy id)
    (unclosed : ¬ kind.marks.2 <:+: id) (read : read? (write kind id ++ more) = some found) :
    found = { kind, id, rest := more } ∨
      (∃ first ∈ found.rest.head?, Text.isBlank first = false) ∨
      kind = .plain ∧ found.kind = .entry := by
  obtain ⟨taken, entry⟩ := read?_eq_some_iff.mp read
  rw [write, List.append_assoc, List.append_assoc] at taken entry
  obtain same | ⟨rfl, plain⟩ | other := kind_of_opening taken
  · rw [same] at taken
    obtain ⟨inside, cut, _, named, _⟩ := readAs?_opening_iff.mp taken
    obtain ⟨rfl, left⟩ | ⟨closer, double, _, left⟩ := cut?_written unclosed cut
    · left
      rw [tidy.trimmed] at named
      rw [← same, ← named, ← left]
    · refine .inr (.inl ⟨closer, by rw [left]; rfl, ?_⟩)
      cases kind <;> simp [NodeKind.marks] at double <;> subst double <;> rfl
  · obtain ⟨before, rest, cut, blank⟩ :=
      blanks_of_readAs? (entry plain) (List.infix_append' id NodeKind.entry.marks.2 more)
    obtain ⟨rfl, _⟩ | ⟨closer, double, rfl, _⟩ := cut?_written unclosed cut
    · exact absurd blank tidy.not_blanks
    · have empty := tidy.start_nil blank
      have same : closer = ']' := by simpa [NodeKind.marks] using double.symm
      subst empty same
      rw [plain] at taken
      obtain ⟨inside, reached, _⟩ := readAs?_plain_iff.mp taken
      have early : Text.cut? [']'] ('[' :: ']' :: ']' :: ']' :: more) =
          some (['['], ']' :: ']' :: more) := rfl
      have both : some (inside, found.rest) = some (['['], ']' :: ']' :: more) :=
        reached.symm.trans early
      rw [Option.some.injEq, Prod.mk.injEq] at both
      exact .inr (.inl ⟨']', by rw [both.2]; rfl, rfl⟩)
  · exact .inr (.inr other)

theorem tidy_of_read? (read : read? text = some found) : Text.Tidy found.id := by
  obtain ⟨_, _, _, _, _, named, visible⟩ := readAs?_eq_some_iff.mp (read?_eq_some_iff.mp read).1
  rw [named] at visible ⊢
  exact Text.tidy_trim visible

theorem id_infix_of_read? (read : read? text = some found) : found.id <:+: text := by
  obtain ⟨body, inside, parts, cut, _, named, _⟩ :=
    readAs?_eq_some_iff.mp (read?_eq_some_iff.mp read).1
  obtain ⟨within, _⟩ := (Text.cut?_eq_some_iff found.kind.closing_ne_nil _ _ _).mp cut
  rw [named, parts, within]
  refine (Text.trim_infix inside).trans ?_
  exact ⟨found.kind.marks.1, found.kind.marks.2 ++ found.rest, by simp⟩

theorem rest_suffix_of_read? (read : read? text = some found) : found.rest <:+ text := by
  obtain ⟨body, inside, parts, cut, _⟩ := readAs?_eq_some_iff.mp (read?_eq_some_iff.mp read).1
  obtain ⟨within, _⟩ := (Text.cut?_eq_some_iff found.kind.closing_ne_nil _ _ _).mp cut
  rw [parts, within]
  exact (List.suffix_append _ _).trans (List.suffix_append _ _)

theorem unclosed_of_read? (read : read? text = some found) :
    ¬ found.kind.marks.2 <:+: found.id := by
  obtain ⟨_, inside, _, cut, _, named, _⟩ :=
    readAs?_eq_some_iff.mp (read?_eq_some_iff.mp read).1
  obtain ⟨_, first⟩ := (Text.cut?_eq_some_iff found.kind.closing_ne_nil _ _ _).mp cut
  intro closed
  rw [named] at closed
  exact first ((closed.trans (Text.trim_infix inside)).trans (List.prefix_append _ _).isInfix)

theorem weight_write (kind : NodeKind) (id : List Char) :
    Text.weight (write kind id) = 2 * kind.marks.1.length + Text.weight id := by
  have opening : Text.weight kind.marks.1 = kind.marks.1.length := by cases kind <;> rfl
  have closing : Text.weight kind.marks.2 = kind.marks.1.length := by cases kind <;> rfl
  rw [write, Text.weight_append, Text.weight_append, opening, closing]
  omega

theorem weight_read (read : read? text = some found) :
    Text.weight text = Text.weight (write found.kind found.id) + Text.weight found.rest := by
  obtain ⟨body, inside, rfl, cut, _, named, _⟩ := readAs?_eq_some_iff.mp (read?_eq_some_iff.mp read).1
  have parts := ((Text.cut?_eq_some_iff found.kind.closing_ne_nil _ _ _).mp cut).1
  rw [parts, write, named]
  simp only [Text.weight_append, Text.weight_trim]
  omega

theorem holds_iff {id : List Char} :
    holds id kind = true ↔ read? (write kind id) = some { kind, id, rest := [] } := by
  constructor
  · intro held
    rw [holds] at held
    split at held
    · rename_i found read
      obtain ⟨same, ended⟩ : found.id = id ∧ found.rest = [] := by simpa using held
      have weights := weight_read read
      rw [same, ended, weight_write, weight_write, Text.weight_of_blanks Text.onlyBlanks_nil] at weights
      have taken := (read?_eq_some_iff.mp read).1
      rw [write, List.append_assoc] at taken
      have kept : found.kind = kind := by
        obtain kept | ⟨rfl, plain⟩ | ⟨rfl, entry⟩ := kind_of_opening taken
        · exact kept
        · simp [plain, NodeKind.marks] at weights
        · simp [entry, NodeKind.marks] at weights
      rw [read, ← same, ← kept, ← ended]
    · cases held
  · intro read
    simp [holds, read]

theorem shapeFor_holds (id : List Char) :
    holds id (shapeFor id) = true ∨ shapeFor id = .plain := by
  rw [shapeFor]
  cases found : [NodeKind.plain, .decision, .entry, .exit].find? (holds id) with
  | some kind => exact .inl (List.find?_some found)
  | none => exact .inr rfl

end FlowText.Reference

end Chartbook
