import Chartbook.Agent.Answer
import Chartbook.Proofs.Json.LineBreak

/-!
The answer is found through what the model writes around it. The whole text is tried first, then
the inside of a code fence, and neither can be read as another answer.

Main statement: `found_through_wrapping`.
-/

namespace Chartbook.Agent.Answer

open Json Text

variable {text : List Char} {answer other : Answer}

theorem parts_of_read? {names : List FieldName} {least : Nat} {json : Json} {record : Record}
    (read : Record.read? names least json = some record) :
    json.items? ≠ none ∨ json.fields? ≠ none := by
  cases json with
  | array => exact .inl nofun
  | object => exact .inr nofun
  | _ => cases read

theorem skipSpace_trim (text : List Char) : skipSpace (trim text) = trim text := by
  cases kept : trim text with
  | nil => rfl
  | cons first rest =>
      have visible : isBlank first = false := trim_first first (by rw [kept]; rfl)
      have solid : isSpace first = false := by
        by_contra space
        rw [isBlank_of_isSpace (by simpa using space)] at visible
        cases visible
      simp [skipSpace, solid]

theorem nil_of_skipSpace (gone : skipSpace text = [])
    (last : ∀ final ∈ text.getLast?, isBlank final = false) : text = [] := by
  obtain ⟨spaces, blank, parts⟩ := skipSpace_parts text
  rw [gone, List.append_nil] at parts
  cases found : text.getLast? with
  | none => exact List.getLast?_eq_none_iff.mp found
  | some final =>
      rw [← parts] at blank
      exact absurd (List.mem_of_getLast? found) (blank.not_mem (last final found))

theorem exists_spans (read : read? (trim text) = some answer) :
    ∃ bracket inner, trim text = Bracket.opening bracket :: inner ∧ Spans none (trim text) [] := by
  obtain ⟨json, found, decoded⟩ := Option.bind_eq_some_iff.mp read
  obtain ⟨record, fields, _⟩ := Option.bind_eq_some_iff.mp decoded
  rw [readChars?, skipSpace_trim] at found
  split at found
  case h_2 => cases found
  rename_i json' rest value
  split at found
  case isFalse => cases found
  rename_i gone
  cases found
  have spans := spans_of_readValue value
  have visible : ∀ final ∈ (trim text).getLast?, isBlank final = false := trim_last
  have ended : rest = [] := by
    obtain ⟨part, parts⟩ := spans.suffix
    rw [← parts] at visible
    exact nil_of_skipSpace gone fun final last =>
      visible final (List.mem_getLast?_append_of_mem_getLast? last)
  rw [ended] at spans
  obtain atom | ⟨bracket, inner, starts⟩ := readAtom?_of_readValue value
  · obtain ⟨items, fields'⟩ := no_parts_of_readAtom? atom
    obtain array | object := parts_of_read? fields
    · exact absurd items array
    · exact absurd fields' object
  · exact ⟨bracket, inner, starts, spans⟩

/-- What stands for an answer, from its first brace to its last. -/
structure Stands (body : List Char) (answer : Answer) : Prop where
  first : body.head? = some '\x7b'
  last : body.getLast? = some '\x7d'
  decoded : read? body = some answer

def Unopened (text : List Char) : Prop :=
  ∀ bracket, Bracket.opening bracket ∉ text

def Unclosed (text : List Char) : Prop :=
  ∀ bracket, Bracket.closing bracket ∉ text

theorem Unopened.trimStart (bare : Unopened text) : Unopened (trimStart text) :=
  fun bracket member => bare bracket ((List.dropWhile_suffix isBlank).subset member)

theorem Unclosed.trimEnd (clear : Unclosed text) : Unclosed (trimEnd text) := by
  intro bracket member
  obtain ⟨after, _, parts, _⟩ := trimEnd_parts text
  apply clear bracket
  rw [parts]
  exact List.mem_append_left after member

theorem not_read?_of_unclosed (clear : Unclosed text) : read? (trim text) = none := by
  rw [Option.eq_none_iff_forall_ne_some]
  intro other read
  obtain ⟨bracket, inner, starts, spans⟩ := exists_spans read
  have within := trim_infix text
  rw [starts] at spans within
  refine clear bracket (within.subset ?_)
  exact List.mem_cons_of_mem _ spans.closing_mem_of_opening

variable {body left right : List Char}

theorem fence_behind {inside : List Char} (last : text.getLast? = some '\x7d')
    (fenced : text ++ right = inside ++ codeFence) :
    ∃ rest, right = rest ++ codeFence ∧ inside = text ++ rest := by
  have ending : codeFence <:+ text ++ right := ⟨inside, fenced.symm⟩
  obtain ⟨rest, rfl⟩ | ⟨part, parts⟩ :=
    List.suffix_or_suffix_of_suffix ending (List.suffix_append text right)
  · rw [← List.append_assoc] at fenced
    exact ⟨rest, rfl, (List.append_cancel_right fenced).symm⟩
  · rw [← parts] at ending
    obtain ⟨front, rfl⟩ := List.suffix_append_self_iff.mp ending
    cases found : part.getLast? with
    | none =>
        rw [List.getLast?_eq_none_iff.mp found, List.nil_append] at parts
        rw [List.getLast?_eq_none_iff.mp found, parts] at fenced ⊢
        exact ⟨[], rfl, by simpa using (List.append_cancel_right fenced).symm⟩
    | some final =>
        rw [List.mem_getLast?_append_of_mem_getLast? found] at last
        cases last
        have member := List.mem_append_left right (List.mem_of_getLast? found)
        rw [parts] at member
        exact absurd member (by decide)

theorem parts_of_insideFence? {shown : List Char} (fenced : insideFence? (trim text) = some shown) :
    ∃ line inside, trim text = codeFence ++ line ++ '\n' :: (inside ++ codeFence) ∧
      trim inside = shown := by
  simp only [insideFence?, Option.bind_eq_bind, Option.bind_eq_some_iff, after?_eq_some_iff,
    cut?_single_eq_some_iff, before?_eq_some_iff, Option.some.injEq, Prod.exists] at fenced
  obtain ⟨opened, whole, line, page, ⟨rest, _⟩, inside, ending, shown⟩ := fenced
  refine ⟨line, inside, ?_, shown⟩
  have visible : ∀ final ∈ (trim text).getLast?, isBlank final = false := trim_last
  have same : trimEnd page = page := by
    rw [whole, rest, ← List.append_assoc, List.append_cons] at visible
    exact trimEnd_of_getLast fun final last =>
      visible final (List.mem_getLast?_append_of_mem_getLast? last)
  rw [whole, rest, ← ending, same, List.append_assoc]

namespace Stands

theorem tidy (stands : Stands body answer) : Tidy body := by
  refine { trimmed := trim_of_ends ?_ ?_, nonempty := ?_ }
  · rw [stands.first]
    rintro _ ⟨⟩
    rfl
  · rw [stands.last]
    rintro _ ⟨⟩
    rfl
  · rintro rfl
    cases stands.first

theorem spans (stands : Stands body answer) :
    ∃ bracket inner, body = Bracket.opening bracket :: inner ∧ Spans none body [] := by
  have decoded := stands.decoded
  rw [← stands.tidy.trimmed] at decoded
  have found := exists_spans decoded
  rwa [stands.tidy.trimmed] at found

theorem of_whole (stands : Stands body answer) (bare : Unopened left)
    (read : read? (trim (left ++ body ++ right)) = some other) : other = answer := by
  obtain ⟨bracket, inner, starts, spans⟩ := exists_spans read
  rw [trim_around stands.tidy] at starts spans read
  have front : trimStart left = [] := by
    cases kept : trimStart left with
    | nil => rfl
    | cons first rest =>
        rw [kept] at starts
        injection starts with same
        have member : first ∈ trimStart left := by
          rw [kept]
          exact List.mem_cons_self
        rw [same] at member
        exact absurd member (bare.trimStart bracket)
  rw [front, List.nil_append] at spans read
  obtain ⟨bracket, inner, starts, whole⟩ := stands.spans
  have back := spans.unique (whole.append (trimEnd right) fun _ _ => ⟨bracket, inner, starts⟩)
  rw [List.nil_append] at back
  rw [← back, List.append_nil, stands.decoded] at read
  cases read
  rfl

theorem last_behind_break (stands : Stands body answer) {later : List Char}
    (cut : '\n' :: later <:+ body) : later.getLast? = some '\x7d' := by
  obtain ⟨front, parts⟩ := cut
  have whole := stands.last
  cases later with
  | nil =>
      rw [← parts, List.getLast?_concat] at whole
      cases whole
  | cons first later =>
      rwa [← parts, List.append_cons,
        List.getLast?_append_of_ne_nil _ (List.cons_ne_nil first later)] at whole

theorem not_read?_behind_break (stands : Stands body answer) {later : List Char}
    (cut : '\n' :: later <:+ body) (rest : List Char) : read? (trim (later ++ rest)) = none := by
  obtain ⟨shown, filled⟩ := trim_before (stands.last_behind_break cut) rfl rest
  rw [Option.eq_none_iff_forall_ne_some]
  intro other read
  obtain ⟨bracket, inner, starts, spans⟩ := exists_spans read
  rw [shown] at starts spans
  obtain ⟨_, _, _, whole⟩ := stands.spans
  obtain ⟨first, tail, kept⟩ := List.exists_cons_of_ne_nil filled
  refine whole.endsEarly cut List.nil_suffix bracket tail ?_ (trimEnd rest) spans
  rw [kept] at starts ⊢
  injection starts with same
  rw [same]

theorem of_insideFence? (stands : Stands body answer) (bare : Unopened left)
    (clear : Unclosed right) {shown : List Char}
    (fenced : insideFence? (trim (left ++ body ++ right)) = some shown)
    (read : read? shown = some other) : other = answer := by
  obtain ⟨line, inside, parts, rfl⟩ := parts_of_insideFence? fenced
  rw [trim_around stands.tidy, List.append_assoc] at parts
  have cut : '\n' :: (inside ++ codeFence) <:+ trimStart left ++ (body ++ trimEnd right) :=
    ⟨codeFence ++ line, by simp [parts]⟩
  obtain ⟨middle, behind⟩ | cut' := before_or_behind cut (List.suffix_append _ _)
  · rw [← behind, ← List.cons_append] at cut
    have front := List.suffix_append_self_iff.mp cut
    rw [← List.append_assoc] at behind
    obtain ⟨rest, _, rfl⟩ := fence_behind
      (by rw [List.getLast?_append_of_ne_nil _ stands.tidy.nonempty, stands.last]) behind
    refine stands.of_whole (fun bracket member => bare.trimStart bracket ?_) read
    exact front.subset (List.mem_cons_of_mem _ member)
  obtain ⟨later, behind⟩ | cut'' := before_or_behind cut' (List.suffix_append _ _)
  · rw [← behind, ← List.cons_append] at cut'
    have within := List.suffix_append_self_iff.mp cut'
    obtain ⟨rest, _, rfl⟩ := fence_behind (stands.last_behind_break within) behind
    rw [stands.not_read?_behind_break within] at read
    cases read
  · have lost : Unclosed inside := by
      intro bracket member
      apply clear.trimEnd bracket
      exact cut''.subset (List.mem_cons_of_mem _ (List.mem_append_left codeFence member))
    rw [not_read?_of_unclosed lost] at read
    cases read

theorem betweenBraces?_trim (stands : Stands body answer) (bare : Unopened left)
    (clear : Unclosed right) : betweenBraces? (trim (left ++ body ++ right)) = some body := by
  have opened : (trimStart left ++ (body ++ trimEnd right)).dropWhile (· != '\x7b') =
      body ++ trimEnd right := by
    obtain ⟨inner, starts⟩ := List.head?_eq_some_iff.mp stands.first
    rw [List.dropWhile_append_of_pos, starts]
    · rfl
    · intro character member
      have other : character ≠ '\x7b' := by
        rintro rfl
        exact bare.trimStart .curly member
      simpa using other
  have closed : ((body ++ trimEnd right).reverse.dropWhile (· != '\x7d')).reverse = body := by
    obtain ⟨inner, ends⟩ := List.getLast?_eq_some_iff.mp stands.last
    rw [List.reverse_append, List.dropWhile_append_of_pos, ends]
    · simp
    · intro character member
      have other : character ≠ '\x7d' := by
        rintro rfl
        exact clear.trimEnd .curly (List.mem_reverse.mp member)
      simpa using other
  rw [trim_around stands.tidy, List.append_assoc, betweenBraces?]
  simp only [opened, closed]
  rw [if_neg stands.tidy.nonempty]

end Stands

theorem found_through_wrapping (before body after : String) (answer : Answer)
    (first : body.toList.head? = some '\x7b') (last : body.toList.getLast? = some '\x7d')
    (decoded : read? body.toList = some answer)
    (bare : '\x7b' ∉ before.toList ∧ '[' ∉ before.toList)
    (clear : '\x7d' ∉ after.toList ∧ ']' ∉ after.toList) :
    extract? (before ++ body ++ after) = some answer := by
  have stands : Stands body.toList answer := { first, last, decoded }
  have unopened : Unopened before.toList := by
    rintro (_ | _)
    · exact bare.2
    · exact bare.1
  have unclosed : Unclosed after.toList := by
    rintro (_ | _)
    · exact clear.2
    · exact clear.1
  simp only [extract?, String.toList_append]
  rw [stands.betweenBraces?_trim unopened unclosed, Option.bind_some, decoded]
  cases whole : read? (trim (before.toList ++ body.toList ++ after.toList)) with
  | some other =>
      rw [stands.of_whole unopened whole]
      rfl
  | none =>
      cases inside : (insideFence? (trim (before.toList ++ body.toList ++ after.toList))).bind
          read? with
      | none => rfl
      | some other =>
          obtain ⟨shown, fenced, read⟩ := Option.bind_eq_some_iff.mp inside
          rw [stands.of_insideFence? unopened unclosed fenced read]
          rfl

/-- The first line of the fence ends in the middle of the body, whose text has brackets and a fence
of its own. -/
theorem found_in_fence_cut_short :
    extract? ("```json " ++ "\x7b\"markdown\":\n\"a\x7d ``` [\"\x7d" ++ "\n```") =
      some { markdown := some "a\x7d ``` [", summary := none } :=
  found_through_wrapping "```json " "\x7b\"markdown\":\n\"a\x7d ``` [\"\x7d" "\n```"
    { markdown := some "a\x7d ``` [", summary := none } (by decide) (by decide) (by decide +kernel)
    (by decide) (by decide)

end Chartbook.Agent.Answer
