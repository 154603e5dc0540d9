import Chartbook.Json.Reader
import Chartbook.Proofs.Text.Blank
import Chartbook.Proofs.Text.Search

/-!
Tokens of JSON text. A token has no line feed in it, and where it ends before the text does, more
text behind it changes nothing.

Main statement: `steady_readAtom?`.
-/

namespace Chartbook.Json

open Text

theorem isBlank_of_isSpace {character : Char} (space : isSpace character = true) :
    isBlank character = true := by
  simp only [isSpace, Bool.or_eq_true, beq_iff_eq] at space
  obtain ((rfl | rfl) | rfl) | rfl := space <;> rfl

theorem skipSpace_suffix (text : List Char) : skipSpace text <:+ text :=
  List.dropWhile_suffix isSpace

theorem skipSpace_parts (text : List Char) :
    ∃ spaces, OnlyBlanks spaces ∧ text = spaces ++ skipSpace text := by
  refine ⟨text.takeWhile isSpace, ?_, List.takeWhile_append_dropWhile.symm⟩
  intro character member
  exact isBlank_of_isSpace (List.all_eq_true.mp List.all_takeWhile character member)

theorem skipSpace_append {text rest : List Char} {mark : Char}
    (found : skipSpace text = mark :: rest) (more : List Char) :
    skipSpace (text ++ more) = mark :: (rest ++ more) := by
  rw [skipSpace] at found ⊢
  rw [List.dropWhile_append, found]
  rfl

/-- What was taken off the front of the first text to get the second has no line feed. -/
def Inline (text rest : List Char) : Prop :=
  ∃ part, text = part ++ rest ∧ '\n' ∉ part

namespace Inline

variable {text middle rest : List Char}

theorem refl (text : List Char) : Inline text text :=
  ⟨[], rfl, by simp⟩

theorem trans (first : Inline text middle) (second : Inline middle rest) : Inline text rest := by
  obtain ⟨part, rfl, clean⟩ := first
  obtain ⟨other, rfl, clear⟩ := second
  exact ⟨part ++ other, by rw [List.append_assoc], by simp [clean, clear]⟩

theorem behind (taken : Inline text rest) (mark : List Char) (clean : '\n' ∉ mark) :
    Inline (mark ++ text) rest :=
  trans ⟨mark, rfl, clean⟩ taken

theorem suffix (taken : Inline text rest) : rest <:+ text := by
  obtain ⟨part, parts, _⟩ := taken
  exact ⟨part, parts.symm⟩

end Inline

/-- A reader that takes no line feed. Unless it comes to the end, it takes the same of a longer
text. -/
def Steady {Token : Type} (read : List Char → Option (Token × List Char)) : Prop :=
  ∀ ⦃text token rest⦄, read text = some (token, rest) →
    Inline text rest ∧ (rest ≠ [] → ∀ more, read (text ++ more) = some (token, rest ++ more))

theorem Steady.pure {Token : Type} (token : Token) : Steady fun text => some (token, text) := by
  intro text other rest found
  cases found
  exact ⟨.refl text, fun _ _ => rfl⟩

theorem Steady.bind {First Second : Type} {read : List Char → Option (First × List Char)}
    {next : First → List Char → Option (Second × List Char)} (steady : Steady read)
    (later : ∀ token, Steady (next token)) :
    Steady fun text => (read text).bind fun found => next found.1 found.2 := by
  intro text token rest found
  dsimp only at found ⊢
  obtain ⟨⟨first, middle⟩, here, there⟩ := Option.bind_eq_some_iff.mp found
  obtain ⟨taken, longer⟩ := steady here
  obtain ⟨others, longest⟩ := later first there
  refine ⟨taken.trans others, ?_⟩
  intro left more
  have unfinished : middle ≠ [] := by
    rintro rfl
    exact left (List.suffix_nil.mp others.suffix)
  rw [longer unfinished more]
  exact longest left more

theorem steady_digits {Token : Type} (accept : List Char → Option Token) :
    Steady fun text =>
      (accept (text.span isDigit).1).map fun token => (token, (text.span isDigit).2) := by
  intro text token rest found
  simp only [List.span_eq_takeWhile_dropWhile] at found ⊢
  obtain ⟨accepted, here, there⟩ := Option.map_eq_some_iff.mp found
  cases there
  refine ⟨⟨text.takeWhile isDigit, List.takeWhile_append_dropWhile.symm, ?_⟩, ?_⟩
  · intro feed
    have digit := List.all_eq_true.mp List.all_takeWhile _ feed
    revert digit
    decide
  · intro left more
    have short : (text.takeWhile isDigit).length ≠ text.length := by
      intro whole
      have parts : (text.takeWhile isDigit ++ text.dropWhile isDigit).length = text.length :=
        congrArg List.length List.takeWhile_append_dropWhile
      rw [List.length_append, whole] at parts
      exact left (List.length_eq_zero_iff.mp (by omega))
    rw [List.takeWhile_append, List.dropWhile_append, if_neg short, if_neg (by simpa using left),
      here]
    rfl

def announced {Token : Type} (mark : Char → Bool)
    (read : Char → List Char → Option (Token × List Char)) (absent : Token) :
    List Char → Option (Token × List Char)
  | first :: rest => if mark first then read first rest else some (absent, first :: rest)
  | [] => some (absent, [])

theorem Steady.announced {Token : Type} {mark : Char → Bool}
    {read : Char → List Char → Option (Token × List Char)} (steady : ∀ first, Steady (read first))
    (inline : mark '\n' = false) (absent : Token) : Steady (announced mark read absent) := by
  intro text token rest found
  cases text with
  | nil =>
      cases found
      exact ⟨.refl _, fun left => absurd rfl left⟩
  | cons first later =>
      simp only [List.cons_append, Json.announced] at found ⊢
      split at found
      · rename_i marked
        obtain ⟨taken, longer⟩ := steady first found
        have visible : '\n' ≠ first := by
          rintro rfl
          rw [inline] at marked
          cases marked
        simp only [if_pos marked]
        exact ⟨taken.behind [first] (by simp [visible]), longer⟩
      · rename_i other
        cases found
        simp only [if_neg other]
        exact ⟨.refl _, fun _ _ => rfl⟩

theorem steady_readSign : Steady fun text => some (readSign text) := by
  have shape : (fun text => some (readSign text)) =
      announced (· == '-') (fun _ rest => some (true, rest)) false := by
    funext text
    cases text with
    | nil => rfl
    | cons first rest => by_cases minus : first = '-' <;> simp [readSign, announced, minus]
  rw [shape]
  exact .announced (fun _ => .pure true) rfl false

theorem steady_readWhole? : Steady readWhole? := by
  let accept (digits : List Char) : Option (List Char) :=
    if digits = [] ∨ digits.head? = some '0' ∧ digits.length ≠ 1 then none else some digits
  have shape : readWhole? = fun text =>
      (accept (text.span isDigit).1).map fun token => (token, (text.span isDigit).2) := by
    funext text
    rw [readWhole?]
    obtain ⟨digits, rest⟩ := text.span isDigit
    cases digits with
    | nil => rfl
    | cons first more =>
        cases more <;> by_cases zero : first = '0' <;> simp [accept, zero]
  rw [shape]
  exact steady_digits accept

theorem steady_readFraction? : Steady readFraction? := by
  let accept (digits : List Char) : Option (Option (List Char)) :=
    if digits = [] then none else some (some digits)
  have shape : readFraction? =
      announced (· == '.') (fun _ rest =>
        (accept (rest.span isDigit).1).map fun token => (token, (rest.span isDigit).2)) none := by
    funext text
    cases text with
    | nil => rfl
    | cons first rest =>
        by_cases point : first = '.'
        · subst point
          rw [readFraction?]
          split <;> simp_all [announced, accept]
        · simp [readFraction?, announced, point]
  rw [shape]
  exact .announced (fun _ => steady_digits accept) rfl none

theorem steady_readExponentDigits? (negative : Bool) : Steady (readExponentDigits? negative) := by
  let accept (digits : List Char) : Option (Option Int) :=
    if digits = [] then none
    else some (some (if negative then -(digitsValue digits : Int) else digitsValue digits))
  have shape : readExponentDigits? negative = fun text =>
      (accept (text.span isDigit).1).map fun token => (token, (text.span isDigit).2) := by
    funext text
    rw [readExponentDigits?]
    split <;> simp_all [accept]
  rw [shape]
  exact steady_digits accept

theorem steady_readExponent? : Steady readExponent? := by
  let readSigned (text : List Char) : Option (Option Int × List Char) :=
    (announced (fun first => first == '+' || first == '-')
      (fun first rest => some (first == '-', rest)) false text).bind fun signed =>
        readExponentDigits? signed.1 signed.2
  have signed : Steady readSigned :=
    .bind (.announced (fun _ => .pure _) rfl false) steady_readExponentDigits?
  have shape : readExponent? =
      announced (fun first => first == 'e' || first == 'E') (fun _ => readSigned) none := by
    funext text
    cases text with
    | nil => rfl
    | cons first rest =>
        by_cases marked : first = 'e' ∨ first = 'E'
        · cases rest with
          | nil => obtain rfl | rfl := marked <;> rfl
          | cons second rest =>
              obtain rfl | rfl := marked <;>
                by_cases plus : second = '+' <;> by_cases minus : second = '-' <;>
                  simp_all [readExponent?, announced, readSigned]
        · rw [not_or] at marked
          simp [readExponent?, announced, marked]
  rw [shape]
  exact .announced (fun _ => signed) rfl none

theorem steady_readNumber? : Steady readNumber? := by
  have shape : readNumber? = fun text =>
      (some (readSign text)).bind fun signed => (readWhole? signed.2).bind fun whole =>
        (readFraction? whole.2).bind fun fraction => (readExponent? fraction.2).bind fun exponent =>
          some (NumberToken.value
            { negative := signed.1, whole := whole.1, fraction := fraction.1
              exponent := exponent.1 }, exponent.2) := by
    funext text
    rfl
  rw [shape]
  exact steady_readSign.bind fun negative => steady_readWhole?.bind fun whole =>
    steady_readFraction?.bind fun fraction => steady_readExponent?.bind fun exponent =>
      .pure (NumberToken.value { negative, whole, fraction, exponent })

theorem inline_of_hexPiece? {a b c d : Char} {piece : Piece}
    (read : hexPiece? a b c d = some piece) : '\n' ∉ [a, b, c, d] := by
  simp only [hexPiece?, Option.bind_eq_bind, Option.bind_eq_some_iff] at read
  obtain ⟨_, first, _, second, _, third, _, fourth, _⟩ := read
  have visible {digit : Char} {value : Nat} (known : hexDigit? digit = some value) :
      '\n' ≠ digit := by
    rintro rfl
    cases known
  simp [visible first, visible second, visible third, visible fourth]

theorem steady_readPieces : Steady readPieces := by
  intro text
  induction text using readPieces.induct with
  | case1 => intro token rest found; cases found
  | case2 later =>
      intro token rest found
      cases found
      exact ⟨⟨['"'], rfl, by decide⟩, fun _ _ => rfl⟩
  | case3 a b c d later ih =>
      intro token rest found
      simp only [readPieces, Option.bind_eq_bind, Option.bind_eq_some_iff] at found
      obtain ⟨piece, read, ⟨pieces, after⟩, there, same⟩ := found
      cases same
      obtain ⟨taken, longer⟩ := ih there
      have inline := inline_of_hexPiece? read
      refine ⟨taken.behind ['\\', 'u', a, b, c, d] (by simpa using inline), ?_⟩
      intro left more
      simp [readPieces, read, longer left more]
  | case4 escape later short ih =>
      intro token rest found
      rw [readPieces] at found
      case x_1 => exact short
      simp only [Option.bind_eq_bind, Option.bind_eq_some_iff] at found
      obtain ⟨character, read, ⟨pieces, after⟩, there, same⟩ := found
      cases same
      obtain ⟨taken, longer⟩ := ih there
      have visible : '\n' ≠ escape := by
        rintro rfl
        cases read
      have known : escape ≠ 'u' := by
        rintro rfl
        cases read
      refine ⟨taken.behind ['\\', escape] (by simp [visible]), fun left more => ?_⟩
      simp [readPieces, known, read, longer left more]
  | case5 character later _ _ _ control =>
      intro token rest found
      simp [readPieces, control] at found
  | case6 character later closing _ alone plain ih =>
      intro token rest found
      have visible : '\n' ≠ character := by
        rintro rfl
        exact plain rfl
      have bare : character ≠ '\\' := by
        rintro rfl
        exact plain rfl
      rw [readPieces, if_neg plain] at found <;> try assumption
      simp only [Option.bind_eq_bind, Option.bind_eq_some_iff] at found
      obtain ⟨⟨pieces, after⟩, there, same⟩ := found
      cases same
      obtain ⟨taken, longer⟩ := ih there
      refine ⟨taken.behind [character] (by simp [visible]), fun left more => ?_⟩
      simp [readPieces, bare, plain, longer left more]

theorem steady_readText : Steady readText := by
  have shape : readText = fun text => (readPieces text).bind fun read =>
      some ((characters? read.1).map String.ofList, read.2) := by
    funext text
    rfl
  rw [shape]
  exact steady_readPieces.bind fun pieces => .pure ((characters? pieces).map String.ofList)

def readWord? (value : Json) (word text : List Char) : Option (Json × List Char) :=
  (after? word text).map fun rest => (value, rest)

def readQuoted? (text : List Char) : Option (Json × List Char) :=
  (readText text).map fun found => (ofReadText found.1, found.2)

def readAtom? : List Char → Option (Json × List Char)
  | 'n' :: rest => readWord? null ['u', 'l', 'l'] rest
  | 't' :: rest => readWord? (bool true) ['r', 'u', 'e'] rest
  | 'f' :: rest => readWord? (bool false) ['a', 'l', 's', 'e'] rest
  | '"' :: rest => readQuoted? rest
  | text => readNumber? text

theorem steady_readWord? (value : Json) {word : List Char} (inline : '\n' ∉ word) :
    Steady (readWord? value word) := by
  intro text token rest found
  obtain ⟨after, here, there⟩ := Option.map_eq_some_iff.mp found
  cases there
  have parts := (after?_eq_some_iff word text rest).mp here
  refine ⟨⟨word, parts, inline⟩, fun _ more => ?_⟩
  have longer : after? word (text ++ more) = some (rest ++ more) := by
    rw [after?_eq_some_iff, parts, List.append_assoc]
  rw [readWord?, longer]
  rfl

theorem steady_readQuoted? : Steady readQuoted? := by
  have shape : readQuoted? = fun text => (readText text).bind fun read =>
      some (ofReadText read.1, read.2) := by
    funext text
    rw [readQuoted?, Option.map_eq_bind]
    rfl
  rw [shape]
  exact steady_readText.bind fun text => .pure (ofReadText text)

def beginsNumber (first : Char) : Bool :=
  first == '-' || isDigit first

theorem begins_of_readNumber? {text : List Char} {found : Json × List Char}
    (read : readNumber? text = some found) :
    ∃ first rest, text = first :: rest ∧ beginsNumber first = true := by
  cases text with
  | nil => cases read
  | cons first rest =>
      refine ⟨first, rest, rfl, ?_⟩
      by_contra other
      simp only [beginsNumber, Bool.or_eq_true, beq_iff_eq, not_or, Bool.not_eq_true] at other
      obtain ⟨minus, digit⟩ := other
      simp [readNumber?, readSign, readWhole?, List.span_eq_takeWhile_dropWhile, minus, digit]
        at read

theorem readAtom?_of_number {first : Char} (number : beginsNumber first = true)
    (rest : List Char) : readAtom? (first :: rest) = readNumber? (first :: rest) := by
  have other (letter : Char) (away : beginsNumber letter = false) : first ≠ letter := by
    rintro rfl
    rw [number] at away
    cases away
  simp [readAtom?, other 'n' rfl, other 't' rfl, other 'f' rfl, other '"' rfl]

def beginsAtom (first : Char) : Bool :=
  ['n', 't', 'f', '"'].contains first || beginsNumber first

theorem begins_of_readAtom? {text : List Char} {found : Json × List Char}
    (read : readAtom? text = some found) :
    ∃ first rest, text = first :: rest ∧ beginsAtom first = true := by
  rw [readAtom?.eq_def] at read
  split at read
  case h_5 =>
    obtain ⟨first, rest, rfl, number⟩ := begins_of_readNumber? read
    exact ⟨first, rest, rfl, by simp [beginsAtom, number]⟩
  all_goals exact ⟨_, _, rfl, rfl⟩

theorem not_isBlank_of_beginsAtom {first : Char} (begins : beginsAtom first = true) :
    isBlank first = false := by
  simp only [beginsAtom, beginsNumber, isDigit, Bool.or_eq_true, Bool.and_eq_true, beq_iff_eq,
    decide_eq_true_eq, List.contains_iff_mem, List.mem_cons, List.not_mem_nil, or_false] at begins
  obtain (rfl | rfl | rfl | rfl) | rfl | ⟨above, below⟩ := begins
  case inr.inr =>
    have least : 48 ≤ first.toNat := above
    have most : first.toNat ≤ 57 := below
    simp only [isBlank, Bool.or_eq_false_iff, Bool.and_eq_false_iff, decide_eq_false_iff_not,
      beq_eq_false_iff_ne]
    omega
  all_goals rfl

theorem steady_readAtom? : Steady readAtom? := by
  have led (letter : Char) (visible : letter ≠ '\n') {read : List Char → Option (Json × List Char)}
      (steady : Steady read) (same : ∀ rest, readAtom? (letter :: rest) = read rest)
      {rest after : List Char} {token : Json} (found : read rest = some (token, after)) :
      Inline (letter :: rest) after ∧
        (after ≠ [] →
          ∀ more, readAtom? (letter :: rest ++ more) = some (token, after ++ more)) := by
    obtain ⟨taken, longer⟩ := steady found
    refine ⟨taken.behind [letter] (by simp [visible.symm]), fun left more => ?_⟩
    rw [List.cons_append, same]
    exact longer left more
  intro text token rest found
  rw [readAtom?.eq_def] at found
  split at found
  · exact led 'n' (by decide) (steady_readWord? _ (by decide)) (fun _ => rfl) found
  · exact led 't' (by decide) (steady_readWord? _ (by decide)) (fun _ => rfl) found
  · exact led 'f' (by decide) (steady_readWord? _ (by decide)) (fun _ => rfl) found
  · exact led '"' (by decide) steady_readQuoted? (fun _ => rfl) found
  · obtain ⟨first, later, rfl, number⟩ := begins_of_readNumber? found
    obtain ⟨taken, longer⟩ := steady_readNumber? found
    refine ⟨taken, fun left more => ?_⟩
    rw [List.cons_append, readAtom?_of_number number]
    exact longer left more

theorem NumberToken.no_parts (token : NumberToken) :
    token.value.items? = none ∧ token.value.fields? = none := by
  have double (value : Option Double) :
      (ofDouble? value).items? = none ∧ (ofDouble? value).fields? = none := by
    cases value <;> exact ⟨rfl, rfl⟩
  rw [NumberToken.value]
  split
  split
  · split
    · exact ⟨rfl, rfl⟩
    · split
      · exact ⟨rfl, rfl⟩
      · exact double _
  · exact double _

theorem no_parts_of_readAtom? {text : List Char} {found : Json × List Char}
    (read : readAtom? text = some found) : found.1.items? = none ∧ found.1.fields? = none := by
  have word {value : Json} {mark rest : List Char} (read : readWord? value mark rest = some found) :
      found.1 = value := by
    obtain ⟨_, _, rfl⟩ := Option.map_eq_some_iff.mp read
    rfl
  rw [readAtom?.eq_def] at read
  split at read
  case h_4 =>
    obtain ⟨⟨text, _⟩, _, rfl⟩ := Option.map_eq_some_iff.mp read
    cases text <;> exact ⟨rfl, rfl⟩
  case h_5 =>
    simp only [readNumber?, Option.bind_eq_bind, Option.bind_eq_some_iff, Option.some.injEq] at read
    obtain ⟨_, _, _, _, _, _, rfl⟩ := read
    exact NumberToken.no_parts _
  all_goals
    rw [word read]
    exact ⟨rfl, rfl⟩

end Chartbook.Json
