import Chartbook.Json.Basic

/-!
Reading JSON text. The grammar is that of RFC 8259, over the whole text.
-/

namespace Chartbook.Json

def isSpace (character : Char) : Bool :=
  character == ' ' || character == '\t' || character == '\n' || character == '\r'

def skipSpace (text : List Char) : List Char :=
  text.dropWhile isSpace

/-! Strings. -/

inductive Piece where
  | character (value : Char)
  | high (value : Nat)
  | low (value : Nat)
  deriving DecidableEq, Repr

def hexDigit? (digit : Char) : Option Nat :=
  if '0' ≤ digit && digit ≤ '9' then some (digit.toNat - '0'.toNat)
  else if 'a' ≤ digit && digit ≤ 'f' then some (digit.toNat - 'a'.toNat + 10)
  else if 'A' ≤ digit && digit ≤ 'F' then some (digit.toNat - 'A'.toNat + 10)
  else none

def hexPiece? (first second third fourth : Char) : Option Piece := do
  let a ← hexDigit? first
  let b ← hexDigit? second
  let c ← hexDigit? third
  let d ← hexDigit? fourth
  let code := ((a * 16 + b) * 16 + c) * 16 + d
  if 0xD800 ≤ code && code < 0xDC00 then some (.high (code - 0xD800))
  else if 0xDC00 ≤ code && code < 0xE000 then some (.low (code - 0xDC00))
  else some (.character (Char.ofNat code))

def escaped? : Char → Option Char
  | '"' => some '"'
  | '\\' => some '\\'
  | '/' => some '/'
  | 'b' => some '\x08'
  | 'f' => some '\x0c'
  | 'n' => some '\n'
  | 'r' => some '\r'
  | 't' => some '\t'
  | _ => none

def readPieces : List Char → Option (List Piece × List Char)
  | [] => none
  | '"' :: rest => some ([], rest)
  | '\\' :: 'u' :: a :: b :: c :: d :: rest => do
      let piece ← hexPiece? a b c d
      let (pieces, after) ← readPieces rest
      some (piece :: pieces, after)
  | '\\' :: escape :: rest => do
      let character ← escaped? escape
      let (pieces, after) ← readPieces rest
      some (.character character :: pieces, after)
  | character :: rest =>
      if character.toNat < 0x20 || character == '\\' then none
      else do
        let (pieces, after) ← readPieces rest
        some (.character character :: pieces, after)

def characters? : List Piece → Option (List Char)
  | [] => some []
  | .character value :: rest => (characters? rest).map (value :: ·)
  | .high upper :: .low lower :: rest =>
      (characters? rest).map (Char.ofNat (0x10000 + upper * 0x400 + lower) :: ·)
  | _ => none

/-- A string after its opening quote. The text is missing when it has half a surrogate pair. -/
def readText (text : List Char) : Option (Option String × List Char) := do
  let (pieces, after) ← readPieces text
  some ((characters? pieces).map String.ofList, after)

/-! Numbers. -/

def isDigit (character : Char) : Bool :=
  '0' ≤ character && character ≤ '9'

def digitValue (digit : Char) : Nat :=
  digit.toNat - '0'.toNat

def gather (number : Nat) : List Char → Nat × Nat
  | [] => (number, 0)
  | digit :: rest =>
      if 18446744073709551615 < number * 10 + digitValue digit then (number, rest.length + 1)
      else gather (number * 10 + digitValue digit) rest

def digitsValue (digits : List Char) : Nat :=
  digits.foldl (fun number digit => number * 10 + digitValue digit) 0

structure NumberToken where
  negative : Bool
  whole : List Char
  fraction : Option (List Char)
  exponent : Option Int
  deriving DecidableEq, Repr

def ofDouble? : Option Double → Json
  | some value => float value
  | none => unreadable

/-- A token with neither point nor exponent is an integer if that fits in 64 bits, signed when
negative and unsigned otherwise. Negative zero is no integer. -/
def NumberToken.value (token : NumberToken) : Json :=
  let (leading, dropped) := gather 0 token.whole
  match token.fraction, token.exponent with
  | none, none =>
      if dropped = 0 && !token.negative then int leading
      else if dropped = 0 && leading ≠ 0 && leading ≤ 9223372036854775808 then int (-leading)
      else ofDouble? (Double.ofDecimal? token.negative leading dropped)
  | fraction, exponent =>
      let digits := fraction.getD []
      let (significand, unused) := gather leading digits
      let places : Int := (digits.length : Int) - unused
      ofDouble? (Double.ofDecimal? token.negative significand (dropped - places + exponent.getD 0))

def readSign : List Char → Bool × List Char
  | '-' :: rest => (true, rest)
  | text => (false, text)

def readWhole? (text : List Char) : Option (List Char × List Char) :=
  match text.span isDigit with
  | ([], _) => none
  | ('0' :: _ :: _, _) => none
  | found => some found

def readFraction? : List Char → Option (Option (List Char) × List Char)
  | '.' :: rest =>
      match rest.span isDigit with
      | ([], _) => none
      | (digits, after) => some (some digits, after)
  | text => some (none, text)

def readExponentDigits? (negative : Bool) (text : List Char) :
    Option (Option Int × List Char) :=
  match text.span isDigit with
  | ([], _) => none
  | (digits, after) =>
      let value : Int := digitsValue digits
      some (some (if negative then -value else value), after)

def readExponent? : List Char → Option (Option Int × List Char)
  | 'e' :: '+' :: rest => readExponentDigits? false rest
  | 'E' :: '+' :: rest => readExponentDigits? false rest
  | 'e' :: '-' :: rest => readExponentDigits? true rest
  | 'E' :: '-' :: rest => readExponentDigits? true rest
  | 'e' :: rest => readExponentDigits? false rest
  | 'E' :: rest => readExponentDigits? false rest
  | text => some (none, text)

def readNumber? (text : List Char) : Option (Json × List Char) := do
  let (negative, unsigned) := readSign text
  let (whole, afterWhole) ← readWhole? unsigned
  let (fraction, afterFraction) ← readFraction? afterWhole
  let (exponent, after) ← readExponent? afterFraction
  some (NumberToken.value { negative, whole, fraction, exponent }, after)

/-! Values. -/

def deepest : Nat :=
  127

def within (room : Nat) (json : Json) : Json :=
  if room = 0 then unreadable else json

/-- An object one of whose keys cannot be read cannot be read. -/
def ofReadFields (fields : List (Option String × Json)) : Json :=
  match fields.mapM fun field => field.1.map fun key => (key, field.2) with
  | some readable => object readable
  | none => unreadable

def ofReadText : Option String → Json
  | some text => string text
  | none => unreadable

mutual

/-- A value at the start of the text, and what follows it. Each call uses fuel, of which twice the
length of the text is enough; `room` says how much deeper arrays and objects may go. -/
def readValue : (fuel room : Nat) → List Char → Option (Json × List Char)
  | 0, _, _ => none
  | fuel + 1, room, text =>
      match text with
      | 'n' :: 'u' :: 'l' :: 'l' :: rest => some (null, rest)
      | 't' :: 'r' :: 'u' :: 'e' :: rest => some (bool true, rest)
      | 'f' :: 'a' :: 'l' :: 's' :: 'e' :: rest => some (bool false, rest)
      | '"' :: rest => (readText rest).map fun found => (ofReadText found.1, found.2)
      | '[' :: rest =>
          match skipSpace rest with
          | ']' :: after => some (within room (array []), after)
          | _ => (readItems fuel (room - 1) rest).map fun found =>
              (within room (array found.1), found.2)
      | '\x7b' :: rest =>
          match skipSpace rest with
          | '\x7d' :: after => some (within room (object []), after)
          | _ => (readFields fuel (room - 1) rest).map fun found =>
              (within room (ofReadFields found.1), found.2)
      | _ => readNumber? text

def readItems : (fuel room : Nat) → List Char → Option (List Json × List Char)
  | 0, _, _ => none
  | fuel + 1, room, text =>
      match readValue fuel room (skipSpace text) with
      | none => none
      | some (item, rest) =>
          match skipSpace rest with
          | ',' :: more => (readItems fuel room more).map fun found =>
              (item :: found.1, found.2)
          | ']' :: after => some ([item], after)
          | _ => none

def readFields : (fuel room : Nat) → List Char →
    Option (List (Option String × Json) × List Char)
  | 0, _, _ => none
  | fuel + 1, room, text =>
      match skipSpace text with
      | '"' :: keyText =>
          match readText keyText with
          | none => none
          | some (key, afterKey) =>
              match skipSpace afterKey with
              | ':' :: valueText =>
                  match readValue fuel room (skipSpace valueText) with
                  | none => none
                  | some (value, rest) =>
                      match skipSpace rest with
                      | ',' :: more => (readFields fuel room more).map fun found =>
                          ((key, value) :: found.1, found.2)
                      | '\x7d' :: after => some ([(key, value)], after)
                      | _ => none
              | _ => none
      | _ => none

end

def readChars? (text : List Char) : Option Json :=
  match readValue (2 * text.length + 2) deepest (skipSpace text) with
  | some (json, rest) => if skipSpace rest = [] then some json else none
  | none => none

def read? (text : String) : Option Json :=
  readChars? text.toList

def readFailure : String :=
  "the text is not the JSON that is wanted"

def readSettled? (text : String) : Option Json :=
  (read? text).bind settle?

end Chartbook.Json
