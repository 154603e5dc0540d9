import Chartbook.Settings.Environment
import Chartbook.Text.Alphanumeric
import Chartbook.Text.Lines
import Chartbook.Text.Utf8

/-!
Settings files: on every line a variable and its value. Values may be quoted, also over several
lines, and may name variables. Reading ends at the first line that is malformed.
-/

namespace Chartbook.EnvFile

/-! Lines. A line goes on until its quotes are closed. -/

inductive Place where
  | bare
  | gap
  | escaped
  | quoted (mark : Char)
  | quotedEscaped (mark : Char)
  deriving DecidableEq, Repr

namespace Place

def isQuote (character : Char) : Bool :=
  character == '"' || character == '\''

def isGap (character : Char) : Bool :=
  Text.isBlank character && character != '\n' && character != '\r'

/-- The place after a character, or nothing where a comment begins. Two blanks in a row cancel each
other, so that a hash mark begins a comment after an odd number of blanks only. -/
def after? (place : Place) (character : Char) : Option Place :=
  match place with
  | bare =>
      if isGap character then some gap
      else if character = '\\' then some escaped
      else if isQuote character then some (quoted character)
      else some bare
  | gap =>
      if character = '#' then none
      else if character = '\\' then some escaped
      else if isQuote character then some (quoted character)
      else some bare
  | escaped => some bare
  | quoted mark =>
      if character = '\\' then some (quotedEscaped mark)
      else if character = mark then some bare
      else some (quoted mark)
  | quotedEscaped mark => some (quoted mark)

end Place

def scan (place : Place) : List Char → List Char × Option Place
  | [] => ([], some place)
  | character :: rest =>
      match place.after? character with
      | none => ([], none)
      | some next =>
          let (kept, final) := scan next rest
          (character :: kept, final)

def withLineFeeds : List (List Char) → List (List Char)
  | [] => []
  | [last] => if last = [] then [] else [last]
  | line :: next :: rest => (line ++ ['\n']) :: withLineFeeds (next :: rest)

/-- Joins lines while a quotation is open. A last line that is not complete is left out. -/
def completeLines (place : Place) (begun : List Char) : List (List Char) → List (List Char)
  | [] => []
  | line :: rest =>
      if (Text.trimStart (begun ++ line)).head? = some '#' then
        completeLines .bare [] rest
      else
        let (kept, final) := scan place line
        match final with
        | none | some .bare => (begun ++ kept) :: completeLines .bare [] rest
        | some next => completeLines next (begun ++ kept) rest

/-! Values. -/

inductive Reading where
  | plain
  | escaped
  | single
  | name (begun : List Char)
  | bracedName (begun : List Char)
  | ended
  deriving DecidableEq, Repr

/-- Whether a value may end here, outside double quotes, and what its end adds. -/
def Reading.finish? (lookup : List Char → List Char) : Reading → Option (List Char)
  | .single | .bracedName _ => none
  | .name begun => some (lookup begun)
  | .plain | .escaped | .ended => some []

def escapedCharacter? (character : Char) : Option Char :=
  if character = 'n' then some '\n'
  else if ['\\', '\'', '"', '$', ' '].contains character then some character
  else none

/-- Reads a value. A character that ends a name without braces stands for itself, whether or not it
would close a quotation. -/
def readValue? (lookup : List Char → List Char) (reading : Reading) (inDouble : Bool) :
    List Char → Option (List Char)
  | [] => if inDouble then none else reading.finish? lookup
  | character :: rest =>
      match reading with
      | .ended =>
          if character = ' ' || character = '\t' then readValue? lookup .ended inDouble rest
          else if character = '#' then some []
          else none
      | .escaped => do
          let meant ← escapedCharacter? character
          let value ← readValue? lookup .plain inDouble rest
          some (meant :: value)
      | .single =>
          if character = '\'' then readValue? lookup .plain inDouble rest
          else (readValue? lookup .single inDouble rest).map (character :: ·)
      | .name begun =>
          if Text.isAlphanumeric character then
            readValue? lookup (.name (begun ++ [character])) inDouble rest
          else if character = '\x7b' && begun.isEmpty then
            readValue? lookup (.bracedName []) inDouble rest
          else if character = '$' then
            (readValue? lookup (.name []) inDouble rest).map (lookup begun ++ ·)
          else
            (readValue? lookup .plain inDouble rest).map (lookup begun ++ character :: ·)
      | .bracedName begun =>
          if character = '\x7d' then
            (readValue? lookup .plain inDouble rest).map (lookup begun ++ ·)
          else
            readValue? lookup (.bracedName (begun ++ [character])) inDouble rest
      | .plain =>
          if character = '$' then readValue? lookup (.name []) inDouble rest
          else if character = '\\' then readValue? lookup .escaped inDouble rest
          else if character = '"' then readValue? lookup .plain (!inDouble) rest
          else if inDouble then (readValue? lookup .plain inDouble rest).map (character :: ·)
          else if character = '\'' then readValue? lookup .single inDouble rest
          else if character = ' ' || character = '\t' then readValue? lookup .ended inDouble rest
          else (readValue? lookup .plain inDouble rest).map (character :: ·)

/-! Assignments. -/

def isNameStart (character : Char) : Bool :=
  character.isAlpha || character == '_'

def isNamePart (character : Char) : Bool :=
  character.isAlphanum || character == '_' || character == '.'

def name? (line : List Char) : Option (List Char × List Char) :=
  match line with
  | first :: _ =>
      if isNameStart first then
        some (line.takeWhile isNamePart, Text.trimStart (line.dropWhile isNamePart))
      else
        none
  | [] => none

def equals? : List Char → Option (List Char)
  | '=' :: rest => some (Text.trimStart rest)
  | _ => none

def halves? (line : List Char) : Option (List Char × List Char) := do
  let (name, rest) ← name? line
  match equals? rest with
  | some value => some (name, value)
  | none =>
      if name = "export".toList then
        let (name, rest) ← name? rest
        let value ← equals? rest
        some (name, value)
      else
        none

def lookupIn (environment : Environment) (name : List Char) : List Char :=
  ((environment (String.ofList name)).getD "").toList

def assignment? (environment : Environment) (line : List Char) : Option (String × String) := do
  let (name, written) ← halves? line
  let value ←
    if written.head? = some '#' then some []
    else readValue? (lookupIn environment) .plain false written
  some (String.ofList name, String.ofList value)

inductive Fault where
  | zeroInValue (name : String)
  deriving DecidableEq, Repr

def Fault.message : Fault → String
  | zeroInValue name => "the value of " ++ name ++ " holds a zero character"

/-- A variable that is set already keeps its value. Any other takes it over, but no variable can
hold a zero character. -/
def setDefault (environment : Environment) (name value : String) : Except Fault Environment :=
  if (environment name).isSome then .ok environment
  else if value.toList.contains '\x00' then .error (.zeroInValue name)
  else .ok (environment.orElse (Environment.ofList [(name, value)]))

def setAll (environment : Environment) : List (List Char) → Except Fault Environment
  | [] => .ok environment
  | line :: rest =>
      let line := Text.trim line
      if line.isEmpty || line.head? = some '#' then
        setAll environment rest
      else
        match assignment? environment line with
        | some (name, value) => do
            let next ← setDefault environment name value
            setAll next rest
        | none => .ok environment

/-- The characters before the first fault, but then whole lines only. -/
def readable (characters : List (Option Char)) : List Char :=
  let good := (characters.takeWhile Option.isSome).filterMap id
  if good.length = characters.length then good
  else (good.reverse.dropWhile (· != '\n')).reverse

def withoutMark : List Char → List Char
  | '\uFEFF' :: rest => rest
  | characters => characters

def read (environment : Environment) (bytes : List UInt8) : Except Fault Environment :=
  let characters := withoutMark (readable (Text.decode bytes))
  setAll environment (completeLines .bare [] (withLineFeeds (Text.pieces characters)))

end Chartbook.EnvFile
