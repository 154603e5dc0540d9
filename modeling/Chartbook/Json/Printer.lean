import Chartbook.Json.Basic
import Chartbook.Json.Shortest
import Chartbook.Text.Lines

/-!
Writing JSON text, on one line or indented by two spaces.
-/

namespace Chartbook.Json

def hexText (digit : Nat) : Char :=
  if digit < 10 then Char.ofNat ('0'.toNat + digit) else Char.ofNat ('a'.toNat + digit - 10)

/-- Quotes, backslashes and control characters are escaped, and nothing else. -/
def escapeCharacter (character : Char) : List Char :=
  match character with
  | '"' => ['\\', '"']
  | '\\' => ['\\', '\\']
  | '\x08' => ['\\', 'b']
  | '\x0c' => ['\\', 'f']
  | '\n' => ['\\', 'n']
  | '\r' => ['\\', 'r']
  | '\t' => ['\\', 't']
  | _ =>
      if character.toNat < 0x20 then
        ['\\', 'u', '0', '0', hexText (character.toNat / 16), hexText (character.toNat % 16)]
      else
        [character]

def quote (text : String) : String :=
  String.ofList ('"' :: text.toList.flatMap escapeCharacter ++ ['"'])

mutual

def compact : Json → String
  | null => "null"
  | bool value => if value then "true" else "false"
  | int value => toString value
  | float value => value.toText
  | string text => quote text
  | array items => "[" ++ Text.joined "," (compactItems items) ++ "]"
  | object fields => "\x7b" ++ Text.joined "," (compactFields fields) ++ "\x7d"
  | unreadable => "null"

def compactItems : List Json → List String
  | [] => []
  | item :: rest => compact item :: compactItems rest

def compactFields : List (String × Json) → List String
  | [] => []
  | (key, value) :: rest => (quote key ++ ":" ++ compact value) :: compactFields rest

end

def indentation (depth : Nat) : String :=
  String.ofList (List.replicate (2 * depth) ' ')

def bracketed (depth : Nat) (opening closing : String) (items : List String) : String :=
  if items.isEmpty then
    opening ++ closing
  else
    opening ++ "\n" ++ Text.joined ",\n" (items.map (indentation (depth + 1) ++ ·)) ++ "\n"
      ++ indentation depth ++ closing

mutual

def prettyAt (depth : Nat) : Json → String
  | array items => bracketed depth "[" "]" (prettyItems (depth + 1) items)
  | object fields => bracketed depth "\x7b" "\x7d" (prettyFields (depth + 1) fields)
  | null => "null"
  | bool value => if value then "true" else "false"
  | int value => toString value
  | float value => value.toText
  | string text => quote text
  | unreadable => "null"

def prettyItems (depth : Nat) : List Json → List String
  | [] => []
  | item :: rest => prettyAt depth item :: prettyItems depth rest

def prettyFields (depth : Nat) : List (String × Json) → List String
  | [] => []
  | (key, value) :: rest => (quote key ++ ": " ++ prettyAt depth value) :: prettyFields depth rest

end

def pretty (json : Json) : String :=
  prettyAt 0 json

end Chartbook.Json
