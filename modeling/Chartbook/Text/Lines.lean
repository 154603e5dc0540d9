/-!
The lines of a text. A line feed ends a line, and takes one carriage return before it along;
a carriage return elsewhere is an ordinary character.
-/

namespace Chartbook.Text

/-- The pieces between line feeds; the last piece is not ended by one. -/
def pieces : List Char → List (List Char)
  | [] => [[]]
  | character :: rest =>
      if character = '\n' then
        [] :: pieces rest
      else
        match pieces rest with
        | [] => [[character]]
        | first :: later => (character :: first) :: later

def dropReturn (line : List Char) : List Char :=
  if line.getLast? = some '\r' then line.dropLast else line

/-- Every piece but the last is a whole line. The last one counts when it is not empty. -/
def ended : List (List Char) → List (List Char)
  | [] => []
  | [last] => if last = [] then [] else [last]
  | line :: next :: rest => dropReturn line :: ended (next :: rest)

def lines (text : List Char) : List (List Char) :=
  ended (pieces text)

def join (separator : List Char) : List (List Char) → List Char
  | [] => []
  | [last] => last
  | line :: next :: rest => line ++ separator ++ join separator (next :: rest)

def unlines (all : List (List Char)) : List Char :=
  join ['\n'] all

def joined (separator : String) (texts : List String) : String :=
  String.ofList (join separator.toList (texts.map String.toList))

end Chartbook.Text
