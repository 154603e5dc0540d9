/-!
Cutting a text at a mark.
-/

namespace Chartbook.Text

def after? (mark : List Char) (text : List Char) : Option (List Char) :=
  mark.isPrefixOf? text

/-- What comes before and after the first occurrence of `mark`. -/
def cut? (mark : List Char) : List Char → Option (List Char × List Char)
  | [] => if mark = [] then some ([], []) else none
  | character :: rest =>
      match after? mark (character :: rest) with
      | some tail => some ([], tail)
      | none => (cut? mark rest).map fun found => (character :: found.1, found.2)

def before? (mark : List Char) (text : List Char) : Option (List Char) :=
  (after? mark.reverse text.reverse).map List.reverse

end Chartbook.Text
