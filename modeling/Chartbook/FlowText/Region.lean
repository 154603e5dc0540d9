import Chartbook.Text.Blank
import Chartbook.Text.Lines
import Chartbook.Text.Search

/-!
Flow regions: the fenced passages of a Markdown document that hold statements.
-/

namespace Chartbook.FlowText

def fence : List Char :=
  ['\x60', '\x60', '\x60']

def flowFence : List Char :=
  fence ++ ['f', 'l', 'o', 'w']

def opens (line : List Char) : Bool :=
  Text.trim line == flowFence

def closes (line : List Char) : Bool :=
  (Text.after? fence (Text.trim line)).isSome

/-- A document is prose lines and regions. A region that is never closed runs to the end. -/
inductive Part where
  | prose (line : List Char)
  | region (opening : List Char) (body : List (List Char)) (closing : List Char)
  | unfinished (opening : List Char) (body : List (List Char))
  deriving DecidableEq, Repr

namespace Part

def isProse : Part → Bool
  | prose _ => true
  | _ => false

def isRegion : Part → Bool
  | region .. => true
  | _ => false

def body : Part → List (List Char)
  | region _ body _ => body
  | _ => []

def lines : Part → List (List Char)
  | prose line => [line]
  | region opening body closing => opening :: body ++ [closing]
  | unfinished opening body => opening :: body

end Part

def partsFrom : Option (List Char × List (List Char)) → List (List Char) → List Part
  | none, [] => []
  | some (opening, body), [] => [.unfinished opening body]
  | none, line :: rest =>
      if opens line then partsFrom (some (line, [])) rest
      else .prose line :: partsFrom none rest
  | some (opening, body), line :: rest =>
      if closes line then .region opening body line :: partsFrom none rest
      else partsFrom (some (opening, body ++ [line])) rest

def parts (document : List (List Char)) : List Part :=
  partsFrom none document

/-- The lines that hold the chart: the bodies of the closed regions. A document that opens no region
is all chart. -/
def chartLines (document : List (List Char)) : List (List Char) :=
  if (parts document).all Part.isProse then document
  else (parts document).flatMap Part.body

end Chartbook.FlowText
