import Chartbook.FlowText.Writer

/-!
Putting a chart into a document in place of the chart that is there, and keeping the prose.
-/

namespace Chartbook.FlowText

/-- The block takes the place of the first region; later regions go, since reading would merge them.
An unfinished region stays as it is. -/
def fillRegions (block : List Char) : Bool → List Part → List (List Char)
  | _, [] => []
  | filled, .prose line :: rest => line :: fillRegions block filled rest
  | filled, .unfinished opening body :: rest => opening :: body ++ fillRegions block filled rest
  | false, .region .. :: rest => block :: fillRegions block true rest
  | true, .region .. :: rest => fillRegions block true rest

def fillUnfinished (block : List Char) : List Part → List (List Char)
  | [] => []
  | .prose line :: rest => line :: fillUnfinished block rest
  | .region opening body closing :: rest =>
      opening :: body ++ closing :: fillUnfinished block rest
  | .unfinished .. :: rest => block :: fillUnfinished block rest

/-- A document without regions is all chart: its statements go, and the block follows what is left
after a blank line. -/
def appendBlock (block : List Char) (document : List (List Char)) : List Char :=
  let prose := document.filter fun line => (Statement.read? line).isNone
  let text := Text.trimEnd (Text.unlines prose)
  (if text = [] then block else text ++ ['\n', '\n'] ++ block) ++ ['\n']

def closingFeed (text : List Char) : List Char :=
  if text.getLast? = some '\n' then ['\n'] else []

def spliceText (text : List Char) (block : List Char) : List Char :=
  let document := Text.lines text
  let found := parts document
  if found.any Part.isRegion then
    Text.unlines (fillRegions block false found) ++ closingFeed text
  else if found.all Part.isProse then
    appendBlock block document
  else
    Text.unlines (fillUnfinished block found) ++ closingFeed text

def splice (document : String) (graph : Graph) : String :=
  String.ofList (spliceText document.toList (block graph))

end Chartbook.FlowText
