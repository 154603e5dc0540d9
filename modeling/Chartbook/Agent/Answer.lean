import Chartbook.Json.Reader
import Chartbook.Json.Record
import Chartbook.Text.Blank
import Chartbook.Text.Search

/-!
The JSON answer in the model's last words.
-/

namespace Chartbook.Agent

structure Answer where
  markdown : Option String
  summary : Option String
  deriving DecidableEq, Repr

namespace Answer

def fieldNames : List FieldName :=
  [Record.plain "markdown", Record.plain "summary"]

def ofRecord? (record : Record) : Option Answer := do
  let markdown ← record.optional? "markdown" Json.string?
  let summary ← record.optional? "summary" Json.string?
  some { markdown, summary }

def ofJson? (json : Json) : Option Answer :=
  (Record.read? fieldNames 0 json).bind ofRecord?

def read? (text : List Char) : Option Answer :=
  (Json.readChars? text).bind ofJson?

def codeFence : List Char :=
  ['\x60', '\x60', '\x60']

def insideFence? (text : List Char) : Option (List Char) := do
  let opened ← Text.after? codeFence text
  let (_, body) ← Text.cut? ['\n'] opened
  let inside ← Text.before? codeFence (Text.trimEnd body)
  some (Text.trim inside)

def betweenBraces? (text : List Char) : Option (List Char) :=
  let opened := text.dropWhile (· != '\x7b')
  let closed := (opened.reverse.dropWhile (· != '\x7d')).reverse
  if closed = [] then none else some closed

/-- The answer is the whole text, or stands in a code fence, or stands amid prose. The first of these
that can be read counts. -/
def extract? (words : String) : Option Answer :=
  let text := Text.trim words.toList
  (read? text).or (((insideFence? text).bind read?).or ((betweenBraces? text).bind read?))

end Answer

end Chartbook.Agent
