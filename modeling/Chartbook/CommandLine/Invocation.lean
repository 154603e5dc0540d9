import Chartbook.CommandLine.Arguments
import Chartbook.Layout.Coordinates

/-!
What the program can be told to do, and how the words of a command line say it.
-/

namespace Chartbook.CommandLine

structure SuggestArguments where
  input : String
  message : String
  remote : Bool
  template : Option String
  apply : Bool
  deriving DecidableEq, Repr

inductive Invocation where
  | parse (input : String)
  | layout (input : String) (direction : Direction)
  | format (input : String) (inPlace : Bool)
  | compare (previous next : String)
  | suggest (arguments : SuggestArguments)
  | listTemplates
  | showTemplate (id : String)
  | listDocuments
  | showDocument (id : String)
  | deleteDocument (id : String)
  deriving DecidableEq, Repr

def standardInput : String :=
  "-"

namespace Invocation

def operandsOnly (fewest most : Nat) : Shape :=
  { flags := [], options := [], fewestOperands := fewest, mostOperands := most }

def inputOf (arguments : Arguments) : String :=
  (arguments.operand? 0).getD standardInput

def readParse? (words : List String) : Option Invocation :=
  (Arguments.read? (operandsOnly 0 1) words).map fun arguments => parse (inputOf arguments)

def readLayout? (words : List String) : Option Invocation :=
  (Arguments.read? { operandsOnly 0 1 with flags := ["--lr"] } words).map fun arguments =>
    layout (inputOf arguments)
      (if arguments.hasFlag "--lr" then .leftToRight else .topToBottom)

def readFormat? (words : List String) : Option Invocation :=
  (Arguments.read? { operandsOnly 0 1 with flags := ["--write"] } words).map fun arguments =>
    format (inputOf arguments) (arguments.hasFlag "--write")

/-- An empty path is no operand of a comparison. -/
def readCompare? (words : List String) : Option Invocation := do
  let arguments ← Arguments.read? (operandsOnly 2 2) words
  let previous ← arguments.operand? 0
  let next ← arguments.operand? 1
  if previous = "" || next = "" then none else some (compare previous next)

def suggestShape : Shape :=
  { operandsOnly 2 2 with flags := ["--remote", "--apply"], options := ["--template"] }

def readSuggest? (words : List String) : Option Invocation := do
  let arguments ← Arguments.read? suggestShape words
  let input ← arguments.operand? 0
  let message ← arguments.operand? 1
  some (suggest
    { input, message
      remote := arguments.hasFlag "--remote"
      template := arguments.option? "--template"
      apply := arguments.hasFlag "--apply" })

def readTemplates? (words : List String) : Option Invocation :=
  (Arguments.read? (operandsOnly 0 1) words).map fun arguments =>
    match arguments.operand? 0 with
    | some id => showTemplate id
    | none => listTemplates

def readDocuments? : List String → Option Invocation
  | "list" :: words => (Arguments.read? (operandsOnly 0 0) words).map fun _ => listDocuments
  | "show" :: words =>
      ((Arguments.read? (operandsOnly 1 1) words).bind (·.operand? 0)).map showDocument
  | "delete" :: words =>
      ((Arguments.read? (operandsOnly 1 1) words).bind (·.operand? 0)).map deleteDocument
  | _ => none

def ofWords? : List String → Option Invocation
  | "parse" :: words => readParse? words
  | "layout" :: words => readLayout? words
  | "fmt" :: words => readFormat? words
  | "diff" :: words => readCompare? words
  | "suggest" :: words => readSuggest? words
  | "templates" :: words => readTemplates? words
  | "docs" :: words => readDocuments? words
  | _ => none

end Invocation

end Chartbook.CommandLine
