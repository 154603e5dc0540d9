import Chartbook.FlowText.Reference

/-!
Statements: one line declares a node or connects two.
-/

namespace Chartbook.FlowText

inductive Statement where
  | edge (source target : String) (label : Option String)
  | node (node : Node)
  deriving DecidableEq, Repr

namespace Statement

def arrow : List Char :=
  ['-', '>']

def readLabel? : List Char → Option (Option String)
  | [] => some none
  | ':' :: text =>
      if Text.trim text = [] then some none else some (some (String.ofList (Text.trim text)))
  | _ => none

/-- Two references around the first arrow. Their marks say nothing about the shapes of the nodes. -/
def readEdge? (line : List Char) : Option Statement := do
  let (left, right) ← Text.cut? arrow line
  let source ← Reference.read? (Text.trim left)
  if Text.trim source.rest = [] then
    let target ← Reference.read? (Text.trim right)
    let label ← readLabel? (Text.trim target.rest)
    some (.edge (String.ofList source.id) (String.ofList target.id) label)
  else
    none

/-- A reference, alone or followed by white space and a label. Without a label the id stands in. -/
def readNode? (line : List Char) : Option Statement := do
  let found ← Reference.read? line
  if (found.rest.head?.all Text.isBlank) then
    let label := if Text.trim found.rest = [] then found.id else Text.trim found.rest
    some (.node { id := String.ofList found.id, label := String.ofList label, kind := found.kind })
  else
    none

def read? (line : List Char) : Option Statement :=
  match readEdge? (Text.trim line) with
  | some statement => some statement
  | none => readNode? (Text.trim line)

end Statement

end Chartbook.FlowText
