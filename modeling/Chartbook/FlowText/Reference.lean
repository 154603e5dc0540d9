import Chartbook.Graph.Basic
import Chartbook.Text.Blank
import Chartbook.Text.Search

/-!
References: a node id between the marks of one of the four shapes.
-/

namespace Chartbook.FlowText

structure Reference where
  kind : NodeKind
  id : List Char
  rest : List Char
  deriving DecidableEq, Repr

namespace Reference

def readAs? (text : List Char) (kind : NodeKind) : Option Reference := do
  let body ← Text.after? kind.marks.1 text
  let (inside, rest) ← Text.cut? kind.marks.2 body
  if Text.trim inside = [] then none else some { kind, id := Text.trim inside, rest }

def read? (text : List Char) : Option Reference :=
  [NodeKind.entry, .exit, .decision, .plain].findSome? (readAs? text)

def write (kind : NodeKind) (id : List Char) : List Char :=
  kind.marks.1 ++ id ++ kind.marks.2

def holds (id : List Char) (kind : NodeKind) : Bool :=
  match read? (write kind id) with
  | some found => found.id == id && found.rest.isEmpty
  | none => false

/-- The shape of marks that an edge uses for `id`: the first one that holds it, and square brackets
when none does. -/
def shapeFor (id : List Char) : NodeKind :=
  ([NodeKind.plain, .decision, .entry, .exit].find? (holds id)).getD .plain

end Reference

end Chartbook.FlowText
