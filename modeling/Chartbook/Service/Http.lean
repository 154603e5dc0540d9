import Chartbook.Dialogue
import Chartbook.Json.Basic

/-!
Requests and responses of a web service, and dialogues made of exchanges.
-/

namespace Chartbook

namespace Http

inductive Method where
  | get
  | post
  | delete
  deriving DecidableEq, Repr

structure Request where
  method : Method
  url : String
  headers : List (String × String)
  body : Option Json

structure Response where
  status : Nat
  body : String
  deriving DecidableEq, Repr

end Http

/-- An exchange that fails on the way comes back as a text. -/
abbrev HttpDialogue (α : Type) :=
  Dialogue Http.Request (fun _ => Except String Http.Response) α

namespace Http

def jsonHeaders : Option Json → List (String × String)
  | some _ => [("content-type", "application/json")]
  | none => []

def bearer (token : String) : String × String :=
  ("authorization", "Bearer " ++ token)

end Http

end Chartbook
