import Chartbook.CommandLine.Program
import Chartbook.Settings.EnvFile

/-!
How the program starts and how it ends. The settings file is taken over first, then the words of the
command line are read, and then the command runs.
-/

namespace Chartbook.CommandLine

inductive Ending where
  | done
  | failed (error : CommandError)
  | misused
  | unsettable (fault : EnvFile.Fault)
  deriving DecidableEq, Repr

namespace Ending

/-- What the program tells the system at its end. A number of its own says that the system could not
give what the program needs. -/
def code : Ending → Nat
  | done => 0
  | failed (.noRoom _) => 101
  | failed _ => 1
  | misused => 2
  | unsettable _ => 101

def ofResult : Except CommandError Unit → Ending
  | .ok _ => done
  | .error error => failed error

end Ending

def start (environment : Environment) (settingsFile : List UInt8) (freshId : String)
    (words : List String) : Except Ending (Session Unit) := do
  let environment ← (EnvFile.read environment settingsFile).mapError .unsettable
  match Invocation.ofWords? words with
  | some invocation => .ok (run { environment, freshId } invocation)
  | none => .error .misused

end Chartbook.CommandLine
