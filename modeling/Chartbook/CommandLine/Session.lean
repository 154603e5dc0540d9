import Chartbook.Dialogue
import Chartbook.Report
import Chartbook.Service.Http

/-!
What a command asks of the system it runs on, and how it fails.
-/

namespace Chartbook.CommandLine

inductive FileFault where
  | missing
  | isFolder
  | notFolder
  | notText
  | other (text : String)
  deriving DecidableEq, Repr

namespace FileFault

def text : FileFault → String
  | missing => "No such file or directory (os error 2)"
  | isFolder => "Is a directory (os error 21)"
  | notFolder => "Not a directory (os error 20)"
  | notText => "stream did not contain valid UTF-8"
  | other text => text

end FileFault

inductive Query where
  | standardInput
  | contents (path : String)
  | replace (path text : String)
  | print (text : String)
  | exchange (request : Http.Request)

namespace Query

def Reply : Query → Type
  | standardInput => Except FileFault (List UInt8)
  | contents _ => Except FileFault (List UInt8)
  | replace .. => Except FileFault Unit
  | print _ => Unit
  | exchange _ => Except String Http.Response

end Query

inductive CommandError where
  | read (path : String) (fault : FileFault)
  | write (path : String) (fault : FileFault)
  | chat (error : ChatError)
  | storage (error : StorageError)
  | unknownTemplate (id : String)
  | suggestion (reason : String)
  | noRoom (versions : Nat)
  deriving DecidableEq, Repr

namespace CommandError

def report : CommandError → Report
  | read path fault =>
      { code := "E_CLI_READ"
        message := "failed to read " ++ path ++ ": " ++ fault.text
        retryable := false }
  | write path fault =>
      { code := "E_CLI_WRITE"
        message := "failed to write " ++ path ++ ": " ++ fault.text
        retryable := false }
  | chat error => error.report
  | storage error => error.report
  | unknownTemplate id =>
      { code := "E_UNKNOWN_TEMPLATE"
        message := "unknown template \x60" ++ id ++ "\x60"
        retryable := false }
  | suggestion reason =>
      { code := "E_SUGGESTION_FAILED"
        message := "suggestion failed: " ++ reason
        retryable := false }
  | noRoom versions =>
      { code := "E_NO_ROOM"
        message := "no room for " ++ toString versions ++ " versions"
        retryable := false }

end CommandError

abbrev Session :=
  ExceptT CommandError (Dialogue Query Query.Reply)

namespace Session

def asking (query : Query) : Session query.Reply :=
  ExceptT.lift (Dialogue.asking query)

def print (text : String) : Session Unit :=
  asking (.print text)

def overHttp (dialogue : HttpDialogue α) : Session α :=
  ExceptT.lift (dialogue.through fun request => Dialogue.asking (.exchange request))

def ofResult (fail : ε → CommandError) : Except ε α → Session α
  | .ok value => pure value
  | .error error => throw (fail error)

end Session

end Chartbook.CommandLine
