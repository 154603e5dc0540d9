import Chartbook.Chat.Message
import Chartbook.Dialogue
import Chartbook.Report

/-!
Calls of a language model, and dialogues made of such calls.
-/

namespace Chartbook

structure ChatCall where
  maxTokens : Nat
  system : String
  messages : List Message
  tools : List Tool

abbrev ChatDialogue (α : Type) :=
  Dialogue ChatCall (fun _ => Except ChatError ChatReply) α

structure ChatScript where
  replies : List (Except ChatError ChatReply)
  calls : List ChatCall

namespace ChatScript

def answer (script : ChatScript) (call : ChatCall) : Except ChatError ChatReply × ChatScript :=
  match script.replies with
  | reply :: rest => (reply, { replies := rest, calls := script.calls ++ [call] })
  | [] => (.error (.request "script exhausted"),
      { replies := [], calls := script.calls ++ [call] })

end ChatScript

end Chartbook
