import Chartbook.CommandLine.Identifier
import Chartbook.CommandLine.Start

/-!
The program. It reads its settings, its arguments and what a command asks for, and prints what the
command prints. It has no network of its own: every exchange fails on the way.
-/

namespace Chartbook.CommandLine

def usage : String :=
  Text.joined "\n"
    ["Usage:",
      "  parse [INPUT]",
      "  layout [--lr] [INPUT]",
      "  fmt [--write] [INPUT]",
      "  diff OLD NEW",
      "  suggest [--remote] [--template ID] [--apply] INPUT MESSAGE",
      "  templates [ID]",
      "  docs list | show ID | delete ID"]

def faultOf (error : IO.Error) : FileFault :=
  match error with
  | .noFileOrDirectory .. => .missing
  | .noSuchThing .. => .missing
  | .inappropriateType _ code _ => if code = 20 then .notFolder else .isFolder
  | other => .other (toString other)

def guarded (action : IO α) : IO (Except FileFault α) := do
  match ← action.toBaseIO with
  | .ok value => return .ok value
  | .error error => return .error (faultOf error)

partial def readToEnd (stream : IO.FS.Stream) (bytes : ByteArray) : IO ByteArray := do
  let chunk ← stream.read 65536
  if chunk.isEmpty then return bytes
  readToEnd stream (bytes ++ chunk)

def answerQuery : (query : Query) → IO query.Reply
  | .standardInput => guarded do
      let bytes ← readToEnd (← IO.getStdin) ByteArray.empty
      return bytes.toList
  | .contents path => guarded do
      let bytes ← IO.FS.readBinFile path
      return bytes.toList
  | .replace path text => guarded (IO.FS.writeFile path text)
  | .print text => IO.print text
  | .exchange request =>
      return .error ("error sending request for url (" ++ request.url ++ ")")

def systemVariables : IO Environment := do
  let block ← guarded (IO.FS.readBinFile "/proc/self/environ")
  match block with
  | .ok bytes =>
      let texts := (bytes.toList.splitOn 0).filterMap Text.ofBytes?
      return Environment.ofList (texts.map Environment.variableOf)
  | .error _ => return fun _ => none

/-- The settings file of this folder or of the nearest folder above that has one. -/
def settingsFile : IO (List UInt8) := do
  let here ← IO.currentDir
  for height in List.range here.components.length do
    let path := String.join (List.replicate height "../") ++ ".env"
    match ← guarded (IO.FS.readBinFile path) with
    | .ok bytes => return bytes.toList
    | .error _ => continue
  return []

def perform (words : List String) : IO Ending := do
  let bits ← IO.rand 0 (Nat.pow 2 128 - 1)
  match start (← systemVariables) (← settingsFile) (identifier bits) words with
  | .error ending => return ending
  | .ok session => return Ending.ofResult (← session.run.hold answerQuery)

def complaint? : Ending → Option String
  | .done => none
  | .failed error => some error.report.describe
  | .misused => some usage
  | .unsettable fault => some fault.message

end Chartbook.CommandLine

open Chartbook.CommandLine in
def main (words : List String) : IO UInt32 := do
  let ending ← perform words
  match complaint? ending with
  | some complaint => IO.eprintln complaint
  | none => pure ()
  return ending.code.toUInt32
