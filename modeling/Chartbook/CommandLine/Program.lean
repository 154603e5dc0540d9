import Chartbook.Agent.Run
import Chartbook.Chat.Completions
import Chartbook.CommandLine.Invocation
import Chartbook.CommandLine.Session
import Chartbook.FlowText.Splice
import Chartbook.Json.Printer
import Chartbook.Service.Backend
import Chartbook.Settings.App
import Chartbook.Text.Utf8
import Chartbook.Workspace.Basic

/-!
The commands.
-/

namespace Chartbook.CommandLine

/-- Where a command runs. The id is used for a suggestion that comes without one. -/
structure Surroundings where
  environment : Environment
  freshId : String

def printJson (json : Json) : Session Unit :=
  Session.print (json.pretty ++ "\n")

def bytesOf (path : String) : Session (List UInt8) := do
  let reply ←
    if path = standardInput then Session.asking .standardInput
    else Session.asking (.contents path)
  Session.ofResult (CommandError.read path) reply

def textOf (path : String) : Session String := do
  let bytes ← bytesOf path
  match Text.ofBytes? bytes with
  | some text => pure text
  | none => throw (CommandError.read path .notText)

def replaceText (path text : String) : Session Unit := do
  let reply ← Session.asking (.replace path text)
  Session.ofResult (CommandError.write path) reply

def coordinateJson (coordinate : Nat) : Json :=
  .float ((Double.ofNat? coordinate).getD (Double.zero false))

def parse (input : String) : Session Unit := do
  let text ← textOf input
  printJson (Graph.ofText text).toJson

def layout (input : String) (direction : Direction) : Session Unit := do
  let text ← textOf input
  printJson (((Graph.ofText text).draw direction).toJson coordinateJson)

def format (input : String) (inPlace : Bool) : Session Unit := do
  let text ← textOf input
  let formatted := FlowText.splice text (Graph.ofText text)
  if inPlace && input != standardInput then replaceText input formatted
  else Session.print formatted

def compare (previous next : String) : Session Unit := do
  let previous ← textOf previous
  let next ← textOf next
  printJson ((Graph.ofText previous).impact (Graph.ofText next)).toJson

/-! Suggestions. -/

abbrev Suggester :=
  SuggestionRequest → HttpDialogue (Except SuggestError Suggestion)

def suggester (surroundings : Surroundings) (settings : AppSettings) (remote : Bool) :
    Except ChatError Suggester :=
  if remote then
    .ok ((Backend.ofSettings settings).suggest surroundings.freshId)
  else
    (ChatSettings.read surroundings.environment).map fun chat request =>
      Chat.overHttp chat (Agent.suggest settings.agent surroundings.freshId request)

/-- The workspace of a command ends with it, so that nobody sees its times and ids. -/
def moment : Moment :=
  { clock := 0, stamp := "", versionId := toString, entryId := toString, documentId := "" }

def emptyWorkspace (settings : AppSettings) : Except CommandError Workspace :=
  if History.fits settings.historyCap then
    .ok (Workspace.make settings.highlightMilliseconds settings.historyCap)
  else
    .error (.noRoom settings.historyCap)

def workspaceFor (settings : AppSettings) (template : Option String) (text : String) :
    Except CommandError Workspace := do
  let workspace ← emptyWorkspace settings
  match template with
  | none => .ok (workspace.setText moment text .user).2
  | some id =>
      match workspace.applyTemplate moment id with
      | (true, opened) => .ok (opened.setText moment text .user).2
      | (false, _) => .error (.unknownTemplate id)

def reason (workspace : Workspace) : String :=
  ((workspace.chat.reverse.find? (·.role == .error)).map (·.text)).getD "empty message"

def request (suggester : Suggester) (workspace : Workspace) (message : String) :
    Session Workspace := do
  let answer ←
    match workspace.requestFor? message with
    | some request => Session.overHttp (suggester request)
    | none => pure (.error .emptyMessage)
  match workspace.request moment message answer with
  | (true, answered) => pure answered
  | (false, refused) => throw (CommandError.suggestion (reason refused))

def suggest (surroundings : Surroundings) (arguments : SuggestArguments) : Session Unit := do
  let settings := AppSettings.read surroundings.environment
  let text ← textOf arguments.input
  let suggester ← Session.ofResult .chat (suggester surroundings settings arguments.remote)
  let workspace ← Session.ofResult id (workspaceFor settings arguments.template text)
  let answered ← request suggester workspace arguments.message
  match answered.pending with
  | some suggestion => printJson suggestion.toJson
  | none => pure ()
  if arguments.apply && arguments.input != standardInput then
    match answered.applySuggestion moment with
    | (some _, applied) => replaceText arguments.input applied.text
    | (none, _) => pure ()

/-! Templates and documents. -/

def templateSummary (template : Template) : Json :=
  .object [("id", .string template.id), ("name", .string template.name),
    ("description", .string template.description)]

def showTemplate (id : String) : Session Unit :=
  match Template.find? id with
  | some template => Session.print template.text
  | none => throw (CommandError.unknownTemplate id)

def backendOf (surroundings : Surroundings) : Backend :=
  Backend.ofSettings (AppSettings.read surroundings.environment)

def listDocuments (backend : Backend) : Session Unit := do
  let listed ← Session.overHttp backend.listDocuments
  let documents ← Session.ofResult .storage listed
  printJson (.list DocumentSummary.toJson documents)

def showDocument (backend : Backend) (id : String) : Session Unit := do
  let loaded ← Session.overHttp (backend.loadDocument id)
  let document ← Session.ofResult .storage loaded
  Session.print document.text

def deleteDocument (backend : Backend) (id : String) : Session Unit := do
  let deleted ← Session.overHttp (backend.deleteDocument id)
  Session.ofResult .storage deleted
  Session.print ("deleted " ++ id ++ "\n")

def run (surroundings : Surroundings) : Invocation → Session Unit
  | .parse input => parse input
  | .layout input direction => layout input direction
  | .format input inPlace => format input inPlace
  | .compare previous next => compare previous next
  | .suggest arguments => suggest surroundings arguments
  | .listTemplates => printJson (.list templateSummary Template.all)
  | .showTemplate id => showTemplate id
  | .listDocuments => listDocuments (backendOf surroundings)
  | .showDocument id => showDocument (backendOf surroundings) id
  | .deleteDocument id => deleteDocument (backendOf surroundings) id

end Chartbook.CommandLine
