import Chartbook.Document.Basic
import Chartbook.FlowText.Splice
import Chartbook.Layout.Drawing
import Chartbook.Report
import Chartbook.Suggestion.Basic
import Chartbook.Workspace.ChatLog
import Chartbook.Workspace.History
import Chartbook.Workspace.Notice
import Chartbook.Workspace.Template

/-!
A workspace: one open document with its chart, drawing, chat, pending suggestion and history. The
text is what counts. Everything that writes it goes through `setText`, which derives the chart and
the drawing anew.
-/

namespace Chartbook

/-- What the world supplies to one operation: the clock in milliseconds, the time as a text, and ids
that nobody has used. -/
structure Moment where
  clock : Nat
  stamp : String
  versionId : Nat → String
  entryId : Nat → String
  documentId : String

inductive WorkspaceEvent where
  | textChanged (source : ChangeSource) (changes : ChangeSet)
  | statusChanged (status : AgentStatus)
  | suggestionPending (suggestion : Suggestion)
  | suggestionCleared
  | versionAdded (entry : VersionEntry)
  | documentsChanged
  | documentOpened (documentId : Option String)
  | savingChanged (saving : Bool)
  | connectionChanged (connected : Bool)

structure Highlight where
  changes : ChangeSet
  expiresAt : Nat
  deriving DecidableEq, Repr

/-- The events are those since the workspace was made or the events were last taken, oldest first. -/
structure Workspace where
  highlightFor : Nat
  documentId : Option String
  title : String
  tags : List String
  metadata : Json.Fields
  text : String
  savedText : String
  graph : Graph
  drawing : Drawing Nat
  direction : Direction
  highlight : Option Highlight
  selection : Selection
  status : AgentStatus
  chat : List ChatEntry
  pending : Option Suggestion
  history : History
  documents : List DocumentSummary
  isSaving : Bool
  isConnected : Bool
  events : List WorkspaceEvent

namespace Workspace

def make (highlightFor historyCap : Nat) : Workspace :=
  { highlightFor
    documentId := none
    title := ""
    tags := []
    metadata := []
    text := ""
    savedText := ""
    graph := Graph.empty
    drawing := Graph.empty.draw .topToBottom
    direction := .topToBottom
    highlight := none
    selection := Selection.none
    status := .idle
    chat := []
    pending := none
    history := History.withCap historyCap
    documents := []
    isSaving := false
    isConnected := false
    events := [] }

def emit (workspace : Workspace) (event : WorkspaceEvent) : Workspace :=
  { workspace with events := workspace.events ++ [event] }

def isDirty (workspace : Workspace) : Bool :=
  workspace.text != workspace.savedText

def highlighted? (workspace : Workspace) (clock : Nat) : Option ChangeSet :=
  (workspace.highlight.filter fun highlight => clock < highlight.expiresAt).map (·.changes)

/-! Text. -/

def setText (workspace : Workspace) (moment : Moment) (text : String) (source : ChangeSource) :
    ChangeSet × Workspace :=
  let next := Graph.ofText text
  let changes := workspace.graph.changes next source
  let written := { workspace with
    text
    graph := next
    drawing := next.draw workspace.direction
    highlight := some { changes, expiresAt := moment.clock + workspace.highlightFor } }
  (changes, written.emit (.textChanged source changes))

def canvasEdit (workspace : Workspace) (moment : Moment) (graph : Graph) :
    ChangeSet × Workspace :=
  workspace.setText moment (FlowText.splice workspace.text graph.withoutDangling) .user

def clearExpiredHighlight (workspace : Workspace) (moment : Moment) : Bool × Workspace :=
  match workspace.highlight with
  | some highlight =>
      if highlight.expiresAt ≤ moment.clock then (true, { workspace with highlight := none })
      else (false, workspace)
  | none => (false, workspace)

def setDirection (workspace : Workspace) (direction : Direction) : Workspace :=
  if workspace.direction = direction then workspace
  else { workspace with direction, drawing := workspace.graph.draw direction }

def select (workspace : Workspace) (selection : Selection) : Workspace :=
  { workspace with selection }

def setTitle (workspace : Workspace) (title : String) : Workspace :=
  { workspace with title }

def setTags (workspace : Workspace) (tags : List String) : Workspace :=
  { workspace with tags }

/-! Flags that are reported when they change. -/

def setStatus (workspace : Workspace) (status : AgentStatus) : Workspace :=
  if workspace.status = status then workspace
  else { workspace with status }.emit (.statusChanged status)

def setSaving (workspace : Workspace) (saving : Bool) : Workspace :=
  if workspace.isSaving = saving then workspace
  else { workspace with isSaving := saving }.emit (.savingChanged saving)

def setConnected (workspace : Workspace) (connected : Bool) : Workspace :=
  if workspace.isConnected = connected then workspace
  else { workspace with isConnected := connected }.emit (.connectionChanged connected)

def dropPending (workspace : Workspace) : Workspace :=
  match workspace.pending with
  | some _ => { workspace with pending := none }.emit .suggestionCleared
  | none => workspace

/-! Versions. -/

/-- Records the text in the history, under the `index`-th version id of the moment. -/
def snapshot (workspace : Workspace) (moment : Moment) (index : Nat) (label : String) :
    VersionEntry × Workspace :=
  let entry := VersionEntry.take (moment.versionId index) label moment.stamp workspace.text
  (entry, { workspace with history := workspace.history.push entry }.emit (.versionAdded entry))

def restore (workspace : Workspace) (moment : Moment) (id : String) :
    Option ChangeSet × Workspace :=
  match workspace.history.find? id with
  | some entry =>
      let (changes, written) :=
        (workspace.snapshot moment 0 "before restore").2.setText moment entry.text .user
      (some changes, written)
  | none => (none, workspace)

/-! Suggestions. -/

def requestFor? (workspace : Workspace) (message : String) : Option SuggestionRequest :=
  (Text.nonBlank? message).map fun words =>
    { documentId := workspace.documentId
      message := words
      context := SuggestionContext.build workspace.text workspace.selection workspace.metadata }

def say (workspace : Workspace) (entry : ChatEntry) : Workspace :=
  { workspace with chat := workspace.chat ++ [entry] }

def weigh (workspace : Workspace) (suggestion : Suggestion) : Suggestion :=
  match suggestion.proposedText with
  | some text => { suggestion with impact := workspace.graph.impact (Graph.ofText text) }
  | none => suggestion

def receive (workspace : Workspace) (moment : Moment) :
    Except SuggestError Suggestion → Bool × Workspace
  | .ok suggestion =>
      let weighed := workspace.weigh suggestion
      let entry : ChatEntry :=
        { id := moment.entryId 1, role := .agent, text := weighed.summary
          suggestionId := some weighed.id, timestamp := moment.stamp }
      let pending := { workspace.say entry with pending := some weighed }
      (true, (pending.emit (.suggestionPending weighed)).setStatus .idle)
  | .error error =>
      let entry : ChatEntry :=
        { id := moment.entryId 1, role := .error, text := error.report.describe
          suggestionId := none, timestamp := moment.stamp }
      (false, (workspace.say entry).setStatus .error)

/-- Asks for a suggestion and receives the answer. A blank message is passed over; an error keeps an
earlier suggestion pending. -/
def request (workspace : Workspace) (moment : Moment) (message : String)
    (answer : Except SuggestError Suggestion) : Bool × Workspace :=
  match Text.nonBlank? message with
  | some words =>
      let entry : ChatEntry :=
        { id := moment.entryId 0, role := .user, text := words, suggestionId := none
          timestamp := moment.stamp }
      ((workspace.say entry).setStatus .thinking).receive moment answer
  | none => (false, workspace)

def versionLabel (summary : String) : String :=
  match Text.nonBlank? summary with
  | some label =>
      if label.length ≤ 40 then label else String.ofList (label.toList.take 40) ++ "…"
  | none => "AI change"

def applySuggestion (workspace : Workspace) (moment : Moment) : Option ChangeSet × Workspace :=
  match workspace.pending with
  | some suggestion =>
      match suggestion.proposedText with
      | some text =>
          let recorded := (workspace.dropPending.snapshot moment 0 "before AI change").2
          let (changes, written) := recorded.setText moment text .agent
          (some changes, (written.snapshot moment 1 (versionLabel suggestion.summary)).2)
      | none => (none, workspace.dropPending)
  | none => (none, workspace)

def discardSuggestion (workspace : Workspace) : Bool × Workspace :=
  (workspace.pending.isSome, workspace.dropPending)

/-! Documents. -/

/-- Switches to a document. What belonged to the previous one is dropped, and the whole chart counts
as new. A document without an id has not been saved. -/
def openDocument (workspace : Workspace) (moment : Moment) (document : Document) : Workspace :=
  let emptied := (({ workspace.dropPending with
    history := workspace.history.clear, metadata := [], selection := Selection.none }).setStatus
      .idle)
  let switched := { emptied with
    documentId := if document.id = "" then none else some document.id
    title := document.title
    tags := document.tags
    savedText := document.text
    graph := Graph.empty }
  let written := { (switched.setText moment document.text .user).2 with highlight := none }
  written.emit (.documentOpened written.documentId)

def newDocument (workspace : Workspace) (moment : Moment) (title : String) : Workspace :=
  workspace.openDocument moment { id := "", title, text := "", tags := [], updatedAt := "" }

def applyTemplate (workspace : Workspace) (moment : Moment) (id : String) : Bool × Workspace :=
  match Template.find? id with
  | some template =>
      let opened := workspace.openDocument moment
        { id := "", title := template.name, text := template.text, tags := [], updatedAt := "" }
      let metadata := Json.Fields.insert SuggestionContext.promptKey (.string template.systemPrompt)
        (Json.Fields.insert SuggestionContext.templateKey (.string template.id) opened.metadata)
      (true, { opened with metadata, savedText := "" })
  | none => (false, workspace)

def refresh (workspace : Workspace) :
    Except StorageError (List DocumentSummary) → Bool × Workspace
  | .ok documents => (true, { workspace with documents }.emit .documentsChanged)
  | .error _ => (false, workspace)

def load (workspace : Workspace) (moment : Moment) :
    Except StorageError Document → Bool × Workspace
  | .ok document => (true, workspace.openDocument moment document)
  | .error _ => (false, workspace)

def saveRequest (workspace : Workspace) : SaveRequest :=
  { id := workspace.documentId, title := workspace.title, text := workspace.text
    tags := workspace.tags }

def save (workspace : Workspace) (saved : Except StorageError Document)
    (listed : Except StorageError (List DocumentSummary)) : Option Document × Workspace :=
  let waited := (workspace.setSaving true).setSaving false
  match saved with
  | .ok document =>
      let kept := { waited with
        documentId := some document.id, title := document.title, savedText := document.text }
      (some document, (kept.refresh listed).2)
  | .error _ => (none, waited)

def delete (workspace : Workspace) (moment : Moment) (id : String)
    (deleted : Except StorageError Unit)
    (listed : Except StorageError (List DocumentSummary)) : Bool × Workspace :=
  match deleted with
  | .ok _ =>
      let left := if workspace.documentId = some id then workspace.newDocument moment ""
        else workspace
      (true, (left.refresh listed).2)
  | .error _ => (false, workspace)

/-! Changes by others. -/

/-- Takes over the stored form of the open document. Unsaved work that it replaces is recorded
first. -/
def remoteChange (workspace : Workspace) (moment : Moment) (id : String)
    (loaded : Except StorageError Document) : Bool × Workspace :=
  if workspace.documentId = some id then
    match loaded with
    | .ok document =>
        let recorded :=
          if workspace.isDirty && document.text != workspace.text then
            (workspace.snapshot moment 0 "before remote change").2
          else workspace
        let taken := { recorded with
          title := document.title, tags := document.tags, savedText := document.text }
        (true, (taken.setText moment document.text .remote).2)
    | .error _ => (false, workspace)
  else
    (false, workspace)

def notice (workspace : Workspace) (moment : Moment) (notice : Notice)
    (loaded : Except StorageError Document) : Workspace :=
  match notice with
  | .connected => workspace.setConnected true
  | .disconnected => workspace.setConnected false
  | .documentChanged documentId => (workspace.remoteChange moment documentId loaded).2

end Workspace

end Chartbook
