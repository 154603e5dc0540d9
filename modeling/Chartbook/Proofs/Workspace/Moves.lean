import Chartbook.Proofs.Workspace.Frame

/-!
What actions are made of. Every action comes to moves, one after the other, and which ones they are
can be told before the first. So what every move keeps, every action keeps, and whoever knows what
each move does to a part of the workspace knows what the actions do to it.
-/

namespace Chartbook

/-- A change to a workspace that needs no decision any more. -/
inductive Move where
  | write (text : String) (source : ChangeSource)
  | sweep
  | turn (direction : Direction)
  | select (selection : Selection)
  | entitle (title : String)
  | tag (tags : List String)
  | status (status : AgentStatus)
  | saving (saving : Bool)
  | connected (connected : Bool)
  | drop
  | record (index : Nat) (label : String)
  | say (entry : ChatEntry)
  | propose (suggestion : Suggestion)
  | list (documents : List DocumentSummary)
  | store (document : Document)
  | take (document : Document)
  | empty
  | adopt (document : Document)
  | equip (template : Template)

def Document.opening (document : Document) : List Move :=
  [.drop, .status .idle, .empty, .write document.text .user, .adopt document]

def Move.listing : Except StorageError (List DocumentSummary) → List Move
  | .ok documents => [.list documents]
  | .error _ => []

namespace Workspace

def move (moment : Moment) (workspace : Workspace) : Move → Workspace
  | .write text source => (workspace.setText moment text source).2
  | .sweep => (workspace.clearExpiredHighlight moment).2
  | .turn direction => workspace.setDirection direction
  | .select selection => workspace.select selection
  | .entitle title => workspace.setTitle title
  | .tag tags => workspace.setTags tags
  | .status status => workspace.setStatus status
  | .saving saving => workspace.setSaving saving
  | .connected connected => workspace.setConnected connected
  | .drop => workspace.dropPending
  | .record index label => (workspace.snapshot moment index label).2
  | .say entry => workspace.say entry
  | .propose suggestion =>
      { workspace with pending := some suggestion }.emit (.suggestionPending suggestion)
  | .list documents => { workspace with documents }.emit .documentsChanged
  | .store document =>
      { workspace with
        documentId := some document.id, title := document.title, savedText := document.text }
  | .take document =>
      { workspace with
        title := document.title, tags := document.tags, savedText := document.text }
  | .empty => { workspace with graph := Graph.empty }
  | .adopt document =>
      { workspace with
        documentId := if document.id = "" then none else some document.id
        title := document.title
        tags := document.tags
        savedText := document.text
        metadata := []
        selection := Selection.none
        highlight := none
        history := workspace.history.clear }.emit
          (.documentOpened (if document.id = "" then none else some document.id))
  | .equip template =>
      { workspace with
        metadata := Json.Fields.insert SuggestionContext.promptKey (.string template.systemPrompt)
          (Json.Fields.insert SuggestionContext.templateKey (.string template.id)
            workspace.metadata)
        savedText := "" }

def moved (moment : Moment) (workspace : Workspace) (moves : List Move) : Workspace :=
  moves.foldl (move moment) workspace

variable (moment : Moment) (workspace : Workspace)

def receiving : Except SuggestError Suggestion → List Move
  | .ok suggestion =>
      [.say
        { id := moment.entryId 1, role := .agent, text := (workspace.weigh suggestion).summary
          suggestionId := some (workspace.weigh suggestion).id, timestamp := moment.stamp },
      .propose (workspace.weigh suggestion), .status .idle]
  | .error error =>
      [.say
        { id := moment.entryId 1, role := .error, text := error.report.describe
          suggestionId := none, timestamp := moment.stamp },
      .status .error]

def reloading (id : String) : Except StorageError Document → List Move
  | .ok document =>
      if workspace.documentId = some id then
        (if workspace.isDirty && document.text != workspace.text then
          [.record 0 "before remote change"] else []) ++
            [.take document, .write document.text .remote]
      else []
  | .error _ => []

/-- The moves of an action, as they can be told before it begins. -/
def moves : Action → List Move
  | .setText text source => [.write text source]
  | .canvasEdit graph => [.write (FlowText.splice workspace.text graph.withoutDangling) .user]
  | .clearExpiredHighlight => [.sweep]
  | .setDirection direction => [.turn direction]
  | .select selection => [.select selection]
  | .setTitle title => [.entitle title]
  | .setTags tags => [.tag tags]
  | .request message answer =>
      (Text.nonBlank? message).elim [] fun words =>
        .say { id := moment.entryId 0, role := .user, text := words, suggestionId := none
               timestamp := moment.stamp } ::
          .status .thinking :: workspace.receiving moment answer
  | .applySuggestion =>
      workspace.pending.elim [] fun suggestion =>
        suggestion.proposedText.elim [.drop] fun text =>
          [.drop, .record 0 "before AI change", .write text .agent,
            .record 1 (versionLabel suggestion.summary)]
  | .discardSuggestion => [.drop]
  | .snapshot label => [.record 0 label]
  | .restore id =>
      (workspace.history.find? id).elim [] fun entry =>
        [.record 0 "before restore", .write entry.text .user]
  | .remoteChange id loaded => workspace.reloading id loaded
  | .setConnected connected => [.connected connected]
  | .notice .connected _ => [.connected true]
  | .notice .disconnected _ => [.connected false]
  | .notice (.documentChanged id) loaded => workspace.reloading id loaded
  | .refresh listed => Move.listing listed
  | .load loaded => loaded.toOption.elim [] Document.opening
  | .save saved listed =>
      .saving true :: .saving false ::
        saved.toOption.elim [] fun document => .store document :: Move.listing listed
  | .delete id deleted listed =>
      deleted.toOption.elim [] fun _ =>
        (if workspace.documentId = some id then
          Document.opening { id := "", title := "", text := "", tags := [], updatedAt := "" }
        else []) ++ Move.listing listed
  | .newDocument title =>
      Document.opening { id := "", title, text := "", tags := [], updatedAt := "" }
  | .applyTemplate id =>
      (Template.find? id).elim [] fun template =>
        Document.opening
          { id := "", title := template.name, text := template.text, tags := [], updatedAt := "" }
            ++ [.equip template]

def opens : Action → Bool
  | .load loaded => loaded.toOption.isSome
  | .newDocument _ => true
  | .applyTemplate id => (Template.find? id).isSome
  | .delete id deleted _ => deleted.toOption.isSome && workspace.documentId = some id
  | _ => false

theorem openDocument_eq (document : Document) :
    workspace.openDocument moment document = workspace.moved moment document.opening := by
  rw [openDocument, setStatus_frame, dropPending_frame]
  simp only [moved, Document.opening, List.foldl, move]
  rw [setStatus_frame, dropPending_frame]
  rfl

theorem receive_eq (answer : Except SuggestError Suggestion) :
    (workspace.receive moment answer).2 =
      workspace.moved moment (workspace.receiving moment answer) := by
  cases answer <;> rfl

theorem refresh_eq (listed : Except StorageError (List DocumentSummary)) :
    (workspace.refresh listed).2 = workspace.moved moment (Move.listing listed) := by
  cases listed <;> rfl

theorem remoteChange_eq (id : String) (loaded : Except StorageError Document) :
    (workspace.remoteChange moment id loaded).2 =
      workspace.moved moment (workspace.reloading id loaded) := by
  cases loaded with
  | error error =>
      rw [remoteChange, ite_self]
      rfl
  | ok document =>
      rw [remoteChange, reloading]
      split
      · dsimp only
        split <;> rfl
      · rfl

theorem moved_append (earlier later : List Move) :
    workspace.moved moment (earlier ++ later) =
      (workspace.moved moment earlier).moved moment later :=
  List.foldl_append

/-- An action comes to its moves. -/
theorem perform_eq (action : Action) :
    (workspace.perform moment action).2 =
      workspace.moved moment (workspace.moves moment action) := by
  cases action with
  | request message answer =>
      rw [perform, request, moves]
      cases Text.nonBlank? message with
      | none => rfl
      | some words =>
          have same (entry : ChatEntry) :
              ((workspace.say entry).setStatus .thinking).receiving moment answer =
                workspace.receiving moment answer := by
            rw [setStatus_frame]
            cases answer <;> rfl
          refine (receive_eq moment _ answer).trans ?_
          rw [same]
          rfl
  | applySuggestion =>
      rw [perform, applySuggestion, moves]
      cases workspace.pending with
      | none => rfl
      | some suggestion =>
          dsimp only [Option.elim_some]
          cases suggestion.proposedText <;> rfl
  | restore id =>
      rw [perform, restore, moves]
      cases workspace.history.find? id <;> rfl
  | remoteChange id loaded => exact remoteChange_eq moment workspace id loaded
  | notice notice loaded =>
      cases notice with
      | documentChanged id => exact remoteChange_eq moment workspace id loaded
      | _ => rfl
  | refresh listed => exact refresh_eq moment workspace listed
  | load loaded =>
      cases loaded with
      | ok document => exact openDocument_eq moment workspace document
      | error error => rfl
  | save saved listed =>
      cases saved with
      | ok document => exact refresh_eq moment _ listed
      | error error => rfl
  | delete id deleted listed =>
      cases deleted with
      | ok done =>
          refine (refresh_eq moment _ listed).trans ?_
          rw [moves]
          dsimp only [Except.toOption, Option.elim_some]
          rw [moved_append]
          split
          · rw [newDocument, openDocument_eq]
          · rfl
      | error error => rfl
  | newDocument title => exact openDocument_eq moment workspace _
  | applyTemplate id =>
      rw [perform, applyTemplate, moves]
      cases Template.find? id with
      | none => rfl
      | some template =>
          dsimp only [Option.elim_some]
          rw [moved_append, ← openDocument_eq]
          rfl
  | _ => rfl

theorem read_moved {Part : Type} {part : Workspace → Part} {step : Part → Move → Part}
    (one : ∀ workspace change, part (workspace.move moment change) = step (part workspace) change)
    (changes : List Move) :
    part (workspace.moved moment changes) = changes.foldl step (part workspace) := by
  induction changes generalizing workspace with
  | nil => rfl
  | cons first rest ih =>
      rw [List.foldl_cons, ← one]
      exact ih _

end Workspace

end Chartbook
