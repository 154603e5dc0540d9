import Chartbook.Proofs.Workspace.Moves

/-!
What actions do to the text of a workspace, to what is derived from it and to the record of the stored
document. The result is `desk_perform`: every action has one effect on these, and which one it has can
be told beforehand.
-/

namespace Chartbook

def WorkspaceEvent.told? : WorkspaceEvent → Option (ChangeSource × ChangeSet)
  | textChanged source changes => some (source, changes)
  | _ => none

/-- The text of a workspace with everything that is derived from it, and the change sets that
subscribers were told of. -/
structure Sheet where
  highlightFor : Nat
  text : String
  graph : Graph
  drawing : Drawing Nat
  direction : Direction
  highlight : Option Highlight
  isSaving : Bool
  told : List (ChangeSource × ChangeSet)

namespace Sheet

def write (sheet : Sheet) (clock : Nat) (text : String) (source : ChangeSource) : Sheet :=
  let next := Graph.ofText text
  let changes := sheet.graph.changes next source
  { sheet with
    text
    graph := next
    drawing := next.draw sheet.direction
    highlight := some { changes, expiresAt := clock + sheet.highlightFor }
    told := sheet.told ++ [(source, changes)] }

def replace (sheet : Sheet) (clock : Nat) (text : String) : Sheet :=
  { { sheet with graph := Graph.empty }.write clock text .user with highlight := none }

def turn (sheet : Sheet) (direction : Direction) : Sheet :=
  { sheet with
    direction
    drawing :=
      if sheet.direction = direction then sheet.drawing else sheet.graph.draw direction }

def sweep (sheet : Sheet) (clock : Nat) : Sheet :=
  { sheet with highlight := sheet.highlight.filter fun highlight => clock < highlight.expiresAt }

end Sheet

structure Baseline where
  documentId : Option String
  savedText : String
  historyCap : Nat

structure Desk where
  sheet : Sheet
  baseline : Baseline

def Desk.move (clock : Nat) (desk : Desk) : Move → Desk
  | .write text source => { desk with sheet := desk.sheet.write clock text source }
  | .sweep => { desk with sheet := desk.sheet.sweep clock }
  | .turn direction => { desk with sheet := desk.sheet.turn direction }
  | .saving saving => { desk with sheet := { desk.sheet with isSaving := saving } }
  | .store document =>
      { desk with baseline := { desk.baseline with
          documentId := some document.id, savedText := document.text } }
  | .take document => { desk with baseline := { desk.baseline with savedText := document.text } }
  | .empty => { desk with sheet := { desk.sheet with graph := Graph.empty } }
  | .adopt document =>
      { sheet := { desk.sheet with highlight := none }
        baseline := { desk.baseline with
          documentId := if document.id = "" then none else some document.id
          savedText := document.text } }
  | .equip _ => { desk with baseline := { desk.baseline with savedText := "" } }
  | _ => desk

/-- What an action comes to on the desk. -/
inductive Effect where
  | kept
  | written (text : String) (source : ChangeSource)
  | reloaded (text : String)
  | opened (documentId : Option String) (text savedText : String)
  | turned (direction : Direction)
  | swept
  | saved (id text : String)
  | unsaved

def Desk.after (desk : Desk) (clock : Nat) : Effect → Desk
  | .kept => desk
  | .written text source => { desk with sheet := desk.sheet.write clock text source }
  | .reloaded text =>
      { sheet := desk.sheet.write clock text .remote
        baseline := { desk.baseline with savedText := text } }
  | .opened documentId text savedText =>
      { sheet := desk.sheet.replace clock text
        baseline := { desk.baseline with documentId, savedText } }
  | .turned direction => { desk with sheet := desk.sheet.turn direction }
  | .swept => { desk with sheet := desk.sheet.sweep clock }
  | .saved id text =>
      { sheet := { desk.sheet with isSaving := false }
        baseline := { desk.baseline with documentId := some id, savedText := text } }
  | .unsaved => { desk with sheet := { desk.sheet with isSaving := false } }

namespace Workspace

def sheet (workspace : Workspace) : Sheet :=
  { highlightFor := workspace.highlightFor
    text := workspace.text
    graph := workspace.graph
    drawing := workspace.drawing
    direction := workspace.direction
    highlight := workspace.highlight
    isSaving := workspace.isSaving
    told := workspace.events.filterMap WorkspaceEvent.told? }

def baseline (workspace : Workspace) : Baseline :=
  { documentId := workspace.documentId
    savedText := workspace.savedText
    historyCap := workspace.history.cap }

def desk (workspace : Workspace) : Desk :=
  { sheet := workspace.sheet, baseline := workspace.baseline }

def reloaded? (workspace : Workspace) (id : String) (loaded : Except StorageError Document) :
    Option String :=
  if workspace.documentId = some id then loaded.toOption.map (·.text) else none

def effect (workspace : Workspace) : Action → Effect
  | .setText text source => .written text source
  | .canvasEdit graph => .written (FlowText.splice workspace.text graph.withoutDangling) .user
  | .applySuggestion =>
      (workspace.pending.bind (·.proposedText)).elim .kept fun text => .written text .agent
  | .restore id => (workspace.history.find? id).elim .kept fun entry => .written entry.text .user
  | .remoteChange id loaded => (workspace.reloaded? id loaded).elim .kept .reloaded
  | .notice (.documentChanged id) loaded => (workspace.reloaded? id loaded).elim .kept .reloaded
  | .load (.ok document) =>
      .opened (if document.id = "" then none else some document.id) document.text document.text
  | .newDocument _ => .opened none "" ""
  | .applyTemplate id =>
      (Template.find? id).elim .kept fun template => .opened none template.text ""
  | .delete id (.ok _) _ =>
      if workspace.documentId = some id then .opened none "" "" else .kept
  | .setDirection direction => .turned direction
  | .clearExpiredHighlight => .swept
  | .save (.ok document) _ => .saved document.id document.text
  | .save (.error _) _ => .unsaved
  | _ => .kept

variable (workspace : Workspace) (moment : Moment)

theorem desk_quiet {said : List WorkspaceEvent}
    (quiet : said.filterMap WorkspaceEvent.told? = []) :
    { workspace with events := workspace.events ++ said }.desk = workspace.desk := by
  simp [desk, sheet, baseline, quiet]

theorem desk_news (same : Prop) [Decidable same] {event : WorkspaceEvent}
    (quiet : event.told? = none) :
    { workspace with events := workspace.events ++ news same event }.desk = workspace.desk := by
  refine desk_quiet workspace ?_
  rw [news]
  split <;> simp [quiet]

theorem desk_emit {event : WorkspaceEvent} (quiet : event.told? = none) :
    (workspace.emit event).desk = workspace.desk :=
  desk_quiet workspace (by simp [quiet])

theorem desk_move (change : Move) :
    (workspace.move moment change).desk = workspace.desk.move moment.clock change := by
  cases change with
  | write text source =>
      simp [move, setText, emit, desk, sheet, baseline, Desk.move, Sheet.write,
        WorkspaceEvent.told?]
  | sweep =>
      rw [move, clearExpiredHighlight_frame]
      rfl
  | turn direction =>
      rw [move, setDirection_frame]
      rfl
  | status status =>
      rw [move, setStatus_frame]
      exact desk_news { workspace with status } _ rfl
  | saving saving =>
      rw [move, setSaving_frame]
      exact desk_news { workspace with isSaving := saving } _ rfl
  | connected connected =>
      rw [move, setConnected_frame]
      exact desk_news { workspace with isConnected := connected } _ rfl
  | drop =>
      rw [move, dropPending_frame]
      exact desk_news { workspace with pending := none } _ rfl
  | record index label => exact desk_emit _ rfl
  | propose suggestion => exact desk_emit _ rfl
  | list documents => exact desk_emit _ rfl
  | adopt document => exact desk_emit _ rfl
  | _ => rfl

theorem after_reloading (clock : Nat) (id : String) (loaded : Except StorageError Document) :
    (workspace.reloading id loaded).foldl (Desk.move clock) workspace.desk =
      workspace.desk.after clock ((workspace.reloaded? id loaded).elim .kept .reloaded) := by
  rw [reloaded?]
  cases loaded with
  | error error => split <;> rfl
  | ok document =>
      rw [reloading]
      split
      · split <;> rfl
      · rfl

theorem after_listing (desk : Desk) (clock : Nat)
    (listed : Except StorageError (List DocumentSummary)) :
    (Move.listing listed).foldl (Desk.move clock) desk = desk := by
  cases listed <;> rfl

/-- An action has its effect on the desk, and no other. -/
theorem desk_perform (action : Action) :
    (workspace.perform moment action).2.desk =
      workspace.desk.after moment.clock (workspace.effect action) := by
  rw [perform_eq, read_moved moment workspace fun workspace => desk_move workspace moment]
  cases action with
  | request message answer =>
      rw [moves]
      cases Text.nonBlank? message with
      | none => rfl
      | some words => cases answer <;> rfl
  | applySuggestion =>
      rw [moves, effect]
      cases workspace.pending with
      | none => rfl
      | some suggestion =>
          dsimp only [Option.elim_some, Option.bind_some]
          cases suggestion.proposedText <;> rfl
  | restore id =>
      rw [moves, effect]
      cases workspace.history.find? id <;> rfl
  | remoteChange id loaded => exact after_reloading workspace moment.clock id loaded
  | notice notice loaded =>
      cases notice with
      | documentChanged id => exact after_reloading workspace moment.clock id loaded
      | _ => rfl
  | refresh listed => exact after_listing workspace.desk moment.clock listed
  | load loaded => cases loaded <;> rfl
  | save saved listed =>
      cases saved with
      | ok document => exact after_listing _ moment.clock listed
      | error error => rfl
  | delete id deleted listed =>
      cases deleted with
      | ok done =>
          rw [moves, effect]
          dsimp only [Except.toOption, Option.elim_some]
          rw [List.foldl_append, after_listing]
          split <;> rfl
      | error error => rfl
  | applyTemplate id =>
      rw [moves, effect]
      cases Template.find? id <;> rfl
  | _ => rfl

theorem sheet_perform (action : Action) :
    (workspace.perform moment action).2.sheet =
      (workspace.desk.after moment.clock (workspace.effect action)).sheet :=
  congrArg Desk.sheet (desk_perform workspace moment action)

theorem baseline_perform (action : Action) :
    (workspace.perform moment action).2.baseline =
      (workspace.desk.after moment.clock (workspace.effect action)).baseline :=
  congrArg Desk.baseline (desk_perform workspace moment action)

end Workspace

end Chartbook
