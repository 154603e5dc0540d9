import Chartbook.Proofs.Workspace.Consistent

/-!
What every action does to the record of the stored document. The result is that a document which
storage knows was loaded or saved with the text on record, and that the room for versions is fixed.
-/

namespace Chartbook

inductive BaselineStep (before : Baseline) : Option String → Baseline → Prop
  | kept : BaselineStep before none before
  | stored (id : Option String) (text : String) :
      BaselineStep before (some text) { before with documentId := id, savedText := text }
  | fresh (text : String) :
      BaselineStep before none { before with documentId := none, savedText := text }

namespace Workspace

def stored? (workspace : Workspace) : Action → Option String
  | .load loaded => loaded.toOption.map (·.text)
  | .save saved _ => saved.toOption.map (·.text)
  | .remoteChange id loaded => workspace.reloaded? id loaded
  | .notice (.documentChanged id) loaded => workspace.reloaded? id loaded
  | _ => none

def lastStored (workspace : Workspace) (stored : Option String) :
    List (Moment × Action) → Option String
  | [] => stored
  | (moment, action) :: rest =>
      lastStored (workspace.perform moment action).2 ((workspace.stored? action).or stored) rest

variable (workspace : Workspace) (moment : Moment)

theorem step_reload (clock : Nat) (id : String) (loaded : Except StorageError Document) :
    BaselineStep workspace.baseline (workspace.reloaded? id loaded)
      (workspace.desk.after clock
        ((workspace.reloaded? id loaded).elim .kept .reloaded)).baseline := by
  cases workspace.reloaded? id loaded with
  | none => exact .kept
  | some text => exact .stored workspace.documentId text

theorem step_baseline (action : Action) :
    BaselineStep workspace.baseline (workspace.stored? action)
      (workspace.perform moment action).2.baseline := by
  rw [baseline_perform]
  cases action with
  | load loaded =>
      cases loaded with
      | ok document => exact .stored _ document.text
      | error error => exact .kept
  | save saved listed =>
      cases saved with
      | ok document => exact .stored (some document.id) document.text
      | error error => exact .kept
  | delete id deleted listed =>
      cases deleted with
      | ok done =>
          rw [effect]
          split
          · exact .fresh ""
          · exact .kept
      | error error => exact .kept
  | newDocument title => exact .fresh ""
  | applyTemplate id =>
      rw [effect]
      cases Template.find? id with
      | none => exact .kept
      | some template => exact .fresh ""
  | remoteChange id loaded => exact step_reload workspace moment.clock id loaded
  | notice notice loaded =>
      cases notice with
      | documentChanged id => exact step_reload workspace moment.clock id loaded
      | _ => exact .kept
  | applySuggestion =>
      rw [effect]
      cases workspace.pending.bind (·.proposedText) <;> exact .kept
  | restore id =>
      rw [effect]
      cases workspace.history.find? id <;> exact .kept
  | _ => exact .kept

/-- What every action keeps, next to the text last loaded or saved: the room for versions, and that
an open document that storage knows was loaded or saved with the text on record. -/
structure Recorded (historyCap : Nat) (baseline : Baseline) (stored : Option String) : Prop where
  cap : baseline.historyCap = max historyCap 1
  known : baseline.documentId.isSome → stored = some baseline.savedText

theorem Recorded.step {historyCap : Nat} {before after : Baseline} {stored change : Option String}
    (recorded : Recorded historyCap before stored) (step : BaselineStep before change after) :
    Recorded historyCap after (change.or stored) := by
  cases step with
  | kept => exact recorded
  | stored id text => exact { cap := recorded.cap, known := fun _ => rfl }
  | fresh text => exact { cap := recorded.cap, known := fun opened => by cases opened }

theorem recorded_run {historyCap : Nat} {workspace : Workspace} {stored : Option String}
    (start : Recorded historyCap workspace.baseline stored) (steps : List (Moment × Action)) :
    Recorded historyCap (workspace.run steps).baseline (workspace.lastStored stored steps) := by
  induction steps generalizing workspace stored with
  | nil => exact start
  | cons first rest ih => exact ih (start.step (step_baseline workspace first.1 first.2))

theorem recorded_make (highlightFor historyCap : Nat) :
    Recorded historyCap (make highlightFor historyCap).baseline none :=
  { cap := rfl, known := fun opened => by cases opened }

end Workspace

end Chartbook
