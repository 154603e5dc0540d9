import Chartbook.Proofs.Workspace.Baseline

/-!
What one document can know of another. Main statement: once two workspaces with the same settings
have opened the same document, equal actions keep them equal in all that is shown of it, and the
agent is asked the same of both.
-/

namespace Chartbook

/-- All that is shown of the open document. -/
structure Page where
  documentId : Option String
  title : String
  tags : List String
  text : String
  graph : Graph
  drawing : Drawing Nat
  highlight : Option Highlight
  selection : Selection
  status : AgentStatus
  pending : Option Suggestion
  versions : List VersionEntry
  isDirty : Bool

/-- Whether an action opens a document whatever was open before. -/
def Action.opensAnew : Action → Bool
  | .load loaded => loaded.toOption.isSome
  | .newDocument _ => true
  | .applyTemplate id => (Template.find? id).isSome
  | _ => false

namespace Workspace

def page (workspace : Workspace) : Page :=
  { documentId := workspace.documentId
    title := workspace.title
    tags := workspace.tags
    text := workspace.text
    graph := workspace.graph
    drawing := workspace.drawing
    highlight := workspace.highlight
    selection := workspace.selection
    status := workspace.status
    pending := workspace.pending
    versions := workspace.history.entries
    isDirty := workspace.isDirty }

def requestOf? (workspace : Workspace) : Action → Option SuggestionRequest
  | .request message _ => workspace.requestFor? message
  | _ => none

def requests (workspace : Workspace) : List (Moment × Action) → List SuggestionRequest
  | [] => []
  | (moment, action) :: rest =>
      (workspace.requestOf? action).toList
        ++ requests (workspace.perform moment action).2 rest

def confined (workspace : Workspace) : Workspace :=
  { workspace with
    highlight := none, chat := [], documents := [], isConnected := false, events := [] }

/-- Two workspaces differ at most in what outlasts a document and, unless `lit`, in the highlight. -/
def Alike (lit : Prop) (left right : Workspace) : Prop :=
  left.confined = right.confined ∧ (lit → left.highlight = right.highlight)

namespace Alike

variable {lit : Prop} {left right : Workspace} (moment : Moment)

theorem reads {Value : Type} (alike : Alike lit left right) (read : Workspace → Value)
    (inside : ∀ workspace, read workspace = read workspace.confined) : read left = read right := by
  rw [inside left, inside right, alike.1]

theorem does (alike : Alike lit left right) (change : Workspace → Workspace)
    (inside : ∀ workspace, (change workspace).confined = (change workspace.confined).confined)
    (steady : ∀ workspace, (change workspace).highlight = workspace.highlight) :
    Alike lit (change left) (change right) :=
  ⟨alike.reads (fun workspace => (change workspace).confined) inside,
    fun lit => by rw [steady, steady, alike.2 lit]⟩

theorem writes (alike : Alike lit left right) (change : Workspace → Workspace)
    (inside : ∀ workspace, (change workspace).confined = (change workspace.confined).confined)
    (anew : ∀ workspace, (change workspace).highlight = (change workspace.confined).highlight) :
    Alike lit (change left) (change right) :=
  ⟨alike.reads (fun workspace => (change workspace).confined) inside,
    fun _ => alike.reads (fun workspace => (change workspace).highlight) anew⟩

theorem symm (alike : Alike lit left right) : Alike lit right left :=
  ⟨alike.1.symm, fun lit => (alike.2 lit).symm⟩

theorem trans {further : Workspace} (alike : Alike lit left right)
    (next : Alike lit right further) : Alike lit left further :=
  ⟨alike.1.trans next.1, fun lit => (alike.2 lit).trans (next.2 lit)⟩

theorem page (alike : Alike True left right) : left.page = right.page := by
  have shown (workspace : Workspace) : workspace.page =
      { workspace.confined.page with highlight := workspace.highlight } := rfl
  rw [shown, shown right, alike.1, alike.2 trivial]

theorem requestOf? (alike : Alike lit left right) (action : Action) :
    left.requestOf? action = right.requestOf? action := by
  cases action with
  | request message answer => exact alike.reads (·.requestFor? message) fun _ => rfl
  | _ => rfl

theorem swept (workspace : Workspace) :
    Alike False (workspace.clearExpiredHighlight moment).2 workspace := by
  rw [clearExpiredHighlight_frame]
  exact ⟨rfl, False.elim⟩

theorem move (alike : Alike lit left right) (change : Move) :
    Alike lit (left.move moment change) (right.move moment change) := by
  cases change with
  | write text source =>
      exact alike.writes (·.move moment (.write text source)) (fun _ => rfl) fun _ => rfl
  | sweep =>
      rw [Workspace.move, Workspace.move, clearExpiredHighlight_frame, clearExpiredHighlight_frame]
      exact ⟨alike.1, fun lit => congrArg (Option.filter _) (alike.2 lit)⟩
  | turn direction =>
      rw [Workspace.move, Workspace.move, setDirection_frame, setDirection_frame right]
      exact alike.does (fun workspace =>
        { workspace with
          direction
          drawing :=
            if workspace.direction = direction then workspace.drawing
            else workspace.graph.draw direction }) (fun _ => rfl) fun _ => rfl
  | status status =>
      rw [Workspace.move, Workspace.move, setStatus_frame, setStatus_frame right]
      exact alike.does (fun workspace => { workspace with status }) (fun _ => rfl) fun _ => rfl
  | saving saving =>
      rw [Workspace.move, Workspace.move, setSaving_frame, setSaving_frame right]
      exact alike.does (fun workspace => { workspace with isSaving := saving }) (fun _ => rfl)
        fun _ => rfl
  | connected connected =>
      rw [Workspace.move, Workspace.move, setConnected_frame, setConnected_frame right]
      exact alike
  | drop =>
      rw [Workspace.move, Workspace.move, dropPending_frame, dropPending_frame right]
      exact alike.does (fun workspace => { workspace with pending := none }) (fun _ => rfl)
        fun _ => rfl
  | adopt document =>
      exact alike.writes (·.move moment (.adopt document)) (fun _ => rfl) fun _ => rfl
  | _ => exact alike.does (·.move moment _) (fun _ => rfl) fun _ => rfl

theorem moved (alike : Alike lit left right) (changes : List Move) :
    Alike lit (left.moved moment changes) (right.moved moment changes) := by
  induction changes generalizing left right with
  | nil => exact alike
  | cons first rest ih => exact ih (alike.move moment first)

theorem moves (alike : Alike lit left right) (action : Action) :
    left.moves moment action = right.moves moment action := by
  refine alike.reads (·.moves moment action) fun workspace => ?_
  cases action <;> rfl

theorem perform (alike : Alike lit left right) (action : Action) :
    Alike lit (left.perform moment action).2 (right.perform moment action).2 := by
  rw [perform_eq, perform_eq, alike.moves]
  exact alike.moved moment _

theorem run (alike : Alike lit left right) (steps : List (Moment × Action)) :
    Alike lit (left.run steps) (right.run steps) := by
  induction steps generalizing left right with
  | nil => exact alike
  | cons first rest ih => exact ih (alike.perform first.1 first.2)

theorem requests (alike : Alike lit left right) (steps : List (Moment × Action)) :
    left.requests steps = right.requests steps := by
  induction steps generalizing left right with
  | nil => rfl
  | cons first rest ih =>
      rw [Workspace.requests, Workspace.requests, alike.requestOf?,
        ih (alike.perform first.1 first.2)]

end Alike

/-- What a document finds when it is opened, whatever was open before. -/
structure SameSettings (left right : Workspace) : Prop where
  highlightFor : left.highlightFor = right.highlightFor
  direction : left.direction = right.direction
  cap : left.history.cap = right.history.cap
  isSaving : left.isSaving = right.isSaving

theorem confined_opening (workspace : Workspace) (moment : Moment) (document : Document) :
    (workspace.moved moment document.opening).confined =
      { make workspace.highlightFor 0 with
        documentId := if document.id = "" then none else some document.id
        title := document.title
        tags := document.tags
        text := document.text
        savedText := document.text
        graph := Graph.ofText document.text
        drawing := (Graph.ofText document.text).draw workspace.direction
        direction := workspace.direction
        history := workspace.history.clear
        isSaving := workspace.isSaving } := by
  simp only [moved, Document.opening, List.foldl, move]
  rw [setStatus_frame, dropPending_frame]
  rfl

theorem SameSettings.opening {lit : Prop} {left right : Workspace}
    (same : SameSettings left right) (leftMoment rightMoment : Moment) (document : Document) :
    Alike lit (left.moved leftMoment document.opening)
      (right.moved rightMoment document.opening) := by
  have history : left.history.clear = right.history.clear := by
    simp [History.clear, same.cap]
  refine ⟨?_, fun _ => rfl⟩
  rw [confined_opening, confined_opening, same.highlightFor, same.direction, same.isSaving, history]

theorem SameSettings.perform {left right : Workspace} (same : SameSettings left right)
    (leftMoment rightMoment : Moment) {opening : Action} (opens : opening.opensAnew) :
    Alike True (left.perform leftMoment opening).2 (right.perform rightMoment opening).2 := by
  rw [perform_eq, perform_eq]
  cases opening with
  | load loaded =>
      cases loaded with
      | ok document => exact same.opening leftMoment rightMoment document
      | error error => cases opens
  | newDocument title => exact same.opening leftMoment rightMoment _
  | applyTemplate id =>
      rw [moves, moves]
      cases found : Template.find? id with
      | none => simp [Action.opensAnew, found] at opens
      | some template =>
          dsimp only [Option.elim_some]
          rw [moved_append, moved_append]
          exact (same.opening leftMoment rightMoment _).move rightMoment (.equip template)
  | _ => cases opens

theorem highlightFor_perform (workspace : Workspace) (moment : Moment) (action : Action) :
    (workspace.perform moment action).2.highlightFor = workspace.highlightFor := by
  refine (congrArg Sheet.highlightFor (sheet_perform workspace moment action)).trans ?_
  cases workspace.effect action <;> rfl

theorem highlightFor_run (highlightFor historyCap : Nat) (steps : List (Moment × Action)) :
    ((make highlightFor historyCap).run steps).highlightFor = highlightFor := by
  refine run_invariant (·.highlightFor = highlightFor) ?_ rfl steps
  intro workspace moment action kept
  exact (highlightFor_perform workspace moment action).trans kept

theorem sameSettings_run (highlightFor historyCap : Nat)
    (leftSteps rightSteps : List (Moment × Action))
    (turned : ((make highlightFor historyCap).run leftSteps).direction =
      ((make highlightFor historyCap).run rightSteps).direction) :
    SameSettings ((make highlightFor historyCap).run leftSteps)
      ((make highlightFor historyCap).run rightSteps) where
  highlightFor := (highlightFor_run _ _ leftSteps).trans (highlightFor_run _ _ rightSteps).symm
  direction := turned
  cap := by
    have left := recorded_run (recorded_make highlightFor historyCap) leftSteps
    have right := recorded_run (recorded_make highlightFor historyCap) rightSteps
    exact left.cap.trans right.cap.symm
  isSaving := by
    have left := consistent_run highlightFor historyCap leftSteps
    have right := consistent_run highlightFor historyCap rightSteps
    exact left.idle.trans right.idle.symm

/-- Take two workspaces made with the same settings, whatever was done with them since, that draw in
the same direction. If both open the same document, and the same is done with it afterwards, they show
the same of it, and the agent is asked the same. -/
theorem documents_kept_apart (highlightFor historyCap : Nat)
    (leftSteps rightSteps steps : List (Moment × Action)) (leftMoment rightMoment : Moment)
    (opening : Action) (opens : opening.opensAnew) :
    let start := make highlightFor historyCap
    let left := start.run leftSteps
    let right := start.run rightSteps
    left.direction = right.direction →
    let leftOpened := (left.perform leftMoment opening).2
    let rightOpened := (right.perform rightMoment opening).2
    (leftOpened.run steps).page = (rightOpened.run steps).page ∧
    leftOpened.requests steps = rightOpened.requests steps := by
  intro start left right turned leftOpened rightOpened
  have alike : Alike True leftOpened rightOpened :=
    (sameSettings_run highlightFor historyCap leftSteps rightSteps turned).perform leftMoment
      rightMoment opens
  exact ⟨(alike.run steps).page, alike.requests steps⟩

theorem no_trace_of_template :
    let moment : Moment :=
      { clock := 0, stamp := "", versionId := fun _ => "", entryId := fun _ => "", documentId := "" }
    let document : Document :=
      { id := "d", title := "Plan", text := "[a] -> [b]", tags := [], updatedAt := "" }
    let before := [(moment, .applyTemplate "process"),
      (moment, .select { nodeIds := ["check"], edgeIds := [] }),
      (moment, .request "go" (.error .noAnswer))]
    let opening : Action := .load (.ok document)
    let steps := [(moment, .setTitle "Plan B"), (moment, .request "shorter" (.error .noAnswer))]
    let start := make 0 1
    let left := start.run before
    let leftOpened := (left.perform moment opening).2
    let rightOpened := (start.perform moment opening).2
    opening.opensAnew ∧ left.direction = start.direction ∧ left.text ≠ start.text ∧
    (leftOpened.run steps).page = (rightOpened.run steps).page ∧
    leftOpened.requests steps = rightOpened.requests steps := by
  intro moment document before opening steps start left leftOpened rightOpened
  have turned : left.direction = start.direction := by decide +kernel
  have differ : left.text ≠ start.text := by decide +kernel
  exact ⟨rfl, turned, differ,
    documents_kept_apart 0 1 before [] steps moment moment opening rfl turned⟩

end Workspace

end Chartbook
