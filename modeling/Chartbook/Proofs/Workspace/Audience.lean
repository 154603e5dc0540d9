import Chartbook.Proofs.Workspace.History
import Chartbook.Proofs.Workspace.Moves

/-!
What subscribers can know. Main statement: whoever takes note of every event holds the status, the
flags, the pending suggestion and the versions of the workspace after every action, and hears of
every change of the text and of the index.
-/

namespace Chartbook

/-- What a subscriber keeps of a workspace. -/
structure View where
  status : AgentStatus
  isSaving : Bool
  isConnected : Bool
  pending : Option Suggestion
  versions : List VersionEntry

namespace View

def start : View :=
  { status := .idle, isSaving := false, isConnected := false, pending := none, versions := [] }

/-- What an event changes for a subscriber who knows how many versions are kept. -/
def hear (room : Nat) (view : View) : WorkspaceEvent → View
  | .statusChanged status => { view with status }
  | .savingChanged saving => { view with isSaving := saving }
  | .connectionChanged connected => { view with isConnected := connected }
  | .suggestionPending suggestion => { view with pending := some suggestion }
  | .suggestionCleared => { view with pending := none }
  | .versionAdded entry =>
      { view with versions := History.lastOf room (view.versions ++ [entry]) }
  | .documentOpened _ => { view with versions := [] }
  | .textChanged _ _ => view
  | .documentsChanged => view

end View

namespace Workspace

def view (workspace : Workspace) : View :=
  { status := workspace.status
    isSaving := workspace.isSaving
    isConnected := workspace.isConnected
    pending := workspace.pending
    versions := workspace.history.entries }

/-- The fresh events tell a subscriber all that has changed. -/
structure Tells (before : Workspace) (fresh : List WorkspaceEvent) (after : Workspace) : Prop where
  events : after.events = before.events ++ fresh
  room : after.history.cap = before.history.cap
  view : fresh.foldl (View.hear before.history.cap) before.view = after.view
  text : after.text ≠ before.text → ∃ source changes, .textChanged source changes ∈ fresh
  index : after.documents ≠ before.documents → .documentsChanged ∈ fresh

def Told (before after : Workspace) : Prop :=
  ∃ fresh, Tells before fresh after

namespace Told

variable {before middle after : Workspace}

theorem trans (first : Told before middle) (second : Told middle after) : Told before after := by
  obtain ⟨fresh, told⟩ := first
  obtain ⟨later, tells⟩ := second
  refine ⟨fresh ++ later, ?_, tells.room.trans told.room, ?_, ?_, ?_⟩
  · rw [tells.events, told.events, List.append_assoc]
  · rw [List.foldl_append, told.view, ← told.room]
    exact tells.view
  · intro changed
    by_cases early : middle.text = before.text
    · rw [← early] at changed
      obtain ⟨source, changes, member⟩ := tells.text changed
      exact ⟨source, changes, List.mem_append_right fresh member⟩
    · obtain ⟨source, changes, member⟩ := told.text early
      exact ⟨source, changes, List.mem_append_left later member⟩
  · intro changed
    by_cases early : middle.documents = before.documents
    · rw [← early] at changed
      exact List.mem_append_right fresh (tells.index changed)
    · exact List.mem_append_left later (told.index early)

theorem quiet (same : (after.events, after.history.cap, after.view, after.text, after.documents) =
      (before.events, before.history.cap, before.view, before.text, before.documents)) :
    Told before after := by
  simp only [Prod.mk.injEq] at same
  obtain ⟨events, room, view, text, documents⟩ := same
  exact ⟨[], by rw [events, List.append_nil], room, view.symm, fun changed => absurd text changed,
    fun changed => absurd documents changed⟩

theorem refl : Told before before :=
  quiet rfl

theorem emitted {event : WorkspaceEvent} (room : after.history.cap = before.history.cap)
    (view : View.hear before.history.cap before.view event = after.view)
    (unsaid : (after.events, after.text, after.documents) =
      (before.events, before.text, before.documents)) :
    Told before (after.emit event) := by
  simp only [Prod.mk.injEq] at unsaid
  obtain ⟨events, text, documents⟩ := unsaid
  refine ⟨[event], ?_, room, view, fun changed => absurd text changed,
    fun changed => absurd documents changed⟩
  rw [emit, events]

theorem news (after : Workspace) {same : Prop} [Decidable same] {event : WorkspaceEvent}
    (unchanged : same → before.view = after.view) (room : after.history.cap = before.history.cap)
    (view : View.hear before.history.cap before.view event = after.view)
    (unsaid : (after.events, after.text, after.documents) =
      (before.events, before.text, before.documents)) :
    Told before { after with events := after.events ++ news same event } := by
  rw [Workspace.news]
  split
  · rename_i same
    simp only [Prod.mk.injEq] at unsaid
    obtain ⟨events, text, documents⟩ := unsaid
    exact ⟨[], by rw [List.append_nil, List.append_nil, events], room, unchanged same,
      fun changed => absurd text changed, fun changed => absurd documents changed⟩
  · exact emitted room view unsaid

end Told

variable (workspace : Workspace) (moment : Moment)

theorem told_move (change : Move) : Told workspace (workspace.move moment change) := by
  cases change with
  | write text source =>
      exact ⟨[.textChanged source (workspace.graph.changes (Graph.ofText text) source)], rfl, rfl,
        rfl, fun _ => ⟨source, _, List.mem_singleton_self _⟩, fun changed => absurd rfl changed⟩
  | sweep =>
      rw [move, clearExpiredHighlight_frame]
      exact .quiet rfl
  | turn direction =>
      rw [move, setDirection_frame]
      exact .quiet rfl
  | status status =>
      rw [move, setStatus_frame]
      exact .news { workspace with status } (fun same => by rw [← same]) rfl rfl rfl
  | saving saving =>
      rw [move, setSaving_frame]
      exact .news { workspace with isSaving := saving } (fun same => by rw [← same]) rfl rfl rfl
  | connected connected =>
      rw [move, setConnected_frame]
      exact .news { workspace with isConnected := connected } (fun same => by rw [← same]) rfl rfl
        rfl
  | drop =>
      rw [move, dropPending_frame]
      exact .news { workspace with pending := none } (fun same => by rw [← same]) rfl rfl rfl
  | record index label =>
      refine .emitted rfl ?_ rfl
      rw [View.hear, view, ← History.entries_push]
      rfl
  | propose suggestion => exact .emitted rfl rfl rfl
  | list documents =>
      exact ⟨[.documentsChanged], rfl, rfl, rfl, fun changed => absurd rfl changed,
        fun _ => List.mem_singleton_self _⟩
  | adopt document => exact .emitted rfl rfl rfl
  | _ => exact .quiet rfl

theorem told_moved (changes : List Move) : Told workspace (workspace.moved moment changes) := by
  induction changes generalizing workspace with
  | nil => exact .refl
  | cons first rest ih => exact (told_move workspace moment first).trans (ih _)

theorem told_perform (action : Action) : Told workspace (workspace.perform moment action).2 := by
  rw [perform_eq]
  exact told_moved workspace moment _

theorem told_run (steps : List (Moment × Action)) : Told workspace (workspace.run steps) := by
  induction steps generalizing workspace with
  | nil => exact .refl
  | cons first rest ih => exact (told_perform workspace first.1 first.2).trans (ih _)

/-- After every action a subscriber who heard every event since the workspace was made holds what the
workspace holds. What an action does to the text or to the index is told among its own events. -/
theorem events_complete (highlightFor historyCap : Nat) (steps : List (Moment × Action)) :
    let reached := (make highlightFor historyCap).run steps
    reached.events.foldl (View.hear (max historyCap 1)) View.start = reached.view ∧
    ∀ moment action,
      let next := (reached.perform moment action).2
      ∃ fresh, next.events = reached.events ++ fresh ∧
        (next.text ≠ reached.text → ∃ source changes, .textChanged source changes ∈ fresh) ∧
        (next.documents ≠ reached.documents → .documentsChanged ∈ fresh) := by
  intro reached
  obtain ⟨told, tells⟩ := told_run (make highlightFor historyCap) steps
  constructor
  · have events : reached.events = told := tells.events
    rw [events]
    exact tells.view
  · intro moment action next
    obtain ⟨fresh, later⟩ := told_perform reached moment action
    exact ⟨fresh, later.events, later.text, later.index⟩

end Workspace

end Chartbook
