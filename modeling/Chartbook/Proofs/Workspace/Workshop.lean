import Chartbook.Proofs.Document.Shelf
import Chartbook.Proofs.Workspace.Consistent
import Chartbook.Workspace.Studio
import Mathlib.Logic.Function.Basic

/-!
Any number of clients at work on one studio, among others who write to its storage directly. A
client's operation has two ends: the call, where storage answers, and the finish, where the workspace
takes the answer. Anything that others do may come in between.
-/

namespace Chartbook

def Action.answered : Action → Bool
  | .remoteChange _ _ | .notice _ _ | .refresh _ | .load _ | .save _ _ | .delete _ _ _ => true
  | _ => false

def Action.relisted (listed : Except StorageError (List DocumentSummary)) : Action → Action
  | .save saved _ => .save saved listed
  | .delete id deleted _ => .delete id deleted listed
  | action => action

def Command.genuine : Command → Bool
  | .act action => !action.answered
  | _ => true

def Studio.write? (studio : Studio) (workspace : Workspace) (moment : Moment) :
    Command → Option Shelf.Write
  | .save =>
      if .save ∈ studio.outages then none
      else some (.saved
        (studio.shelf.save workspace.saveRequest moment.documentId moment.stamp).1)
  | .delete id => if .delete ∈ studio.outages then none else some (.removed id)
  | _ => none

theorem Studio.resolve_shelf (studio : Studio) (workspace : Workspace) (moment : Moment)
    (command : Command) :
    (studio.resolve workspace moment command).2.shelf =
      studio.shelf.written (studio.write? workspace moment command).toList := by
  cases command with
  | notice notice => cases notice <;> rfl
  | save =>
      by_cases outage : .save ∈ studio.outages
      · simp [resolve, saved, write?, outage, Shelf.written]
      · simp only [resolve, saved, write?, outage, if_false]
        rfl
  | delete id =>
      by_cases outage : .delete ∈ studio.outages
      · simp [resolve, deleted, write?, outage, Shelf.written]
      · simp only [resolve, deleted, write?, outage, if_false]
        rfl
  | _ => rfl

/-- A client's workspace, and the action whose end it waits for. -/
structure Seat where
  workspace : Workspace
  awaited : Option Action

structure Workshop (Client : Type) where
  studio : Studio
  seats : Client → Seat

namespace Workshop

/-- What can happen next. A client calls, the documents are listed for it, and it finishes. Others save
and remove documents, and storage calls begin or cease to fail. -/
inductive Event (Client : Type) where
  | call (client : Client) (moment : Moment) (command : Command)
  | list (client : Client)
  | finish (client : Client) (moment : Moment)
  | put (request : SaveRequest) (freshId stamp : String)
  | drop (id : String)
  | fail (calls : List StorageCall)

variable {Client : Type} [DecidableEq Client]

def opened (documents : List Document) (highlightFor historyCap : Client → Nat) :
    Workshop Client :=
  { studio := { shelf := Shelf.ofDocuments documents, outages := [] }
    seats := fun client =>
      { workspace := Workspace.make (highlightFor client) (historyCap client), awaited := none } }

def stored? (workshop : Workshop Client) (id : String) : Option Document :=
  workshop.studio.shelf.find? id

def workspace (workshop : Workshop Client) (client : Client) : Workspace :=
  (workshop.seats client).workspace

def sit (workshop : Workshop Client) (client : Client) (seat : Seat) : Workshop Client :=
  { workshop with seats := Function.update workshop.seats client seat }

def ready (workshop : Workshop Client) (client : Client) (command : Command) : Bool :=
  (workshop.seats client).awaited.isNone && command.genuine

def call (workshop : Workshop Client) (client : Client) (moment : Moment) (command : Command) :
    Workshop Client :=
  if workshop.ready client command then
    let seat := workshop.seats client
    let (action, studio) := workshop.studio.resolve seat.workspace moment command
    { workshop with studio }.sit client { seat with awaited := some action }
  else workshop

def list (workshop : Workshop Client) (client : Client) : Workshop Client :=
  let seat := workshop.seats client
  workshop.sit client
    { seat with awaited := seat.awaited.map (·.relisted workshop.studio.listed) }

def finish (workshop : Workshop Client) (client : Client) (moment : Moment) : Workshop Client :=
  match (workshop.seats client).awaited with
  | some action =>
      let workspace := ((workshop.seats client).workspace.perform moment action).2
      workshop.sit client { workspace, awaited := none }
  | none => workshop

def write (workshop : Workshop Client) (write : Shelf.Write) : Workshop Client :=
  { workshop with studio := { workshop.studio with shelf := workshop.studio.shelf.write write } }

def step (workshop : Workshop Client) : Event Client → Workshop Client
  | .call client moment command => workshop.call client moment command
  | .list client => workshop.list client
  | .finish client moment => workshop.finish client moment
  | .put request freshId stamp =>
      workshop.write (.saved (workshop.studio.shelf.save request freshId stamp).1)
  | .drop id => workshop.write (.removed id)
  | .fail outages => { workshop with studio := { workshop.studio with outages } }

def run (workshop : Workshop Client) (events : List (Event Client)) : Workshop Client :=
  events.foldl step workshop

def write? (workshop : Workshop Client) : Event Client → Option Shelf.Write
  | .call client moment command =>
      if workshop.ready client command then
        workshop.studio.write? (workshop.seats client).workspace moment command
      else none
  | .put request freshId stamp =>
      some (.saved (workshop.studio.shelf.save request freshId stamp).1)
  | .drop id => some (.removed id)
  | _ => none

def writes (workshop : Workshop Client) : List (Event Client) → List Shelf.Write
  | [] => []
  | event :: rest => (workshop.write? event).toList ++ writes (workshop.step event) rest

variable (workshop : Workshop Client)

theorem run_append (earlier later : List (Event Client)) :
    workshop.run (earlier ++ later) = (workshop.run earlier).run later :=
  List.foldl_append

theorem writes_append (earlier later : List (Event Client)) :
    workshop.writes (earlier ++ later) =
      workshop.writes earlier ++ (workshop.run earlier).writes later := by
  induction earlier generalizing workshop with
  | nil => rfl
  | cons event rest ih =>
      rw [List.cons_append, writes, ih, writes, List.append_assoc]
      rfl

/-! One after the other. -/

def idle (studio : Studio) (workspaces : Client → Workspace) : Workshop Client :=
  { studio, seats := fun client => { workspace := workspaces client, awaited := none } }

def served (studio : Studio) (workspaces : Client → Workspace) :
    List (Client × Moment × Command) → Workshop Client
  | [] => idle studio workspaces
  | (client, moment, command) :: rest =>
      let (_, workspace, after) := studio.command (workspaces client) moment command
      served after (Function.update workspaces client workspace) rest

theorem finish_call {client : Client} {command : Command} (ready : workshop.ready client command)
    (moment : Moment) :
    let (_, workspace, studio) :=
      workshop.studio.command (workshop.seats client).workspace moment command
    (workshop.call client moment command).finish client moment =
      { workshop with studio }.sit client { workspace, awaited := none } := by
  simp [call, ready, finish, sit, Studio.command]

theorem sit_idle (studio : Studio) (workspaces : Client → Workspace) (client : Client)
    (workspace : Workspace) :
    (idle studio workspaces).sit client { workspace, awaited := none } =
      idle studio (Function.update workspaces client workspace) :=
  congrArg (Workshop.mk studio)
    (Function.comp_update (Seat.mk · none) workspaces client workspace).symm

/-- Calls that are finished before the next one are the commands of the studio. -/
theorem run_served (studio : Studio) (workspaces : Client → Workspace)
    (turns : List (Client × Moment × Command)) (genuine : ∀ turn ∈ turns, turn.2.2.genuine) :
    (idle studio workspaces).run (turns.flatMap fun turn =>
      [.call turn.1 turn.2.1 turn.2.2, .finish turn.1 turn.2.1]) =
      served studio workspaces turns := by
  induction turns generalizing studio workspaces with
  | nil => rfl
  | cons turn rest ih =>
      obtain ⟨client, moment, command⟩ := turn
      have ready : (idle studio workspaces).ready client command :=
        genuine (client, moment, command) List.mem_cons_self
      have done := finish_call (idle studio workspaces) ready moment
      have later : ∀ turn ∈ rest, turn.2.2.genuine :=
        fun turn among => genuine turn (List.mem_cons_of_mem _ among)
      rw [List.flatMap_cons, run_append, served]
      exact (congrArg (run · _) (done.trans (sit_idle _ workspaces client _))).trans (ih _ _ later)

theorem shelf_step (event : Event Client) :
    (workshop.step event).studio.shelf =
      workshop.studio.shelf.written (workshop.write? event).toList := by
  cases event with
  | call client moment command =>
      rw [step, call, write?]
      split
      · exact Studio.resolve_shelf _ _ moment command
      · rfl
  | finish client moment =>
      rw [step, finish]
      split <;> rfl
  | _ => rfl

theorem shelf_run (events : List (Event Client)) :
    (workshop.run events).studio.shelf = workshop.studio.shelf.written (workshop.writes events) := by
  induction events generalizing workshop with
  | nil => rfl
  | cons event rest ih =>
      rw [run, List.foldl_cons, ← run, ih, shelf_step, writes, Shelf.written, Shelf.written,
        Shelf.written, List.foldl_append]

inductive SeatStep (client : Client) : Event Client → Seat → Prop
  | same (event : Event Client) : SeatStep client event (workshop.seats client)
  | called (moment : Moment) (command : Command) (ready : workshop.ready client command) :
      SeatStep client (.call client moment command)
        { workshop.seats client with
          awaited := some (workshop.studio.resolve (workshop.seats client).workspace moment
            command).1 }
  | listed :
      SeatStep client (.list client)
        { workshop.seats client with
          awaited := (workshop.seats client).awaited.map (·.relisted workshop.studio.listed) }
  | finished (moment : Moment) (action : Action)
      (awaited : (workshop.seats client).awaited = some action) :
      SeatStep client (.finish client moment)
        { workspace := ((workshop.seats client).workspace.perform moment action).2
          awaited := none }

theorem sit_same (client : Client) (seat : Seat) : (workshop.sit client seat).seats client = seat :=
  Function.update_self ..

theorem sit_other {client other : Client} (differ : other ≠ client) (seat : Seat) :
    (workshop.sit client seat).seats other = workshop.seats other :=
  Function.update_of_ne differ ..

theorem seat_step (client : Client) (event : Event Client) :
    SeatStep workshop client event ((workshop.step event).seats client) := by
  cases event with
  | call caller moment command =>
      rw [step, call]
      split
      · rename_i ready
        by_cases own : client = caller
        · subst own
          dsimp only
          rw [sit_same]
          exact .called moment command ready
        · dsimp only
          rw [sit_other _ own]
          exact .same _
      · exact .same _
  | list caller =>
      rw [step, list]
      by_cases own : client = caller
      · subst own
        rw [sit_same]
        exact .listed
      · rw [sit_other _ own]
        exact .same _
  | finish caller moment =>
      rw [step, finish]
      split
      · rename_i action awaited
        by_cases own : client = caller
        · subst own
          rw [sit_same]
          exact .finished moment action awaited
        · rw [sit_other _ own]
          exact .same _
      · exact .same _
  | put request freshId stamp => exact .same _
  | drop id => exact .same _
  | fail calls => exact .same _

theorem consistent_seat (client : Client)
    (start : (workshop.seats client).workspace.sheet.Consistent) (events : List (Event Client)) :
    ((workshop.run events).seats client).workspace.sheet.Consistent := by
  induction events generalizing workshop with
  | nil => exact start
  | cons event rest ih =>
      refine ih (workshop.step event) ?_
      have step := seat_step workshop client event
      generalize (workshop.step event).seats client = seat at step
      cases step with
      | same => exact start
      | called => exact start
      | listed => exact start
      | finished moment action =>
          rw [Workspace.sheet_perform]
          exact start.after moment.clock _

end Workshop

end Chartbook
