import Chartbook.Proofs.Document.Mirror
import Chartbook.Proofs.Workspace.Workshop

/-!
The documents that a workspace shows. Its operations list them last, and others may write before they
do. Main statement: an operation that lists the documents with success leaves the workspace with a
mirror of the storage, whatever has led there.
-/

namespace Chartbook

/-- What the operation is told when it lists the documents. One that fails before does not list. -/
def Action.listed? : Action → Option (Except StorageError (List DocumentSummary))
  | .refresh listed => some listed
  | .save (.ok _) listed => some listed
  | .delete _ (.ok _) listed => some listed
  | _ => none

def Action.relists : Action → Bool
  | .save _ _ | .delete _ _ _ => true
  | _ => false

theorem Action.listed?_of_answered {action : Action} (free : action.answered = false) :
    action.listed? = none := by
  cases action <;> simp_all [answered, listed?]

theorem Action.listed?_save {saved : Except StorageError Document}
    {listed answer : Except StorageError (List DocumentSummary)}
    (found : (Action.save saved listed).listed? = some answer) :
    (∃ document, saved = .ok document) ∧ answer = listed := by
  cases saved with
  | ok document => exact ⟨⟨document, rfl⟩, (Option.some.inj found).symm⟩
  | error error => cases found

theorem Action.listed?_delete {id : String} {deleted : Except StorageError Unit}
    {listed answer : Except StorageError (List DocumentSummary)}
    (found : (Action.delete id deleted listed).listed? = some answer) :
    deleted = .ok () ∧ answer = listed := by
  cases deleted with
  | ok gone => exact ⟨rfl, (Option.some.inj found).symm⟩
  | error error => cases found

theorem Action.listed?_relisted {action : Action}
    {listed answer : Except StorageError (List DocumentSummary)}
    (found : (action.relisted listed).listed? = some answer) :
    answer = listed ∨ action.relists = false ∧ action.listed? = some answer := by
  cases action with
  | save saved before => exact .inl (listed?_save found).2
  | delete id deleted before => exact .inl (listed?_delete found).2
  | _ => exact .inr ⟨rfl, found⟩

theorem Workspace.documents_perform (workspace : Workspace) (moment : Moment) {action : Action}
    {index : List DocumentSummary} (listed : action.listed? = some (.ok index)) :
    (workspace.perform moment action).2.documents = index := by
  cases action with
  | refresh answer =>
      cases listed
      rfl
  | save saved answer =>
      obtain ⟨⟨document, rfl⟩, rfl⟩ := Action.listed?_save listed
      rfl
  | delete id deleted answer =>
      obtain ⟨rfl, rfl⟩ := Action.listed?_delete listed
      rfl
  | _ => cases listed

namespace Studio

variable {studio : Studio}

theorem index_of_listed {index : List DocumentSummary} (listed : studio.listed = .ok index) :
    index = studio.shelf.index := by
  rw [Studio.listed, answer] at listed
  split at listed
  · cases listed
  · exact (Except.ok.inj listed).symm

theorem listed_resolve {workspace : Workspace} {moment : Moment} {command : Command}
    (genuine : command.genuine) {answer : Except StorageError (List DocumentSummary)}
    (found : (studio.resolve workspace moment command).1.listed? = some answer) :
    answer = (studio.resolve workspace moment command).2.listed := by
  cases command with
  | act action =>
      have free : action.answered = false := by simpa [Command.genuine] using genuine
      rw [resolve, Action.listed?_of_answered free] at found
      cases found
  | refresh => exact (Option.some.inj found).symm
  | save => exact (Action.listed?_save found).2
  | delete id => exact (Action.listed?_delete found).2
  | notice notice => cases notice <;> cases found
  | _ => cases found

end Studio

def Seat.listed? (seat : Seat) : Option (Except StorageError (List DocumentSummary)) :=
  seat.awaited.bind Action.listed?

/-- What the client has been told of the documents is what the shelf has. -/
def Seat.Informed (seat : Seat) (shelf : Shelf) : Prop :=
  ∀ index, seat.listed? = some (.ok index) → index = shelf.index

namespace Workshop

variable {Client : Type} [DecidableEq Client] (workshop : Workshop Client) (client : Client)

/-- The event is one in which the documents are listed for the client: as it calls, or later, after the
storage was changed for it. -/
inductive Lists : Event Client → Prop
  | called (moment : Moment) (command : Command) (ready : workshop.ready client command) :
      Lists (.call client moment command)
  | again (action : Action) (awaited : (workshop.seats client).awaited = some action)
      (relists : action.relists) : Lists (.list client)

/-- The run ends with an operation of the client that succeeds. The documents are listed for it, with
success, and nobody writes between that and the end: by then the client waits for nothing more. -/
inductive Relists : List (Event Client) → Prop
  | intro (earlier later : List (Event Client)) (event : Event Client) (finished : Moment)
      (lists : (workshop.run earlier).Lists client event)
      (quiet : ((workshop.run earlier).step event).writes later = [])
      (succeeds : ∃ index,
        ((workshop.run (earlier ++ event :: later)).seats client).listed? = some (.ok index)) :
      Relists (earlier ++ event :: (later ++ [.finish client finished]))

variable {workshop client}

theorem informed_call {moment : Moment} {command : Command}
    (ready : workshop.ready client command) :
    ((workshop.step (.call client moment command)).seats client).Informed
      (workshop.step (.call client moment command)).studio.shelf := by
  intro index told
  rw [step, call, if_pos ready] at told ⊢
  dsimp only at told ⊢
  rw [sit_same] at told
  have genuine : command.genuine := by simp_all [Workshop.ready]
  exact Studio.index_of_listed (Studio.listed_resolve genuine told).symm

theorem informed_of_lists {event : Event Client} (lists : workshop.Lists client event) :
    ((workshop.step event).seats client).Informed (workshop.step event).studio.shelf := by
  cases lists with
  | called moment command ready => exact informed_call ready
  | again action awaited relists =>
      intro index told
      rw [step, list, sit_same, awaited] at told
      rcases Action.listed?_relisted told with now | ⟨before, _⟩
      · exact Studio.index_of_listed now.symm
      · rw [relists] at before
        cases before

theorem informed_step {event : Event Client}
    (informed : (workshop.seats client).Informed workshop.studio.shelf)
    (quiet : workshop.write? event = none) :
    ((workshop.step event).seats client).Informed (workshop.step event).studio.shelf := by
  have shelf : (workshop.step event).studio.shelf = workshop.studio.shelf := by
    rw [shelf_step, quiet]
    rfl
  have step := seat_step workshop client event
  generalize seated : (workshop.step event).seats client = seat at step
  cases step with
  | same =>
      rw [shelf]
      exact informed
  | called moment command ready =>
      rw [← seated]
      exact informed_call ready
  | listed =>
      rw [shelf]
      intro index told
      obtain ⟨relisted, some, listed⟩ := Option.bind_eq_some_iff.mp told
      obtain ⟨action, awaited, rfl⟩ := Option.map_eq_some_iff.mp some
      rcases Action.listed?_relisted listed with now | ⟨_, before⟩
      · exact Studio.index_of_listed now.symm
      · exact informed index (Option.bind_eq_some_iff.mpr ⟨action, awaited, before⟩)
  | finished moment action awaited =>
      intro index told
      cases told

theorem informed_run {events : List (Event Client)}
    (informed : (workshop.seats client).Informed workshop.studio.shelf)
    (quiet : workshop.writes events = []) :
    ((workshop.run events).seats client).Informed (workshop.run events).studio.shelf := by
  induction events generalizing workshop with
  | nil => exact informed
  | cons event rest ih =>
      obtain ⟨first, others⟩ := List.append_eq_nil_iff.mp quiet
      exact ih (informed_step informed (Option.toList_eq_nil_iff.mp first)) others

theorem orderly_run (documents : List Document) (highlightFor historyCap : Client → Nat)
    (events : List (Event Client)) :
    ((opened documents highlightFor historyCap).run events).studio.shelf.Orderly := by
  rw [shelf_run]
  exact (Shelf.orderly_ofDocuments documents).written _

theorem documents_finish (informed : (workshop.seats client).Informed workshop.studio.shelf)
    {index : List DocumentSummary} (told : (workshop.seats client).listed? = some (.ok index))
    (moment : Moment) :
    ((workshop.finish client moment).workspace client).documents =
      (workshop.finish client moment).studio.shelf.index := by
  obtain ⟨action, awaited, listed⟩ := Option.bind_eq_some_iff.mp told
  rw [finish, awaited]
  dsimp only
  rw [workspace, sit_same, Workspace.documents_perform _ moment listed]
  exact informed index told

theorem documents_of_relists {events : List (Event Client)}
    (relists : workshop.Relists client events) :
    ((workshop.run events).workspace client).documents =
      (workshop.run events).studio.shelf.index := by
  cases relists with
  | intro earlier later event finished lists quiet succeeds =>
      obtain ⟨index, told⟩ := succeeds
      have split : earlier ++ event :: (later ++ [.finish client finished]) =
          (earlier ++ event :: later) ++ [.finish client finished] := by simp
      have reached : ((workshop.run earlier).step event).run later =
          workshop.run (earlier ++ event :: later) := by
        rw [run_append]
        rfl
      have informed := informed_run (informed_of_lists lists) quiet
      rw [reached] at informed
      rw [split, run_append]
      exact documents_finish informed told finished

/-- A client works on any documents, while others save and remove documents. Every document stands
under its own id throughout. Whenever the client has listed the documents with success it shows one
summary for each of them, the latest stamp first and of equal stamps the least id. Where the same
documents are stored, the same list is shown, by whichever client and whatever came before. -/
theorem documents_mirror_storage (documents otherDocuments : List Document)
    (highlightFor historyCap otherHighlightFor otherHistoryCap : Client → Nat)
    (client other : Client) (events otherEvents : List (Event Client)) :
    let start := opened documents highlightFor historyCap
    let final := start.run events
    let otherStart := opened otherDocuments otherHighlightFor otherHistoryCap
    let otherFinal := otherStart.run otherEvents
    final.studio.shelf.Keyed ∧
    (start.Relists client events →
      final.studio.shelf.Mirrors (final.workspace client).documents ∧
      (otherStart.Relists other otherEvents → (∀ id, final.stored? id = otherFinal.stored? id) →
        (final.workspace client).documents = (otherFinal.workspace other).documents)) := by
  intro start final otherStart otherFinal
  have orderly : final.studio.shelf.Orderly := orderly_run documents highlightFor historyCap events
  refine ⟨orderly.keyed, fun relists => ?_⟩
  have mirrors : final.studio.shelf.Mirrors (final.workspace client).documents := by
    rw [documents_of_relists relists]
    exact orderly.mirrors
  refine ⟨mirrors, fun otherRelists same => mirrors.unique ?_ same⟩
  rw [documents_of_relists otherRelists]
  exact (orderly_run otherDocuments otherHighlightFor otherHistoryCap otherEvents).mirrors

theorem saved_and_found_lists_agree :
    let moment : Moment :=
      { clock := 0, stamp := "3", versionId := fun _ => "", entryId := fun _ => ""
        documentId := "c" }
    let first : Document := { id := "a", title := "A", text := "", tags := [], updatedAt := "1" }
    let second : Document := { id := "b", title := "B", text := "", tags := [], updatedAt := "2" }
    let again : Document := { second with text := "[b]", updatedAt := "3" }
    let fresh : Document :=
      { id := "c", title := "Untitled", text := "", tags := [], updatedAt := "3" }
    let events : List (Event Bool) :=
      [.call true moment .save, .drop "b",
        .put { id := some "b", title := "B", text := "[b]", tags := [] } "" "3", .list true,
        .finish true moment]
    let otherEvents : List (Event Bool) :=
      [.call false moment .refresh, .call true moment (.load "b"), .finish false moment]
    let start := opened [first, second] (fun _ => 0) (fun _ => 1)
    let final := start.run events
    let otherStart := opened [again, fresh, first] (fun _ => 5) (fun _ => 2)
    let otherFinal := otherStart.run otherEvents
    start.Relists true events ∧ otherStart.Relists false otherEvents ∧
    (∀ id, final.stored? id = otherFinal.stored? id) ∧
    final.studio.shelf.Mirrors (final.workspace true).documents ∧
    (final.workspace true).documents = (otherFinal.workspace false).documents := by
  intro moment first second again fresh events otherEvents start final otherStart otherFinal
  have relists : start.Relists true events :=
    .intro [.call true moment .save, .drop "b",
        .put { id := some "b", title := "B", text := "[b]", tags := [] } "" "3"] []
      (.list true) moment (.again _ rfl rfl) rfl ⟨_, rfl⟩
  have otherRelists : otherStart.Relists false otherEvents :=
    .intro [] [.call true moment (.load "b")] (.call false moment .refresh) moment
      (.called moment .refresh rfl) rfl ⟨_, rfl⟩
  have same : ∀ id, final.stored? id = otherFinal.stored? id :=
    (orderly_run _ _ _ events).find?_of_perm (orderly_run _ _ _ otherEvents) (by decide +kernel)
  obtain ⟨_, shown⟩ := documents_mirror_storage [first, second] [again, fresh, first] (fun _ => 0)
    (fun _ => 1) (fun _ => 5) (fun _ => 2) true false events otherEvents
  obtain ⟨mirrors, agree⟩ := shown relists
  exact ⟨relists, otherRelists, same, mirrors, agree otherRelists same⟩

end Workshop

end Chartbook
