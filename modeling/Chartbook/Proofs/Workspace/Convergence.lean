import Chartbook.Proofs.Workspace.Baseline
import Chartbook.Proofs.Workspace.Workshop

/-!
Clients that have the same document open come to agree on it. Main statement: whoever takes over the
last stored form of a document, and leaves title, tags and text alone, shows what storage holds.
-/

namespace Chartbook

def Action.brought? : Action → Option (String × Document)
  | .load (.ok document) => some (document.id, document)
  | .save (.ok document) _ => some (document.id, document)
  | .remoteChange id (.ok document) => some (id, document)
  | .notice (.documentChanged id) (.ok document) => some (id, document)
  | _ => none

def Action.Faithful (document : Document) (action : Action) : Prop :=
  ∀ brought, action.brought? = some (document.id, brought) → brought.text = document.text

theorem Action.brought?_of_answered {action : Action} (free : action.answered = false) :
    action.brought? = none := by
  cases action <;> simp_all [answered, brought?]

theorem Action.Faithful.relisted {document : Document} {action : Action}
    (faithful : action.Faithful document) (listed : Except StorageError (List DocumentSummary)) :
    (action.relisted listed).Faithful document := by
  cases action with
  | save saved before => cases saved <;> exact faithful
  | _ => exact faithful

inductive OnRecord (before : Baseline) (action : Action) (id text : String) : Prop
  | kept (current : before.documentId = some id) (same : text = before.savedText)
  | brought (document : Document) (found : action.brought? = some (id, document))
      (same : text = document.text)

theorem BaselineStep.onRecord {before after : Baseline} (step : BaselineStep before none after)
    (action : Action) {id : String} (current : after.documentId = some id) :
    OnRecord before action id after.savedText := by
  cases step with
  | kept => exact .kept current rfl
  | fresh text => cases current

namespace Workspace

/-- The workspace shows the document, without unsaved work. -/
structure Shows (workspace : Workspace) (document : Document) : Prop where
  text : workspace.text = document.text
  title : workspace.title = document.title
  tags : workspace.tags = document.tags
  graph : workspace.graph = Graph.ofText document.text
  clean : workspace.isDirty = false

variable (workspace : Workspace) (moment : Moment)

theorem remoteChange_ok {id : String} (current : workspace.documentId = some id)
    (document : Document) :
    let next := (workspace.remoteChange moment id (.ok document)).2
    next.documentId = some id ∧ next.title = document.title ∧ next.tags = document.tags ∧
      next.text = document.text ∧ next.savedText = document.text := by
  rw [remoteChange, if_pos current]
  dsimp only
  split <;> exact ⟨current, rfl, rfl, rfl, rfl⟩

theorem onRecord_remoteChange {id : String} {loaded : Except StorageError Document}
    {action : Action}
    (brings : ∀ document, loaded = .ok document → action.brought? = some (id, document))
    {known : String}
    (current : (workspace.remoteChange moment id loaded).2.documentId = some known) :
    OnRecord workspace.baseline action known (workspace.remoteChange moment id loaded).2.savedText := by
  have step := step_baseline workspace moment (.remoteChange id loaded)
  rw [stored?, reloaded?] at step
  split at step
  · rename_i opened
    cases loaded with
    | ok document =>
        obtain ⟨still, _, _, _, saved⟩ := remoteChange_ok workspace moment opened document
        obtain rfl : id = known := Option.some.inj (still.symm.trans current)
        exact .brought document (brings document rfl) saved
    | error error => exact step.onRecord action current
  · exact step.onRecord action current

theorem onRecord_load (document : Document) {id : String}
    (current : (workspace.openDocument moment document).documentId = some id) :
    OnRecord workspace.baseline (.load (.ok document)) id
      (workspace.openDocument moment document).savedText := by
  have opened := baseline_perform workspace moment (.load (.ok document))
  have named : (if document.id = "" then none else some document.id) = some id :=
    (congrArg Baseline.documentId opened).symm.trans current
  obtain rfl : document.id = id := by
    split at named
    · cases named
    · exact Option.some.inj named
  exact .brought document rfl (congrArg Baseline.savedText opened)

theorem onRecord_save (document : Document)
    (listed : Except StorageError (List DocumentSummary)) {id : String}
    (current : (workspace.perform moment (.save (.ok document) listed)).2.documentId = some id) :
    OnRecord workspace.baseline (.save (.ok document) listed) id
      (workspace.perform moment (.save (.ok document) listed)).2.savedText := by
  have kept := baseline_perform workspace moment (.save (.ok document) listed)
  obtain rfl : document.id = id :=
    Option.some.inj ((congrArg Baseline.documentId kept).symm.trans current)
  exact .brought document rfl (congrArg Baseline.savedText kept)

theorem onRecord_perform (action : Action) {id : String}
    (current : (workspace.perform moment action).2.documentId = some id) :
    OnRecord workspace.baseline action id (workspace.perform moment action).2.savedText := by
  have step := step_baseline workspace moment action
  cases action with
  | load loaded =>
      cases loaded with
      | ok document => exact onRecord_load workspace moment document current
      | error error => exact step.onRecord _ current
  | save saved listed =>
      cases saved with
      | ok document => exact onRecord_save workspace moment document listed current
      | error error => exact step.onRecord _ current
  | remoteChange changed loaded =>
      exact onRecord_remoteChange workspace moment (fun document ok => by rw [ok]; rfl) current
  | notice notice loaded =>
      cases notice with
      | documentChanged changed =>
          exact onRecord_remoteChange workspace moment (fun document ok => by rw [ok]; rfl) current
      | connected => exact step.onRecord _ current
      | disconnected => exact step.onRecord _ current
  | _ => exact step.onRecord _ current

end Workspace

structure Shelf.Holds (shelf : Shelf) (document : Document) : Prop where
  keyed : shelf.Keyed
  found : shelf.find? document.id = some document

theorem Shelf.Holds.written {shelf : Shelf} {document : Document} (holds : shelf.Holds document)
    {writes : List Shelf.Write} (untouched : ∀ write ∈ writes, write.id ≠ document.id) :
    (shelf.written writes).Holds document where
  keyed := holds.keyed.written writes
  found := (shelf.find?_written_of_ne untouched).trans holds.found

namespace Studio

variable {studio : Studio} {document : Document}

theorem find?_of_loaded {id : String} {loaded : Document} (answer : studio.loaded id = .ok loaded) :
    studio.shelf.find? id = some loaded := by
  rw [Studio.loaded, Studio.answer] at answer
  split at answer
  · cases answer
  · rw [Shelf.load] at answer
    split at answer
    · cases answer
      assumption
    · cases answer

theorem loaded_eq (holds : studio.shelf.Holds document) {loaded : Document}
    (answer : studio.loaded document.id = .ok loaded) : loaded = document :=
  Option.some.inj ((find?_of_loaded answer).symm.trans holds.found)

theorem faithful_of_loaded (holds : studio.shelf.Holds document) (id : String) {action : Action}
    (brings : action.brought? = (studio.loaded id).toOption.map fun loaded => (id, loaded)) :
    action.Faithful document := by
  intro brought found
  rw [brings] at found
  cases answer : studio.loaded id with
  | ok loaded =>
      rw [answer] at found
      obtain ⟨rfl, rfl⟩ := Prod.mk.inj (Option.some.inj found)
      rw [loaded_eq holds answer]
  | error error =>
      rw [answer] at found
      cases found

theorem faithful_resolve (holds : studio.shelf.Holds document) (workspace : Workspace)
    (moment : Moment) {command : Command} (genuine : command.genuine)
    (untouched : ∀ write ∈ studio.write? workspace moment command, write.id ≠ document.id) :
    (studio.resolve workspace moment command).1.Faithful document := by
  cases command with
  | act action =>
      intro brought found
      have free : action.answered = false := by simpa [Command.genuine] using genuine
      rw [resolve, Action.brought?_of_answered free] at found
      cases found
  | remoteChange id =>
      refine faithful_of_loaded holds id ?_
      rw [resolve]
      cases studio.loaded id <;> rfl
  | notice notice =>
      cases notice with
      | documentChanged id =>
          refine faithful_of_loaded holds id ?_
          rw [resolve]
          cases studio.loaded id <;> rfl
      | connected => exact fun brought found => by cases found
      | disconnected => exact fun brought found => by cases found
  | refresh => exact fun brought found => by cases found
  | load id =>
      refine faithful_of_loaded holds id ?_
      rw [resolve]
      cases answer : studio.loaded id with
      | ok loaded =>
          have named : loaded.id = id := holds.keyed.id_eq (find?_of_loaded answer)
          rw [Action.brought?, named]
          rfl
      | error error => rfl
  | save =>
      intro brought found
      by_cases outage : .save ∈ studio.outages
      · simp [resolve, saved, outage, Action.brought?] at found
      · simp only [resolve, saved, outage, if_false] at found
        obtain ⟨named, -⟩ := Prod.mk.inj (Option.some.inj found)
        exact absurd named (untouched (.saved _) (if_neg outage))
  | delete id => exact fun brought found => by cases found

end Studio

/-- The client has on record the text that storage has, now and when it finishes. -/
structure Seat.Current (seat : Seat) (document : Document) : Prop where
  onRecord : seat.workspace.documentId = some document.id →
    seat.workspace.savedText = document.text
  awaited : ∀ action, seat.awaited = some action → action.Faithful document

namespace Workshop

variable {Client : Type} [DecidableEq Client] {workshop : Workshop Client} {document : Document}

theorem holds_run (holds : workshop.studio.shelf.Holds document) {events : List (Event Client)}
    (untouched : ∀ write ∈ workshop.writes events, write.id ≠ document.id) :
    (workshop.run events).studio.shelf.Holds document := by
  rw [shelf_run]
  exact holds.written untouched

theorem current_step (holds : workshop.studio.shelf.Holds document) {client : Client}
    (current : (workshop.seats client).Current document) {event : Event Client}
    (untouched : ∀ write ∈ workshop.write? event, write.id ≠ document.id) :
    ((workshop.step event).seats client).Current document := by
  have step := seat_step workshop client event
  generalize (workshop.step event).seats client = seat at step
  cases step with
  | same => exact current
  | called moment command ready =>
      refine { onRecord := current.onRecord, awaited := ?_ }
      rintro _ ⟨⟩
      rw [write?, if_pos ready] at untouched
      exact Studio.faithful_resolve holds _ moment (by simp_all [Workshop.ready]) untouched
  | listed =>
      refine { onRecord := current.onRecord, awaited := ?_ }
      intro action waits
      obtain ⟨before, awaited, rfl⟩ := Option.map_eq_some_iff.mp waits
      exact (current.awaited before awaited).relisted _
  | finished moment action awaited =>
      refine { onRecord := fun opened => ?_, awaited := fun action waits => by cases waits }
      cases Workspace.onRecord_perform _ moment action opened with
      | kept before same => exact same.trans (current.onRecord before)
      | brought loaded found same => exact same.trans (current.awaited action awaited loaded found)

theorem current_run (holds : workshop.studio.shelf.Holds document) {client : Client}
    (current : (workshop.seats client).Current document) {events : List (Event Client)}
    (untouched : ∀ write ∈ workshop.writes events, write.id ≠ document.id) :
    ((workshop.run events).seats client).Current document := by
  induction events generalizing workshop with
  | nil => exact current
  | cons event rest ih =>
      have now : ∀ write ∈ (workshop.write? event).toList, write.id ≠ document.id :=
        fun write member => untouched write (List.mem_append_left _ member)
      refine ih ?_ (current_step holds current fun write member => now write (by simpa using member))
        fun write member => untouched write (List.mem_append_right _ member)
      rw [shelf_step]
      exact holds.written now

/-! Taking over a document. -/

/-- In the course of the events the client, which has the document open, hears that it changed and
loads it. In the end the document is open, with title, tags and text as they were then. -/
inductive Heeds (workshop : Workshop Client) (client : Client) (id : String) :
    List (Event Client) → Prop
  | intro (before between after : List (Event Client)) (asked heard : Moment)
      (idle : ((workshop.run before).seats client).awaited = none)
      (opened : ((workshop.run before).workspace client).documentId = some id)
      (succeeds : ((workshop.run before).studio.loaded id).toOption.isSome)
      (waits : ∀ moment, .finish client moment ∉ between)
      (kept :
        let call : Event Client := .call client asked (.notice (.documentChanged id))
        let taken := workshop.run (before ++ call :: (between ++ [.finish client heard]))
        let handled := taken.workspace client
        let last := (taken.run after).workspace client
        last.documentId = some id ∧ last.title = handled.title ∧ last.tags = handled.tags ∧
          last.text = handled.text) :
      Heeds workshop client id
        (before ++ .call client asked (.notice (.documentChanged id)) ::
          (between ++ .finish client heard :: after))

theorem holds_saved {event : Event Client} (keyed : workshop.studio.shelf.Keyed)
    (saved : workshop.write? event = some (.saved document)) :
    (workshop.step event).studio.shelf.Holds document := by
  have written : (workshop.step event).studio.shelf =
      workshop.studio.shelf.insert document.id document := by
    rw [shelf_step, saved]
    rfl
  rw [written]
  exact { keyed := keyed.insert document, found := Shelf.find?_insert_self _ }

theorem seat_waits {client : Client} {action : Action}
    (unlisted : ∀ listed, action.relisted listed = action)
    (awaited : (workshop.seats client).awaited = some action) {events : List (Event Client)}
    (waits : ∀ moment, .finish client moment ∉ events) :
    (workshop.run events).seats client = workshop.seats client := by
  induction events generalizing workshop with
  | nil => rfl
  | cons event rest ih =>
      have still : (workshop.step event).seats client = workshop.seats client := by
        have step := seat_step workshop client event
        generalize (workshop.step event).seats client = seat at step
        cases step with
        | same => rfl
        | called moment command ready => simp [Workshop.ready, awaited] at ready
        | listed => rw [awaited, Option.map_some, unlisted, ← awaited]
        | finished moment => exact absurd List.mem_cons_self (waits moment)
      refine (ih ?_ fun moment member => waits moment (List.mem_cons_of_mem _ member)).trans still
      rw [still, awaited]

theorem seat_heeds (holds : workshop.studio.shelf.Holds document) {client : Client}
    (idle : (workshop.seats client).awaited = none)
    (succeeds : (workshop.studio.loaded document.id).toOption.isSome) (asked heard : Moment)
    {between : List (Event Client)} (waits : ∀ moment, .finish client moment ∉ between) :
    (workshop.run (.call client asked (.notice (.documentChanged document.id)) ::
        (between ++ [.finish client heard]))).seats client =
      { workspace := ((workshop.workspace client).remoteChange heard document.id (.ok document)).2
        awaited := none } := by
  have ready : workshop.ready client (.notice (.documentChanged document.id)) := by
    simp [Workshop.ready, idle, Command.genuine]
  have loaded : workshop.studio.loaded document.id = .ok document := by
    cases answer : workshop.studio.loaded document.id with
    | ok loaded => rw [Studio.loaded_eq holds answer]
    | error error => simp [answer, Except.toOption] at succeeds
  have called : (workshop.call client asked (.notice (.documentChanged document.id))).seats client =
      { workshop.seats client with
        awaited := some (.notice (.documentChanged document.id) (.ok document)) } := by
    rw [call, if_pos ready]
    dsimp only
    rw [sit_same, Studio.resolve, loaded]
  have waited := seat_waits (fun _ => rfl) (congrArg Seat.awaited called) waits
  have last (reached : Workshop Client) :
      reached.run [.finish client heard] = reached.finish client heard := rfl
  rw [run, List.foldl_cons, ← run, run_append, step, last, finish, waited, called]
  exact sit_same _ client _

theorem onRecord_run (holds : workshop.studio.shelf.Holds document) {client : Client}
    (idle : (workshop.seats client).awaited = none)
    (saved : (workshop.workspace client).savedText = document.text) {events : List (Event Client)}
    (untouched : ∀ write ∈ workshop.writes events, write.id ≠ document.id)
    (opened : ((workshop.run events).workspace client).documentId = some document.id) :
    ((workshop.run events).workspace client).savedText = document.text := by
  have current : (workshop.seats client).Current document :=
    { onRecord := fun _ => saved
      awaited := fun action waits => by
        rw [idle] at waits
        cases waits }
  exact (current_run holds current untouched).onRecord opened

theorem shows_of_heeds (holds : workshop.studio.shelf.Holds document) {client : Client}
    {events : List (Event Client)}
    (untouched : ∀ write ∈ workshop.writes events, write.id ≠ document.id)
    (consistent : ((workshop.run events).workspace client).sheet.Consistent)
    (heeds : workshop.Heeds client document.id events) :
    ((workshop.run events).workspace client).Shows document := by
  cases heeds with
  | intro before between after asked heard idle opened succeeds waits kept =>
      dsimp only at kept
      generalize noticed :
        Event.call client asked (.notice (.documentChanged document.id)) ::
          (between ++ [.finish client heard]) = notice at kept
      have split : before ++ .call client asked (.notice (.documentChanged document.id)) ::
          (between ++ .finish client heard :: after) = before ++ (notice ++ after) := by
        simp [← noticed]
      rw [split] at untouched consistent ⊢
      simp only [run_append, writes_append, List.forall_mem_append] at untouched consistent kept ⊢
      obtain ⟨early, middle, late⟩ := untouched
      have asking := holds_run holds early
      have taking := holds_run asking middle
      have taken := seat_heeds asking idle succeeds asked heard waits
      rw [noticed] at taken
      have handled : ((workshop.run before).run notice).workspace client =
          (((workshop.run before).workspace client).remoteChange heard document.id
            (.ok document)).2 := congrArg Seat.workspace taken
      obtain ⟨_, title, tags, text, saved⟩ := Workspace.remoteChange_ok _ heard opened document
      rw [handled] at kept
      obtain ⟨stays, sameTitle, sameTags, sameText⟩ := kept
      have shown := sameText.trans text
      have onRecord := onRecord_run taking (congrArg Seat.awaited taken)
        ((congrArg Workspace.savedText handled).trans saved) late stays
      exact
        { text := shown
          title := sameTitle.trans title
          tags := sameTags.trans tags
          graph := consistent.graph.trans (congrArg Graph.ofText shown)
          clean := bne_eq_false_iff_eq.mpr (shown.trans onRecord.symm) }

/-- Take any clients of one storage, with others who save and remove documents directly, and let them
work in any order. Once nobody writes a document after it was saved, every client that then takes it
over, and leaves title, tags and text alone from there on, shows it as storage holds it. -/
theorem clients_converge (documents : List Document) (highlightFor historyCap : Client → Nat)
    (earlier later : List (Event Client)) (save : Event Client) (document : Document) :
    let before := (opened documents highlightFor historyCap).run earlier
    let after := before.step save
    let final := after.run later
    before.write? save = some (.saved document) →
    (∀ write ∈ after.writes later, write.id ≠ document.id) →
    final.stored? document.id = some document ∧
    ∀ client, after.Heeds client document.id later → (final.workspace client).Shows document := by
  intro before after final saved untouched
  have keyed : before.studio.shelf.Keyed := by
    rw [shelf_run]
    exact (Shelf.keyed_ofDocuments documents).written _
  have holds : after.studio.shelf.Holds document := holds_saved keyed saved
  have consistent (client : Client) : (final.workspace client).sheet.Consistent := by
    have whole := consistent_seat (opened documents highlightFor historyCap) client
      (Workspace.consistent_make _ _) (earlier ++ save :: later)
    rwa [run_append] at whole
  exact ⟨(holds_run holds untouched).found,
    fun client => shows_of_heeds holds untouched (consistent client)⟩

theorem both_show_saved_plan :
    let moment : Moment :=
      { clock := 0, stamp := "2", versionId := fun _ => "", entryId := fun _ => ""
        documentId := "" }
    let plan : Document :=
      { id := "d", title := "Plan", text := "[a] -> [b]", tags := ["draft"], updatedAt := "1" }
    let saved : Document := { plan with title := "Plan B", text := "[a] -> [c]", updatedAt := "2" }
    let told : Command := .notice (.documentChanged saved.id)
    let earlier : List (Event Bool) :=
      [.call true moment (.load "d"), .call false moment (.load "d"), .finish false moment,
        .finish true moment, .call true moment (.act (.setText "[a] -> [c]" .user)),
        .call false moment (.act (.setText "[b]" .user)), .finish true moment,
        .call true moment (.act (.setTitle " Plan B ")), .finish true moment,
        .finish false moment]
    let save : Event Bool := .call true moment .save
    let later : List (Event Bool) :=
      [.finish true moment, .call false moment told, .call true moment told, .drop "e",
        .finish true moment, .finish false moment]
    let before := (opened [plan] (fun _ => 0) (fun _ => 1)).run earlier
    let after := before.step save
    let final := after.run later
    before.write? save = some (.saved saved) ∧ (∀ write ∈ after.writes later, write.id ≠ saved.id) ∧
    (∀ client, after.Heeds client saved.id later) ∧
    final.stored? saved.id = some saved ∧ ∀ client, (final.workspace client).Shows saved := by
  intro moment plan saved told earlier save later before after final
  have stored : before.write? save = some (.saved saved) := by decide +kernel
  have untouched : ∀ write ∈ after.writes later, write.id ≠ saved.id := by decide +kernel
  have heeds : ∀ client, after.Heeds client saved.id later
    | false =>
        .intro [.finish true moment] [.call true moment told, .drop "e", .finish true moment] []
          moment moment (Option.isNone_iff_eq_none.mp (by decide +kernel)) (by decide +kernel)
          (by decide +kernel) (by simp) (by decide +kernel)
    | true =>
        .intro [.finish true moment, .call false moment told] [.drop "e"] [.finish false moment]
          moment moment (Option.isNone_iff_eq_none.mp (by decide +kernel)) (by decide +kernel)
          (by decide +kernel) (by simp) (by decide +kernel)
  obtain ⟨found, shown⟩ :=
    clients_converge [plan] (fun _ => 0) (fun _ => 1) earlier later save saved stored untouched
  exact ⟨stored, untouched, heeds, found, fun client => shown client (heeds client)⟩

end Workshop

end Chartbook
