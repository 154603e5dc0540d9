import Chartbook.Proofs.Workspace.Separation

/-!
How long a change stays highlighted. Main statement: at any time the highlight is what the last text
that was written says of it, and dropping expired highlights now and then does not show.
-/

namespace Chartbook

/-- A text that is written: into the open document, with the changes to its chart, or by opening
another document. -/
inductive TextWrite where
  | edited (clock : Nat) (changes : ChangeSet)
  | opened
  deriving DecidableEq, Repr

def TextWrite.shown? (window clock : Nat) : TextWrite → Option ChangeSet
  | edited written changes => if clock < written + window then some changes else none
  | opened => none

theorem TextWrite.shown?_eq_some_iff {window clock : Nat} {write : TextWrite}
    {changes : ChangeSet} :
    write.shown? window clock = some changes ↔
      ∃ written, write = .edited written changes ∧ clock < written + window := by
  cases write with
  | edited written found =>
      rw [shown?]
      constructor
      · intro shown
        split at shown
        · rename_i early
          cases shown
          exact ⟨written, rfl, early⟩
        · cases shown
      · rintro ⟨_, ⟨⟩, early⟩
        exact if_pos early
  | opened => simp [shown?]

def Effect.write? (clock : Nat) (chart : Graph) : Effect → Option TextWrite
  | opened _ _ _ => some .opened
  | effect => effect.wrote?.map fun (text, source) =>
      .edited clock (chart.changes (Graph.ofText text) source)

def Highlight.shown? (highlight : Highlight) (clock : Nat) : Option ChangeSet :=
  if clock < highlight.expiresAt then some highlight.changes else none

namespace Workspace

theorem highlighted?_eq (workspace : Workspace) (clock : Nat) :
    workspace.highlighted? clock = workspace.highlight.bind (·.shown? clock) := by
  cases found : workspace.highlight with
  | none => rw [highlighted?, found, Option.filter_none, Option.map_none, Option.bind_none]
  | some highlight =>
      rw [highlighted?, found, Option.bind_some, Highlight.shown?, Option.filter]
      by_cases early : clock < highlight.expiresAt <;> simp [early]

/-- The text that an action writes into the open document, and whose change that is. -/
def rewrite? (workspace : Workspace) : Action → Option (String × ChangeSource)
  | .setText text source => some (text, source)
  | .canvasEdit graph => some (FlowText.splice workspace.text graph.withoutDangling, .user)
  | .applySuggestion =>
      (workspace.pending.bind (·.proposedText)).map fun text => (text, .agent)
  | .restore id => (workspace.history.find? id).map fun entry => (entry.text, .user)
  | .remoteChange id loaded => (workspace.reloaded? id loaded).map fun text => (text, .remote)
  | .notice (.documentChanged id) loaded =>
      (workspace.reloaded? id loaded).map fun text => (text, .remote)
  | _ => none

/-- What an action writes at the given time, with the changes from the chart of the text before it to
the chart of the new text. -/
def write? (workspace : Workspace) (clock : Nat) (action : Action) : Option TextWrite :=
  if workspace.opens action then some .opened
  else (workspace.rewrite? action).map fun (text, source) =>
    .edited clock ((Graph.ofText workspace.text).changes (Graph.ofText text) source)

variable (workspace : Workspace)

theorem write?_eq (clock : Nat) (action : Action) :
    workspace.write? clock action =
      (workspace.effect action).write? clock (Graph.ofText workspace.text) := by
  cases action with
  | applySuggestion =>
      rw [effect]
      cases found : workspace.pending.bind (·.proposedText) <;>
        simp [write?, opens, rewrite?, found, Effect.write?, Effect.wrote?]
  | restore id =>
      rw [effect]
      cases found : workspace.history.find? id <;>
        simp [write?, opens, rewrite?, found, Effect.write?, Effect.wrote?]
  | remoteChange id loaded =>
      rw [effect]
      cases found : workspace.reloaded? id loaded <;>
        simp [write?, opens, rewrite?, found, Effect.write?, Effect.wrote?]
  | notice notice loaded =>
      cases notice with
      | documentChanged id =>
          rw [effect]
          cases found : workspace.reloaded? id loaded <;>
            simp [write?, opens, rewrite?, found, Effect.write?, Effect.wrote?]
      | _ => rfl
  | applyTemplate id =>
      rw [effect]
      cases found : Template.find? id <;>
        simp [write?, opens, rewrite?, found, Effect.write?, Effect.wrote?]
  | delete id deleted listed =>
      cases deleted with
      | error error => rfl
      | ok done =>
          rw [effect]
          split <;> simp_all [write?, opens, rewrite?, Effect.write?, Effect.wrote?, Except.toOption]
  | load loaded => cases loaded <;> rfl
  | save saved listed => cases saved <;> rfl
  | _ => rfl

theorem bind_shown?_filter (highlight : Option Highlight) {clock later : Nat}
    (passed : clock ≤ later) :
    (highlight.filter fun highlight => clock < highlight.expiresAt).bind (·.shown? later) =
      highlight.bind (·.shown? later) := by
  cases highlight with
  | none => rfl
  | some highlight =>
      rw [Option.filter_some]
      split
      · rfl
      · rename_i expired
        have past : ¬later < highlight.expiresAt := by
          rw [decide_eq_true_eq] at expired
          omega
        rw [Option.bind_none, Option.bind_some, Highlight.shown?, if_neg past]

theorem highlighted?_perform (consistent : workspace.sheet.Consistent) (moment : Moment)
    (action : Action) {later : Nat} (passed : moment.clock ≤ later) :
    (workspace.perform moment action).2.highlighted? later =
      (workspace.write? moment.clock action).elim (workspace.highlighted? later)
        (·.shown? workspace.highlightFor later) := by
  have read (next : Workspace) :
      next.highlighted? later = next.sheet.highlight.bind (·.shown? later) :=
    highlighted?_eq next later
  have charted : workspace.graph = Graph.ofText workspace.text := consistent.graph
  rw [read, sheet_perform, write?_eq, ← charted]
  cases workspace.effect action with
  | written text source => rfl
  | reloaded text => rfl
  | opened documentId text savedText => rfl
  | swept => exact (bind_shown?_filter workspace.highlight passed).trans (read workspace).symm
  | _ => exact (read workspace).symm

theorem write?_of_alike {lit : Prop} {left right : Workspace} (alike : Alike lit left right)
    (clock : Nat) (action : Action) : left.write? clock action = right.write? clock action := by
  refine alike.reads (·.write? clock action) fun workspace => ?_
  cases action <;> rfl

end Workspace

inductive Occurrence where
  | pause (duration : Nat)
  | act (moment : Moment) (action : Action)

def Occurrence.sweeps : Occurrence → Bool
  | .act _ .clearExpiredHighlight => true
  | _ => false

theorem Occurrence.eq_of_sweeps {occurrence : Occurrence} (sweeps : occurrence.sweeps) :
    ∃ moment, occurrence = .act moment .clearExpiredHighlight := by
  cases occurrence with
  | pause duration => cases sweeps
  | act moment action =>
      cases action with
      | clearExpiredHighlight => exact ⟨moment, rfl⟩
      | _ => cases sweeps

/-- A workspace and the time. What is done takes no time. -/
structure Timeline where
  clock : Nat
  workspace : Workspace

namespace Timeline

def start (clock highlightFor historyCap : Nat) : Timeline :=
  { clock, workspace := Workspace.make highlightFor historyCap }

def step (timeline : Timeline) : Occurrence → Timeline
  | .pause duration => { timeline with clock := timeline.clock + duration }
  | .act moment action =>
      let now := { moment with clock := timeline.clock }
      { timeline with workspace := (timeline.workspace.perform now action).2 }

def run (timeline : Timeline) (occurrences : List Occurrence) : Timeline :=
  occurrences.foldl step timeline

def highlighted? (timeline : Timeline) : Option ChangeSet :=
  timeline.workspace.highlighted? timeline.clock

def write? (timeline : Timeline) : Occurrence → Option TextWrite
  | .pause _ => none
  | .act _ action => timeline.workspace.write? timeline.clock action

def writes (timeline : Timeline) : List Occurrence → List TextWrite
  | [] => []
  | occurrence :: rest =>
      (timeline.write? occurrence).toList ++ writes (timeline.step occurrence) rest

/-- From now on the highlight is what the last text that was written says of it. -/
structure Shows (timeline : Timeline) (window : Nat) (last : Option TextWrite) : Prop where
  consistent : timeline.workspace.sheet.Consistent
  lasting : timeline.workspace.highlightFor = window
  shown : ∀ later, timeline.clock ≤ later →
    timeline.workspace.highlighted? later = last.bind (·.shown? window later)

theorem shows_start (clock highlightFor historyCap : Nat) :
    (start clock highlightFor historyCap).Shows highlightFor none where
  consistent := Workspace.consistent_make highlightFor historyCap
  lasting := rfl
  shown := fun _ _ => rfl

theorem Shows.step {timeline : Timeline} {window : Nat} {last : Option TextWrite}
    (shows : timeline.Shows window last) (occurrence : Occurrence) :
    (timeline.step occurrence).Shows window ((timeline.write? occurrence).or last) := by
  cases occurrence with
  | pause duration =>
      exact
        { consistent := shows.consistent
          lasting := shows.lasting
          shown := fun later passed => shows.shown later (Nat.le_of_add_right_le passed) }
  | act moment action =>
      let now := { moment with clock := timeline.clock }
      have sheet := timeline.workspace.sheet_perform now action
      refine
        { consistent := by rw [Timeline.step, sheet]; exact shows.consistent.after _ _
          lasting := (timeline.workspace.highlightFor_perform now action).trans shows.lasting
          shown := fun later passed => ?_ }
      refine (timeline.workspace.highlighted?_perform shows.consistent now action passed).trans ?_
      rw [write?, shows.lasting, shows.shown later passed]
      cases timeline.workspace.write? timeline.clock action <;> rfl

theorem Shows.run {timeline : Timeline} {window : Nat} {last : Option TextWrite}
    (shows : timeline.Shows window last) (occurrences : List Occurrence) :
    (timeline.run occurrences).Shows window ((timeline.writes occurrences).getLast?.or last) := by
  induction occurrences generalizing timeline last with
  | nil => exact shows
  | cons first rest ih =>
      have further := ih (shows.step first)
      have last : (timeline.write? first).toList.getLast? = timeline.write? first := by
        cases timeline.write? first <;> rfl
      rw [writes, List.getLast?_append, last, Option.or_assoc]
      exact further

/-! Dropping expired highlights. -/

/-- Two timelines differ at most in what outlasts a document and in the highlight. -/
structure Alike (left right : Timeline) : Prop where
  clock : left.clock = right.clock
  workspace : left.workspace.Alike False right.workspace

namespace Alike

variable {left right : Timeline}

theorem step (alike : Alike left right) (occurrence : Occurrence) :
    Alike (left.step occurrence) (right.step occurrence) := by
  cases occurrence with
  | pause duration => exact ⟨congrArg (· + duration) alike.clock, alike.workspace⟩
  | act moment action =>
      refine ⟨alike.clock, ?_⟩
      rw [Timeline.step, Timeline.step, alike.clock]
      exact alike.workspace.perform _ action

theorem sweep (alike : Alike left right) {occurrence : Occurrence} (sweeps : occurrence.sweeps) :
    Alike left (right.step occurrence) := by
  obtain ⟨moment, rfl⟩ := Occurrence.eq_of_sweeps sweeps
  exact ⟨alike.clock,
    alike.workspace.trans (Workspace.Alike.swept { moment with clock := right.clock } _).symm⟩

theorem write? (alike : Alike left right) (occurrence : Occurrence) :
    left.write? occurrence = right.write? occurrence := by
  cases occurrence with
  | pause duration => rfl
  | act moment action =>
      rw [Timeline.write?, Timeline.write?, alike.clock]
      exact Workspace.write?_of_alike alike.workspace right.clock action

theorem unswept (alike : Alike left right) (occurrences : List Occurrence) :
    Alike (left.run (occurrences.filter (!·.sweeps))) (right.run occurrences) ∧
      left.writes (occurrences.filter (!·.sweeps)) = right.writes occurrences := by
  induction occurrences generalizing left right with
  | nil => exact ⟨alike, rfl⟩
  | cons first rest ih =>
      by_cases sweeps : first.sweeps
      · have silent : right.write? first = none := by
          obtain ⟨moment, rfl⟩ := Occurrence.eq_of_sweeps sweeps
          rfl
        rw [List.filter_cons_of_neg (by simp [sweeps]), writes, silent]
        exact ih (alike.sweep sweeps)
      · rw [List.filter_cons_of_pos (by simp [sweeps]), writes, writes, alike.write?]
        obtain ⟨together, written⟩ := ih (alike.step first)
        exact ⟨together, congrArg _ written⟩

end Alike

/-- Whatever is done and however long it takes, something is highlighted exactly if the last text that
was written was written into the open document, and its window has not passed; then it is the changes
of that text. Runs that differ only in when expired highlights are dropped show the same. -/
theorem highlight_window (clock highlightFor historyCap : Nat) (occurrences : List Occurrence) :
    let start := Timeline.start clock highlightFor historyCap
    let reached := start.run occurrences
    (∀ changes, reached.highlighted? = some changes ↔ ∃ written,
      (start.writes occurrences).getLast? = some (.edited written changes) ∧
      reached.clock < written + highlightFor) ∧
    ∀ others, others.filter (!·.sweeps) = occurrences.filter (!·.sweeps) →
      (start.run others).clock = reached.clock ∧
      (start.run others).highlighted? = reached.highlighted? := by
  intro start reached
  have shown (occurrences : List Occurrence) : (start.run occurrences).highlighted? =
      (start.writes occurrences).getLast?.bind
        (·.shown? highlightFor (start.run occurrences).clock) := by
    have shows := (shows_start clock highlightFor historyCap).run occurrences
    rw [Option.or_none] at shows
    exact shows.shown _ (Nat.le_refl _)
  constructor
  · intro changes
    rw [shown, Option.bind_eq_some_iff]
    constructor
    · rintro ⟨write, last, found⟩
      obtain ⟨written, rfl, early⟩ := TextWrite.shown?_eq_some_iff.mp found
      exact ⟨written, last, early⟩
    · rintro ⟨written, last, early⟩
      exact ⟨_, last, TextWrite.shown?_eq_some_iff.mpr ⟨written, rfl, early⟩⟩
  · intro others same
    have alike : Alike start start := ⟨rfl, rfl, False.elim⟩
    obtain ⟨first, written⟩ := alike.unswept others
    obtain ⟨second, known⟩ := alike.unswept occurrences
    rw [same] at first written
    have together : (start.run others).clock = reached.clock :=
      first.clock.symm.trans second.clock
    exact ⟨together, by rw [shown, shown, together, ← written, ← known]⟩

theorem shown_through_fourth_tick :
    let moment : Moment :=
      { clock := 0, stamp := "", versionId := fun _ => "", entryId := fun _ => "", documentId := "" }
    let typed : Occurrence := .act moment (.setText "```flow\n[a]\n```" .user)
    let sweep : Occurrence := .act moment .clearExpiredHighlight
    let changes : ChangeSet := { source := .user, nodeIds := ["a"], edgeIds := [] }
    let start := Timeline.start 10 5 1
    (start.run [.pause 1, typed, .pause 2, .pause 2]).highlighted? = some changes ∧
    (start.run [sweep, .pause 1, typed, .pause 2, sweep, .pause 2]).highlighted? = some changes ∧
    (start.run [.pause 1, typed, .pause 5]).highlighted? = none := by
  intro moment typed sweep changes start
  obtain ⟨shown, unswept⟩ := highlight_window 10 5 1 [.pause 1, typed, .pause 2, .pause 2]
  have seen : (start.run [.pause 1, typed, .pause 2, .pause 2]).highlighted? = some changes :=
    (shown changes).mpr ⟨11, by decide +kernel, by decide⟩
  have same := unswept [sweep, .pause 1, typed, .pause 2, sweep, .pause 2] (by rfl)
  exact ⟨seen, same.2.trans seen, by decide +kernel⟩

end Timeline

end Chartbook
