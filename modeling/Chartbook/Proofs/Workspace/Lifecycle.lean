import Chartbook.Proofs.Workspace.Moves
import Mathlib.Data.List.Induction

/-!
The exchange with the agent over a whole run. Main statement: the chat, the pending suggestion and the
status can be read off the episodes of the run: the requests made, what became of them, and the
documents opened.
-/

namespace Chartbook

/-- An action that the exchange with the agent takes note of. A request comes with its moment and with
the chart that was shown then. -/
inductive Episode where
  | asked (moment : Moment) (words : String) (graph : Graph)
      (answer : Except SuggestError Suggestion)
  | applied
  | discarded
  | opened

/-- A suggestion with its impact on the given chart. One without a text keeps the impact it has. -/
def Suggestion.against (suggestion : Suggestion) (graph : Graph) : Suggestion :=
  { suggestion with
    impact := match suggestion.proposedText with
      | some text => graph.impact (Graph.ofText text)
      | none => suggestion.impact }

namespace Episode

/-- What the agent says to a request. -/
def reply (moment : Moment) : Except SuggestError Suggestion → ChatEntry
  | .ok suggestion =>
      { id := moment.entryId 1, role := .agent, text := suggestion.summary
        suggestionId := some suggestion.id, timestamp := moment.stamp }
  | .error error =>
      { id := moment.entryId 1, role := .error, text := error.report.describe
        suggestionId := none, timestamp := moment.stamp }

def entries : Episode → List ChatEntry
  | asked moment words _ answer =>
      [{ id := moment.entryId 0, role := .user, text := words, suggestionId := none
         timestamp := moment.stamp }, reply moment answer]
  | _ => []

def movesPending : Episode → Bool
  | asked _ _ _ (.error _) => false
  | _ => true

def proposal? : Episode → Option Suggestion
  | asked _ _ graph (.ok suggestion) => some (suggestion.against graph)
  | _ => none

def movesStatus : Episode → Bool
  | asked _ _ _ _ => true
  | opened => true
  | _ => false

def statusAfter : Episode → AgentStatus
  | asked _ _ _ (.error _) => .error
  | _ => .idle

end Episode

structure Exchange where
  chat : List ChatEntry
  pending : Option Suggestion
  status : AgentStatus

def Exchange.after (exchange : Exchange) (episode : Episode) : Exchange :=
  { chat := exchange.chat ++ episode.entries
    pending := if episode.movesPending then episode.proposal? else exchange.pending
    status := if episode.movesStatus then episode.statusAfter else exchange.status }

def Exchange.move (exchange : Exchange) : Move → Exchange
  | .status status => { exchange with status }
  | .drop => { exchange with pending := none }
  | .say entry => { exchange with chat := exchange.chat ++ [entry] }
  | .propose suggestion => { exchange with pending := some suggestion }
  | _ => exchange

@[simp]
theorem Exchange.after_applied (exchange : Exchange) :
    exchange.after .applied = { exchange with pending := none } := by
  simp [after, Episode.entries, Episode.movesPending, Episode.proposal?, Episode.movesStatus]

@[simp]
theorem Exchange.after_discarded (exchange : Exchange) :
    exchange.after .discarded = { exchange with pending := none } := by
  simp [after, Episode.entries, Episode.movesPending, Episode.proposal?, Episode.movesStatus]

@[simp]
theorem Exchange.after_opened (exchange : Exchange) :
    exchange.after .opened = { exchange with pending := none, status := .idle } := by
  simp [after, Episode.entries, Episode.movesPending, Episode.proposal?, Episode.movesStatus,
    Episode.statusAfter]

theorem Exchange.after_asked (exchange : Exchange) (moment : Moment) (words : String) (graph : Graph)
    (answer : Except SuggestError Suggestion) :
    exchange.after (.asked moment words graph answer) =
      { chat := exchange.chat ++ (Episode.asked moment words graph answer).entries
        pending := match answer with
          | .ok suggestion => some (suggestion.against graph)
          | .error _ => exchange.pending
        status := match answer with
          | .ok _ => .idle
          | .error _ => .error } := by
  cases answer <;> rfl

namespace Workspace

def exchange (workspace : Workspace) : Exchange :=
  { chat := workspace.chat, pending := workspace.pending, status := workspace.status }

def episode? (workspace : Workspace) (moment : Moment) : Action → Option Episode
  | .request message answer =>
      (Text.nonBlank? message).map fun words => .asked moment words workspace.graph answer
  | .applySuggestion => some .applied
  | .discardSuggestion => some .discarded
  | action => if workspace.opens action then some .opened else none

def episodes (workspace : Workspace) : List (Moment × Action) → List Episode
  | [] => []
  | (moment, action) :: rest =>
      (workspace.episode? moment action).toList
        ++ episodes (workspace.perform moment action).2 rest

variable (workspace : Workspace) (moment : Moment)

theorem exchange_move (change : Move) :
    (workspace.move moment change).exchange = workspace.exchange.move change := by
  cases change with
  | sweep =>
      rw [move, clearExpiredHighlight_frame]
      rfl
  | turn direction =>
      rw [move, setDirection_frame]
      rfl
  | status status =>
      rw [move, setStatus_frame]
      rfl
  | saving saving =>
      rw [move, setSaving_frame]
      rfl
  | connected connected =>
      rw [move, setConnected_frame]
      rfl
  | drop =>
      rw [move, dropPending_frame]
      rfl
  | _ => rfl

theorem weigh_eq_against (suggestion : Suggestion) :
    workspace.weigh suggestion = suggestion.against workspace.graph := by
  obtain ⟨id, proposedText, summary, impact, trace, executionMs⟩ := suggestion
  cases proposedText <;> rfl

theorem exchange_opening (exchange : Exchange) (document : Document) :
    document.opening.foldl Exchange.move exchange = exchange.after .opened := by
  rw [Exchange.after_opened]
  rfl

theorem exchange_listing (exchange : Exchange)
    (listed : Except StorageError (List DocumentSummary)) :
    (Move.listing listed).foldl Exchange.move exchange = exchange := by
  cases listed <;> rfl

theorem exchange_reloading (exchange : Exchange) (id : String)
    (loaded : Except StorageError Document) :
    (workspace.reloading id loaded).foldl Exchange.move exchange = exchange := by
  cases loaded with
  | error error => rfl
  | ok document =>
      rw [reloading]
      split
      · split <;> rfl
      · rfl

theorem exchange_perform (action : Action) :
    (workspace.perform moment action).2.exchange =
      (workspace.episode? moment action).toList.foldl Exchange.after workspace.exchange := by
  rw [perform_eq, read_moved moment workspace fun workspace => exchange_move workspace moment]
  cases action with
  | request message answer =>
      rw [moves, episode?]
      cases Text.nonBlank? message with
      | none => rfl
      | some words =>
          refine Eq.trans ?_ (Exchange.after_asked _ moment words workspace.graph answer).symm
          cases answer with
          | ok suggestion =>
              simp [receiving, weigh_eq_against, Exchange.move, Episode.entries, Episode.reply,
                Suggestion.against]
          | error error => simp [receiving, Exchange.move, Episode.entries, Episode.reply]
  | applySuggestion =>
      refine Eq.trans ?_ (Exchange.after_applied _).symm
      rw [moves]
      cases pending : workspace.pending with
      | none => simp [exchange, pending]
      | some suggestion =>
          dsimp only [Option.elim_some]
          cases suggestion.proposedText <;> rfl
  | discardSuggestion => exact (Exchange.after_discarded _).symm
  | restore id =>
      rw [moves]
      cases workspace.history.find? id <;> rfl
  | remoteChange id loaded => exact exchange_reloading workspace workspace.exchange id loaded
  | notice notice loaded =>
      cases notice with
      | documentChanged id => exact exchange_reloading workspace workspace.exchange id loaded
      | _ => rfl
  | refresh listed => exact exchange_listing workspace.exchange listed
  | load loaded =>
      cases loaded with
      | ok document => exact exchange_opening workspace.exchange document
      | error error => rfl
  | save saved listed =>
      cases saved with
      | ok document => exact exchange_listing workspace.exchange listed
      | error error => rfl
  | delete id deleted listed =>
      cases deleted with
      | ok done =>
          rw [moves]
          dsimp only [Except.toOption, Option.elim_some]
          rw [List.foldl_append, exchange_listing]
          by_cases current : workspace.documentId = some id
          · rw [if_pos current, exchange_opening]
            simp [episode?, opens, Except.toOption, current]
          · simp [episode?, opens, Except.toOption, current]
      | error error => rfl
  | newDocument title => exact exchange_opening workspace.exchange _
  | applyTemplate id =>
      rw [moves]
      cases found : Template.find? id with
      | none => simp [episode?, opens, found]
      | some template =>
          dsimp only [Option.elim_some]
          rw [List.foldl_append, exchange_opening]
          simp [episode?, opens, found, Exchange.move]
  | _ => rfl

theorem exchange_run (steps : List (Moment × Action)) :
    (workspace.run steps).exchange =
      (workspace.episodes steps).foldl Exchange.after workspace.exchange := by
  induction steps generalizing workspace with
  | nil => rfl
  | cons first rest ih =>
      rw [episodes, List.foldl_append, ← exchange_perform]
      exact ih (workspace.perform first.1 first.2).2

end Workspace

/-! Reading the exchange off its episodes. -/

def Episode.latest? (counts : Episode → Bool) (episodes : List Episode) : Option Episode :=
  (episodes.filter counts).getLast?

theorem Episode.foldl_latest {Value : Type} (counts : Episode → Bool) (value : Episode → Value)
    (start : Value) (episodes : List Episode) :
    episodes.foldl (fun held episode => if counts episode then value episode else held) start =
      ((latest? counts episodes).map value).getD start := by
  induction episodes using List.reverseRecOn with
  | nil => rfl
  | append_singleton earlier last ih =>
      rw [List.foldl_append, ih, latest?, latest?, List.filter_append]
      by_cases counted : counts last = true <;> simp [counted]

namespace Exchange

variable (exchange : Exchange) (episodes : List Episode)

theorem chat_foldl :
    (episodes.foldl after exchange).chat = exchange.chat ++ episodes.flatMap Episode.entries := by
  induction episodes generalizing exchange with
  | nil => simp
  | cons first rest ih =>
      rw [List.foldl_cons, ih, List.flatMap_cons, ← List.append_assoc]
      rfl

theorem pending_foldl :
    (episodes.foldl after exchange).pending =
      ((Episode.latest? Episode.movesPending episodes).map Episode.proposal?).getD
        exchange.pending := by
  rw [← Episode.foldl_latest]
  exact (List.foldl_hom Exchange.pending fun _ _ => rfl).symm

theorem status_foldl :
    (episodes.foldl after exchange).status =
      ((Episode.latest? Episode.movesStatus episodes).map Episode.statusAfter).getD
        exchange.status := by
  rw [← Episode.foldl_latest]
  exact (List.foldl_hom Exchange.status fun _ _ => rfl).symm

end Exchange

theorem Episode.proposal?_eq_some_iff {episode : Episode} {suggestion : Suggestion} :
    episode.proposal? = some suggestion ↔ ∃ moment words graph proposal,
      episode = .asked moment words graph (.ok proposal) ∧ suggestion = proposal.against graph := by
  constructor
  · intro proposed
    match episode with
    | .asked moment words graph (.ok proposal) =>
        exact ⟨moment, words, graph, proposal, rfl, (Option.some.inj proposed).symm⟩
  · rintro ⟨moment, words, graph, proposal, rfl, rfl⟩
    rfl

theorem Episode.statusAfter_eq_error_iff {episode : Episode} :
    episode.statusAfter = .error ↔ ∃ moment words graph error,
      episode = .asked moment words graph (.error error) := by
  constructor
  · intro failed
    match episode with
    | .asked moment words graph (.error error) => exact ⟨moment, words, graph, error, rfl⟩
  · rintro ⟨moment, words, graph, error, rfl⟩
    rfl

theorem Episode.statusAfter_eq_idle {episode : Episode} (calm : episode.statusAfter ≠ .error) :
    episode.statusAfter = .idle := by
  match episode with
  | .asked _ _ _ (.error _) => exact absurd rfl calm
  | .asked _ _ _ (.ok _) | .applied | .discarded | .opened => rfl

/-- Whatever was done, the chat holds a question and a reply for every request that was not blank. A
suggestion is pending exactly when of the requests that succeeded, the suggestions applied or
discarded and the documents opened, a request came last, and then it is what that request brought,
weighed against the chart of that moment. The status is an error exactly when of the requests and
the documents opened a failed request came last, and otherwise the agent is idle. -/
theorem suggestion_lifecycle (highlightFor historyCap : Nat) (steps : List (Moment × Action)) :
    let start := Workspace.make highlightFor historyCap
    let reached := start.run steps
    let episodes := start.episodes steps
    reached.chat = episodes.flatMap Episode.entries ∧
    (∀ suggestion, reached.pending = some suggestion ↔ ∃ moment words graph proposal,
      Episode.latest? Episode.movesPending episodes =
        some (.asked moment words graph (.ok proposal)) ∧ suggestion = proposal.against graph) ∧
    (reached.status = .error ↔ ∃ moment words graph error,
      Episode.latest? Episode.movesStatus episodes =
        some (.asked moment words graph (.error error))) ∧
    (reached.status ≠ .error → reached.status = .idle) := by
  intro start reached episodes
  have run : reached.exchange = episodes.foldl Exchange.after start.exchange :=
    start.exchange_run steps
  have pending : reached.pending =
      ((Episode.latest? Episode.movesPending episodes).map Episode.proposal?).getD none :=
    (congrArg Exchange.pending run).trans (Exchange.pending_foldl _ _)
  have status : reached.status =
      ((Episode.latest? Episode.movesStatus episodes).map Episode.statusAfter).getD .idle :=
    (congrArg Exchange.status run).trans (Exchange.status_foldl _ _)
  refine ⟨(congrArg Exchange.chat run).trans (Exchange.chat_foldl _ _), ?_, ?_, ?_⟩
  · intro suggestion
    rw [pending]
    cases Episode.latest? Episode.movesPending episodes with
    | none => simp
    | some latest => simp [Episode.proposal?_eq_some_iff]
  · rw [status]
    cases Episode.latest? Episode.movesStatus episodes with
    | none => simp
    | some latest => simp [Episode.statusAfter_eq_error_iff]
  · rw [status]
    cases Episode.latest? Episode.movesStatus episodes with
    | none => exact fun _ => rfl
    | some latest => exact Episode.statusAfter_eq_idle

end Chartbook
