import Chartbook.Proofs.Agent.Editing

/-!
What comes of asking the agent. Main statement: a failed call is the outcome; otherwise there is no
answer exactly if the model said nothing and changed nothing; and otherwise there is a suggestion,
which loses no edits and is weighed by the two charts.
-/

namespace Chartbook

namespace Dialogue

variable {Query State Reply First Second : Type}

/-- The replies in a dialogue with somebody whose answers depend on a state. -/
def replies (answer : State → Query → Reply × State) :
    Dialogue Query (fun _ => Reply) First → State → List Reply
  | done _, _ => []
  | ask query next, state =>
      let (reply, after) := answer state query
      reply :: (next reply).replies answer after

theorem replies_bind (answer : State → Query → Reply × State)
    (dialogue : Dialogue Query (fun _ => Reply) First)
    (next : First → Dialogue Query (fun _ => Reply) Second) (state : State) :
    (dialogue.bind next).replies answer state =
      dialogue.replies answer state ++
        (next (dialogue.holdWith answer state).1).replies answer
          (dialogue.holdWith answer state).2 := by
  induction dialogue generalizing state with
  | done value => rfl
  | ask query rest ih => exact congrArg (_ :: ·) (ih _ _)

end Dialogue

namespace Agent

def edited (graph : Graph) (uses : List ToolUse) : Graph :=
  uses.foldl (fun current use => (execute current use.name use.input).2) graph

theorem edited_append (graph : Graph) (uses more : List ToolUse) :
    edited graph (uses ++ more) = edited (edited graph uses) more :=
  List.foldl_append

theorem graph_carryOutAll (progress : Progress) (uses : List ToolUse) :
    (progress.carryOutAll uses).2.graph = edited progress.graph uses := by
  induction uses generalizing progress with
  | nil => rfl
  | cons use rest ih => exact ih _

theorem lastWords_carryOutAll (progress : Progress) (uses : List ToolUse) :
    (progress.carryOutAll uses).2.lastWords = progress.lastWords := by
  induction uses generalizing progress with
  | nil => rfl
  | cons use rest ih => exact ih _

theorem text?_eq_none_iff (reply : ChatReply) :
    reply.text? = none ↔ ∀ words, .text words ∉ reply.content := by
  have parts : reply.text? = none ↔ reply.content.filterMap ContentBlock.text? = [] := by
    rw [ChatReply.text?]
    split <;> simp_all
  rw [parts, List.filterMap_eq_nil_iff]
  constructor
  · intro silent words member
    cases silent _ member
  · intro silent block member
    cases block with
    | text words => exact absurd member (silent words)
    | _ => rfl

def goesOn : Except ChatError ChatReply → Bool
  | .ok reply => !(toolUses reply).isEmpty && reply.stopReason == "tool_use"
  | .error _ => false

/-- How a conversation of so many rounds at most comes to its end, by the results of its calls. -/
inductive Ended : Nat → Progress → List (Except ChatError ChatReply) →
    Except ChatError Progress → Prop
  | spent (progress : Progress) : Ended 0 progress [] (.ok progress)
  | failed (rounds : Nat) (progress : Progress) (error : ChatError) :
      Ended (rounds + 1) progress [.error error] (.error error)
  | last {rounds : Nat} {progress final : Progress} {reply : ChatReply}
      (finished : goesOn (.ok reply) = false)
      (graph : final.graph = edited progress.graph (toolUses reply))
      (words : final.lastWords = reply.text?.or progress.lastWords) :
      Ended (rounds + 1) progress [.ok reply] (.ok final)
  | next {rounds : Nat} {progress : Progress} {reply : ChatReply}
      {results : List (Except ChatError ChatReply)} {outcome : Except ChatError Progress}
      (onward : goesOn (.ok reply) = true)
      (rest : Ended rounds ((progress.hear reply).work reply) results outcome) :
      Ended (rounds + 1) progress (.ok reply :: results) outcome

theorem graph_work (progress : Progress) (reply : ChatReply) :
    ((progress.hear reply).work reply).graph = edited progress.graph (toolUses reply) :=
  graph_carryOutAll _ _

theorem lastWords_work (progress : Progress) (reply : ChatReply) :
    ((progress.hear reply).work reply).lastWords = reply.text?.or progress.lastWords :=
  lastWords_carryOutAll _ _

theorem ended_converse {State : Type}
    (model : State → ChatCall → Except ChatError ChatReply × State) (settings : Settings)
    (system : String) (rounds : Nat) (progress : Progress) (state : State) :
    Ended rounds progress ((converse settings system rounds progress).replies model state)
      ((converse settings system rounds progress).holdWith model state).1 := by
  induction rounds generalizing progress state with
  | zero => exact .spent progress
  | succ rounds ih =>
      rw [converse, Dialogue.replies, Dialogue.holdWith]
      obtain ⟨result, after⟩ := model state (callFor settings system progress)
      dsimp only
      cases result with
      | error error => exact .failed rounds progress error
      | ok reply =>
          dsimp only
          split
          · rename_i idle
            rw [List.isEmpty_iff] at idle
            refine .last (by simp [goesOn, idle]) ?_ rfl
            rw [idle]
            rfl
          · rename_i asks
            split
            · rename_i stop
              exact .next (by simp [goesOn, asks, stop]) (ih _ _)
            · rename_i stop
              exact .last (by simp [goesOn, stop]) (graph_work progress reply)
                (lastWords_work progress reply)

namespace Ended

variable {rounds : Nat} {progress : Progress} {results : List (Except ChatError ChatReply)}
variable {outcome : Except ChatError Progress}

theorem length_le (ended : Ended rounds progress results outcome) : results.length ≤ rounds := by
  induction ended with
  | spent => exact Nat.le_refl 0
  | failed rounds => exact Nat.succ_le_succ (Nat.zero_le rounds)
  | last => exact Nat.succ_le_succ (Nat.zero_le _)
  | next onward rest ih => exact Nat.succ_le_succ ih

theorem goesOn_of_mem_dropLast (ended : Ended rounds progress results outcome) :
    ∀ result ∈ results.dropLast, goesOn result = true := by
  induction ended with
  | spent => simp
  | failed => simp
  | last => simp
  | next onward rest ih =>
      rename_i later _
      cases later with
      | nil => simp
      | cons result later =>
          rw [List.dropLast_cons_cons]
          exact List.forall_mem_cons.mpr ⟨onward, ih⟩

theorem spent_or_over (ended : Ended rounds progress results outcome) :
    results.length = rounds ∨ ∃ result, results.getLast? = some result ∧ goesOn result = false := by
  induction ended with
  | spent => exact .inl rfl
  | failed => exact .inr ⟨_, rfl, rfl⟩
  | last finished => exact .inr ⟨_, rfl, finished⟩
  | next onward rest ih =>
      obtain spent | ⟨result, last, finished⟩ := ih
      · exact .inl (congrArg Nat.succ spent)
      · refine .inr ⟨result, ?_, finished⟩
        rw [List.getLast?_cons, last]
        rfl

theorem error_iff (ended : Ended rounds progress results outcome) (error : ChatError) :
    outcome = .error error ↔ .error error ∈ results := by
  induction ended with
  | spent => simp
  | failed => simp [eq_comm]
  | last => simp
  | next onward rest ih => simpa using ih

theorem exists_final (ended : Ended rounds progress results outcome)
    (fine : ∀ error, .error error ∉ results) :
    ∃ final, outcome = .ok final ∧
      final.graph =
        edited progress.graph ((results.filterMap Except.toOption).flatMap toolUses) ∧
      (final.lastWords = none ↔ progress.lastWords = none ∧
        ∀ reply, .ok reply ∈ results → reply.text? = none) := by
  induction ended with
  | spent progress => exact ⟨progress, rfl, rfl, by simp⟩
  | failed rounds progress error => exact absurd List.mem_cons_self (fine error)
  | last finished graph words =>
      refine ⟨_, rfl, ?_, ?_⟩
      · rw [graph]
        simp [Except.toOption]
      · rw [words]
        simp [and_comm]
  | next onward rest ih =>
      obtain ⟨final, done, graph, words⟩ :=
        ih fun error among => fine error (List.mem_cons_of_mem _ among)
      refine ⟨final, done, ?_, ?_⟩
      · rw [graph, graph_work, ← edited_append]
        simp [Except.toOption]
      · rw [words, lastWords_work]
        simp [and_comm, and_assoc]

end Ended

theorem edited?_eq_none_iff (text : String) (before graph : Graph) :
    edited? text before graph = none ↔ graph = before := by
  rw [edited?]
  split <;> simp_all

theorem proposal?_eq_none_iff (text : String) (before : Graph) (progress : Progress) :
    proposal? text before progress = none ↔
      progress.lastWords = none ∧ progress.graph = before := by
  rw [← edited?_eq_none_iff text, proposal?]
  cases words : progress.lastWords with
  | none => cases edited? text before progress.graph <;> simp
  | some said =>
      cases answer : Answer.extract? said <;>
        cases edited? text before progress.graph <;> simp [answer]

section Conclusion

variable {text : String} {before : Graph} {progress : Progress}

theorem unchanged_of_no_text {summary : String}
    (proposed : proposal? text before progress = some (none, summary)) :
    progress.graph = before := by
  rw [← edited?_eq_none_iff text]
  rw [proposal?] at proposed
  cases answer : progress.lastWords.bind Answer.extract? <;>
    cases change : edited? text before progress.graph <;>
      simp_all

theorem conclude_eq_error_iff (request : SuggestionRequest) (freshId : String)
    (error : SuggestError) :
    conclude request freshId progress = .error error ↔ error = .noAnswer ∧
      progress.lastWords = none ∧ progress.graph = Graph.ofText request.context.text := by
  have none_iff := proposal?_eq_none_iff request.context.text
    (Graph.ofText request.context.text) progress
  rw [← none_iff, conclude]
  cases proposal? request.context.text (Graph.ofText request.context.text) progress <;>
    simp [eq_comm]

theorem of_conclude {request : SuggestionRequest} {freshId : String} {suggestion : Suggestion}
    (concluded : conclude request freshId progress = .ok suggestion) :
    (suggestion.proposedText = none → progress.graph = Graph.ofText request.context.text) ∧
      suggestion.impact = suggestion.proposedText.elim Impact.none fun text =>
        (Graph.ofText request.context.text).impact (Graph.ofText text) := by
  rw [conclude] at concluded
  cases found : proposal? request.context.text (Graph.ofText request.context.text) progress with
  | none => simp [found] at concluded
  | some proposal =>
      obtain ⟨proposedText, summary⟩ := proposal
      simp only [found, Except.ok.injEq] at concluded
      rw [← concluded]
      constructor
      · rintro rfl
        exact unchanged_of_no_text found
      · cases proposedText <;> rfl

end Conclusion

section Run

variable {State : Type} (model : State → ChatCall → Except ChatError ChatReply × State)
variable (state : State) (settings : Settings) (freshId : String) {request : SuggestionRequest}

def conversation (settings : Settings) (request : SuggestionRequest) :
    ChatDialogue (Except ChatError Progress) :=
  converse settings (systemPrompt request) settings.maxToolIterations (start request)

theorem replies_suggest (asked : Text.blank request.message = false) :
    (suggest settings freshId request).replies model state =
      (conversation settings request).replies model state := by
  rw [suggest, if_neg (by simp [asked]), Dialogue.replies_bind, ← conversation]
  cases ((conversation settings request).holdWith model state).1 <;>
    exact List.append_nil _

theorem suggest_of_failed (asked : Text.blank request.message = false) {error : ChatError}
    (failed : ((conversation settings request).holdWith model state).1 = .error error) :
    ((suggest settings freshId request).holdWith model state).1 = .error (.chat error) := by
  rw [suggest, if_neg (by simp [asked]), Dialogue.holdWith_bind, ← conversation, failed]
  rfl

theorem suggest_of_final (asked : Text.blank request.message = false) {final : Progress}
    (done : ((conversation settings request).holdWith model state).1 = .ok final) :
    ((suggest settings freshId request).holdWith model state).1 =
      conclude request freshId final := by
  rw [suggest, if_neg (by simp [asked]), Dialogue.holdWith_bind, ← conversation, done]
  rfl

theorem suggest_eq_chat_iff (asked : Text.blank request.message = false) (error : ChatError) :
    ((suggest settings freshId request).holdWith model state).1 = .error (.chat error) ↔
      ((conversation settings request).holdWith model state).1 = .error error := by
  cases ended : ((conversation settings request).holdWith model state).1 with
  | error failure =>
      rw [suggest_of_failed model state settings freshId asked ended]
      simp
  | ok final =>
      rw [suggest_of_final model state settings freshId asked ended, conclude_eq_error_iff]
      simp

end Run

/-- Whatever the model answers, and however often it may be asked: a call fails, and its error is
the outcome; or there is no answer, exactly if no reply held words and the calls left the chart as
it was; or there is a suggestion. That one has a text unless the chart is as it was, and its impact
compares the two texts. The calls go on as long as they may and the replies ask for tools. -/
theorem outcome_of_run {State : Type}
    (model : State → ChatCall → Except ChatError ChatReply × State) (state : State)
    (settings : Settings) (freshId : String) (request : SuggestionRequest)
    (asked : Text.blank request.message = false) :
    let run := suggest settings freshId request
    let results := run.replies model state
    let outcome := (run.holdWith model state).1
    let original := Graph.ofText request.context.text
    let final := edited original ((results.filterMap Except.toOption).flatMap toolUses)
    (results.length ≤ settings.maxToolIterations ∧
      (∀ result ∈ results.dropLast, goesOn result = true) ∧
      (results.length = settings.maxToolIterations ∨
        ∃ last, results.getLast? = some last ∧ goesOn last = false)) ∧
    (∀ error, outcome = .error (.chat error) ↔ .error error ∈ results) ∧
    ((∀ error, .error error ∉ results) →
      (outcome = .error .noAnswer ↔
        (∀ reply, .ok reply ∈ results → ∀ words, .text words ∉ reply.content) ∧
          final = original) ∧
      (outcome ≠ .error .noAnswer → ∃ suggestion, outcome = .ok suggestion ∧
        (suggestion.proposedText = none → final = original) ∧
        suggestion.impact = suggestion.proposedText.elim Impact.none fun text =>
          original.impact (Graph.ofText text))) := by
  intro run results outcome original final
  have heard : results = (conversation settings request).replies model state :=
    replies_suggest model state settings freshId asked
  have ended : Ended settings.maxToolIterations (start request) results
      ((conversation settings request).holdWith model state).1 := by
    rw [heard]
    exact ended_converse model settings _ _ _ state
  refine ⟨⟨ended.length_le, ended.goesOn_of_mem_dropLast, ended.spent_or_over⟩, ?_, ?_⟩
  · intro error
    rw [← ended.error_iff]
    exact suggest_eq_chat_iff model state settings freshId asked error
  · intro fine
    obtain ⟨progress, done, graph, words⟩ := ended.exists_final fine
    have concluded : outcome = conclude request freshId progress :=
      suggest_of_final model state settings freshId asked done
    have changed : progress.graph = final := graph
    have silent : progress.lastWords = none ↔
        ∀ reply, .ok reply ∈ results → ∀ words, .text words ∉ reply.content := by
      simpa [start, text?_eq_none_iff] using words
    constructor
    · rw [concluded, conclude_eq_error_iff, silent, changed]
      exact and_iff_right rfl
    · intro answered
      cases result : conclude request freshId progress with
      | error error =>
          have only := ((conclude_eq_error_iff request freshId error).mp result).1
          exact absurd (concluded.trans (result.trans (congrArg _ only))) answered
      | ok suggestion =>
          rw [← changed]
          exact ⟨suggestion, concluded.trans result, of_conclude result⟩

theorem forgotten_text_supplied :
    let closing := saying [.text "\x7b\"summary\": \"Added x.\"\x7d"] "end_turn"
    let script : ChatScript := { replies := [.ok (calling "Ready"), .ok closing], calls := [] }
    Text.blank askingToGo.message = false ∧
    ∃ suggestion,
      ((suggest .standard "s1" askingToGo).holdWith ChatScript.answer script).1 = .ok suggestion ∧
      suggestion.proposedText ≠ none := by
  intro closing script
  have asked : Text.blank askingToGo.message = false := by decide
  obtain ⟨_, _, rest⟩ := outcome_of_run ChatScript.answer script .standard "s1" askingToGo asked
  have results : (suggest .standard "s1" askingToGo).replies ChatScript.answer script =
      [.ok (calling "Ready"), .ok closing] := rfl
  rw [results] at rest
  obtain ⟨unanswered, answered⟩ := rest (by simp)
  obtain ⟨suggestion, outcome, kept, _⟩ := answered fun failed =>
    (unanswered.mp failed).1 closing (by simp) "\x7b\"summary\": \"Added x.\"\x7d"
      (by simp [closing, saying])
  refine ⟨asked, suggestion, outcome, fun missing => ?_⟩
  have same := kept missing
  revert same
  decide +kernel

end Agent

end Chartbook
