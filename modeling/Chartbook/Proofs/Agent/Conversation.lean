import Chartbook.Proofs.Agent.Outcome
import Chartbook.Proofs.Chat.Completions
import Chartbook.Proofs.Text.Blank

/-!
The conversation that the agent has with the model. Main statement: every call after the first sends
the prompts and then the earlier replies, each with its tool calls and directly behind it one answer
to each of them; and the trace numbers all calls of all replies.
-/

namespace Chartbook.Agent

open Chat

/-- A reply that calls tools, with what came of each call. -/
structure Round where
  reply : ChatReply
  results : List String

namespace Round

def saying (round : Round) : CompletionMessage :=
  { role := "assistant", content := wordsOf round.reply.content
    toolCalls := toolCallsOf round.reply.content, toolCallId := none }

def executed (round : Round) : List (ToolUse × String) :=
  (toolUses round.reply).zip round.results

def answer (done : ToolUse × String) : CompletionMessage :=
  { role := "tool", content := some done.2, toolCalls := [], toolCallId := some done.1.id }

def messages (round : Round) : List CompletionMessage :=
  round.saying :: round.executed.map answer

/-- There is a call, and every call has its answer. -/
structure Answered (round : Round) : Prop where
  calls : round.saying.toolCalls ≠ []
  answers : (round.executed.map answer).map (·.toolCallId) =
    round.saying.toolCalls.map fun call => some call.id

end Round

def numbered (executed : List (ToolUse × String)) : List TraceEntry :=
  executed.mapIdx fun index done =>
    { seq := index + 1, tool := done.1.name, args := done.1.input, result := done.2
      durationMs := 0 }

def answerTo (graph : Graph) (use : ToolUse) : String :=
  match (execute graph use.name use.input).1 with
  | .ok message => message
  | .error error => error.message

/-- What comes of tool calls that are carried out one after the other. -/
def answersTo (graph : Graph) : List ToolUse → List String
  | [] => []
  | use :: rest => answerTo graph use :: answersTo (execute graph use.name use.input).2 rest

/-- The rounds that replies lead to, each on the chart that those before it left. -/
def roundsOf (graph : Graph) : List ChatReply → List Round
  | [] => []
  | reply :: rest =>
      let later := roundsOf (edited graph (toolUses reply)) rest
      if (toolUses reply).isEmpty then later
      else { reply, results := answersTo graph (toolUses reply) } :: later

theorem length_answersTo (graph : Graph) (uses : List ToolUse) :
    (answersTo graph uses).length = uses.length := by
  induction uses generalizing graph with
  | nil => rfl
  | cons use rest ih => exact congrArg Nat.succ (ih _)

theorem answered_of_asks (graph : Graph) {reply : ChatReply} (asks : toolUses reply ≠ []) :
    Round.Answered { reply, results := answersTo graph (toolUses reply) } where
  calls := by
    rw [Round.saying, toolCallsOf_eq]
    simpa using asks
  answers := by
    have asked : ((toolUses reply).zip (answersTo graph (toolUses reply))).map Prod.fst =
        toolUses reply :=
      List.map_fst_zip (Nat.le_of_eq (length_answersTo graph (toolUses reply)).symm)
    rw [Round.saying, toolCallsOf_eq, List.map_map, List.map_map, Round.executed]
    conv_rhs => rw [← asked, List.map_map]
    rfl

section Rounds

variable {graph : Graph} {reply : ChatReply} (rest : List ChatReply)

theorem roundsOf_idle (idle : toolUses reply = []) :
    roundsOf graph (reply :: rest) = roundsOf graph rest := by
  rw [roundsOf, idle]
  rfl

theorem roundsOf_asks (asks : toolUses reply ≠ []) :
    roundsOf graph (reply :: rest) =
      { reply, results := answersTo graph (toolUses reply) } ::
        roundsOf (edited graph (toolUses reply)) rest := by
  rw [roundsOf]
  exact if_neg (by rwa [List.isEmpty_iff])

end Rounds

theorem answered_roundsOf (graph : Graph) (replies : List ChatReply) :
    ∀ round ∈ roundsOf graph replies, round.Answered := by
  induction replies generalizing graph with
  | nil => simp [roundsOf]
  | cons reply rest ih =>
      by_cases asks : toolUses reply = []
      · rw [roundsOf_idle rest asks]
        exact ih graph
      · rw [roundsOf_asks rest asks]
        exact List.forall_mem_cons.mpr ⟨answered_of_asks graph asks, ih _⟩

theorem reply_roundsOf (graph : Graph) (replies : List ChatReply) :
    (roundsOf graph replies).map Round.reply =
      replies.filter fun reply => !(toolUses reply).isEmpty := by
  induction replies generalizing graph with
  | nil => rfl
  | cons reply rest ih =>
      by_cases asks : toolUses reply = []
      · rw [roundsOf_idle rest asks, List.filter_cons_of_neg (by simp [asks]), ih]
      · rw [roundsOf_asks rest asks, List.filter_cons_of_pos (by simp [asks]), List.map_cons, ih]

theorem executed_roundsOf (graph : Graph) (replies : List ChatReply) :
    ((roundsOf graph replies).flatMap Round.executed).map Prod.fst = replies.flatMap toolUses := by
  induction replies generalizing graph with
  | nil => rfl
  | cons reply rest ih =>
      by_cases asks : toolUses reply = []
      · rw [roundsOf_idle rest asks, ih, List.flatMap_cons, asks, List.nil_append]
      · rw [roundsOf_asks rest asks, List.flatMap_cons, List.map_append, ih, List.flatMap_cons,
          Round.executed, List.map_fst_zip (Nat.le_of_eq (length_answersTo _ _).symm)]

theorem carryOut_eq (progress : Progress) (use : ToolUse) :
    ∃ isError, progress.carryOut use =
      (.toolResult use.id (answerTo progress.graph use) isError,
        { progress with
          graph := (execute progress.graph use.name use.input).2
          trace := progress.trace ++ [
            { seq := progress.trace.length + 1, tool := use.name, args := use.input
              result := answerTo progress.graph use, durationMs := 0 }] }) :=
  ⟨_, rfl⟩

theorem messages_carryOutAll (progress : Progress) (uses : List ToolUse) :
    (progress.carryOutAll uses).2.messages = progress.messages := by
  induction uses generalizing progress with
  | nil => rfl
  | cons use rest ih => exact ih _

theorem plain_carryOutAll (progress : Progress) (uses : List ToolUse) :
    ∀ block ∈ (progress.carryOutAll uses).1, block.text? = none ∧ isToolUse block = false := by
  induction uses generalizing progress with
  | nil => simp [Progress.carryOutAll]
  | cons use rest ih => exact List.forall_mem_cons.mpr ⟨⟨rfl, rfl⟩, ih _⟩

theorem answers_carryOutAll (progress : Progress) (uses : List ToolUse) :
    toolResultsOf (progress.carryOutAll uses).1 =
      (uses.zip (answersTo progress.graph uses)).map Round.answer := by
  induction uses generalizing progress with
  | nil => rfl
  | cons use rest ih => exact congrArg (Round.answer (use, answerTo progress.graph use) :: ·) (ih _)

theorem numbered_concat (executed : List (ToolUse × String)) (use : ToolUse) (content : String) :
    numbered (executed ++ [(use, content)]) =
      numbered executed ++ [
        { seq := executed.length + 1, tool := use.name, args := use.input, result := content
          durationMs := 0 }] :=
  List.mapIdx_concat

theorem trace_carryOutAll {progress : Progress} {executed : List (ToolUse × String)}
    (traced : progress.trace = numbered executed) (uses : List ToolUse) :
    (progress.carryOutAll uses).2.trace =
      numbered (executed ++ uses.zip (answersTo progress.graph uses)) := by
  induction uses generalizing progress executed with
  | nil =>
      rw [List.zip_nil_left, List.append_nil]
      exact traced
  | cons use rest ih =>
      have length : progress.trace.length = executed.length := by
        rw [traced, numbered, List.length_mapIdx]
      have next : (progress.carryOut use).2.trace =
          numbered (executed ++ [(use, answerTo progress.graph use)]) := by
        obtain ⟨isError, done⟩ := carryOut_eq progress use
        rw [done, numbered_concat, ← length, ← traced]
      rw [answersTo, List.zip_cons_cons, List.append_cons]
      exact ih next

/-- The conversation consists of the prompts and the rounds, and its trace of their calls. -/
structure Transcript (prompts : List CompletionMessage) (rounds : List Round)
    (progress : Progress) : Prop where
  messages : progress.messages.flatMap messagesOf = prompts ++ rounds.flatMap Round.messages
  trace : progress.trace = numbered (rounds.flatMap Round.executed)

variable {prompts : List CompletionMessage} {rounds : List Round} {progress : Progress}

theorem Transcript.work (transcript : Transcript prompts rounds progress) {reply : ChatReply}
    (read : WellRead reply) (asks : toolUses reply ≠ []) :
    Transcript prompts
      (rounds ++ [{ reply, results := answersTo progress.graph (toolUses reply) }])
      (progress.work reply) where
  messages := by
    rw [Progress.work]
    simp only [List.flatMap_append, List.flatMap_cons, List.flatMap_nil, List.append_nil]
    rw [messages_carryOutAll, transcript.messages, messagesOf_reply read asks,
      messagesOf_results (plain_carryOutAll progress _), answers_carryOutAll, List.append_assoc]
    rfl
  trace := by
    rw [List.flatMap_append, List.flatMap_singleton]
    exact trace_carryOutAll transcript.trace (toolUses reply)

theorem Transcript.hear (transcript : Transcript prompts rounds progress) (reply : ChatReply) :
    Transcript prompts rounds (progress.hear reply) :=
  ⟨transcript.messages, transcript.trace⟩

/-- How a conversation goes on after some rounds, by the results, rounds and calls that come later.
Each call sends the prompts and all rounds before it. -/
structure Course (prompts : List CompletionMessage) (system : String) (before : List Round)
    (script : ChatScript) (outcome : Except ChatError Progress × ChatScript)
    (results : List (Except ChatError ChatReply)) (later : List Round)
    (calls : List ChatCall) : Prop where
  replies : later.map (fun round => .ok round.reply) <+: script.replies
  made : outcome.2.calls = script.calls ++ calls
  counted : calls.length = results.length
  sent : ∀ index call, calls[index]? = some call →
    results.take index = (later.take index).map (fun round => .ok round.reply) ∧
    call.system = system ∧
    call.messages.flatMap messagesOf =
      prompts ++ (before ++ later.take index).flatMap Round.messages
  transcript : ∀ final, outcome.1 = .ok final → Transcript prompts (before ++ later) final

namespace Course

variable {system : String} {script next : ChatScript} {call : ChatCall}
variable {outcome : Except ChatError Progress × ChatScript}

theorem last (same : call.system = system)
    (sent : call.messages.flatMap messagesOf = prompts ++ rounds.flatMap Round.messages)
    (made : outcome.2.calls = script.calls ++ [call]) (result : Except ChatError ChatReply)
    (transcript : ∀ final, outcome.1 = .ok final → Transcript prompts rounds final) :
    Course prompts system rounds script outcome [result] [] [call] where
  replies := List.nil_prefix
  made := made
  counted := rfl
  sent := by
    intro index other found
    rw [List.getElem?_singleton] at found
    split at found
    · rename_i first
      cases found
      exact ⟨by rw [first]; rfl, same, by rw [List.take_nil, List.append_nil, sent]⟩
    · cases found
  transcript := by rwa [List.append_nil]

theorem cons (same : call.system = system)
    (sent : call.messages.flatMap messagesOf = prompts ++ rounds.flatMap Round.messages)
    {round : Round} (replies : script.replies = .ok round.reply :: next.replies)
    (made : next.calls = script.calls ++ [call])
    {results : List (Except ChatError ChatReply)} {later : List Round} {calls : List ChatCall}
    (course : Course prompts system (rounds ++ [round]) next outcome results later calls) :
    Course prompts system rounds script outcome (.ok round.reply :: results) (round :: later)
      (call :: calls) where
  replies := by
    rw [replies, List.map_cons]
    exact List.cons_prefix_cons.mpr ⟨rfl, course.replies⟩
  made := by rw [course.made, made, List.append_assoc, List.singleton_append]
  counted := congrArg Nat.succ course.counted
  sent := by
    intro index other found
    cases index with
    | zero =>
        cases found
        exact ⟨rfl, same, by rw [List.take_zero, List.append_nil, sent]⟩
    | succ index =>
        obtain ⟨heard, system, messages⟩ := course.sent index other found
        refine ⟨?_, system, ?_⟩
        · rw [List.take_succ_cons, List.take_succ_cons, List.map_cons, heard]
        · rw [messages, List.take_succ_cons, List.append_assoc, List.singleton_append]
  transcript := by
    intro final ended
    have whole := course.transcript final ended
    rwa [List.append_assoc, List.singleton_append] at whole

end Course

theorem exists_course (settings : Settings) (system : String) (budget : Nat) {script : ChatScript}
    (read : ∀ reply, .ok reply ∈ script.replies → WellRead reply)
    (transcript : Transcript prompts rounds progress) :
    let talk := converse settings system budget progress
    let results := talk.replies ChatScript.answer script
    ∃ calls, Course prompts system rounds script (talk.holdWith ChatScript.answer script) results
      (roundsOf progress.graph (results.filterMap Except.toOption)) calls := by
  induction budget generalizing rounds progress script with
  | zero =>
      refine ⟨[], (?_ : Course prompts system rounds script (.ok progress, script) [] [] [])⟩
      refine ⟨List.nil_prefix, (List.append_nil _).symm, rfl, by simp, ?_⟩
      intro final ended
      cases ended
      rwa [List.append_nil]
  | succ budget ih =>
      let call := callFor settings system progress
      have same : call.system = system := rfl
      have sent : call.messages.flatMap messagesOf = prompts ++ rounds.flatMap Round.messages :=
        transcript.messages
      dsimp only
      rw [converse, Dialogue.holdWith, Dialogue.replies, ChatScript.answer]
      cases replies : script.replies with
      | nil =>
          refine ⟨[call], .last same sent rfl _ ?_⟩
          intro final ended
          cases ended
      | cons answer rest =>
          cases answer with
          | error error =>
              refine ⟨[call], .last same sent rfl _ ?_⟩
              intro final ended
              cases ended
          | ok reply =>
              let next : ChatScript := { replies := rest, calls := script.calls ++ [call] }
              dsimp only
              rw [List.filterMap_cons_some (show Except.toOption (.ok reply) = some reply from rfl)]
              by_cases asks : toolUses reply = []
              · rw [if_pos (List.isEmpty_iff.mpr asks), roundsOf_idle _ asks]
                refine ⟨[call], .last same sent rfl _ ?_⟩
                intro final ended
                cases ended
                exact transcript.hear reply
              · have here : WellRead reply := read reply (by simp [replies])
                have later : ∀ other, .ok other ∈ next.replies → WellRead other :=
                  fun other among => read other (by rw [replies]; exact List.mem_cons_of_mem _ among)
                have worked := (transcript.hear reply).work here asks
                obtain ⟨calls, course⟩ := ih later worked
                rw [if_neg (by rwa [List.isEmpty_iff]), if_pos (here.stopReason_eq asks),
                  roundsOf_asks _ asks, ← graph_work]
                exact ⟨call :: calls, .cons same sent replies rfl course⟩

theorem not_blank_append {text : String} (shown : Text.blank text = false) (more : String) :
    Text.blank (text ++ more) = false := by
  rw [Text.blank] at shown ⊢
  rw [String.toList_append, List.all_append, shown, Bool.false_and]

theorem not_blank_joined {separator first : String} (shown : Text.blank first = false)
    (rest : List String) : Text.blank (Text.joined separator (first :: rest)) = false := by
  rw [Text.blank] at shown ⊢
  cases rest <;> simp [Text.joined, Text.join, shown]

theorem not_blank_basePrompt : Text.blank basePrompt = false := by
  refine not_blank_joined (not_blank_append ?_ _) _
  decide +kernel

theorem not_blank_systemPrompt (request : SuggestionRequest) :
    Text.blank (systemPrompt request) = false := by
  rw [systemPrompt]
  split
  · simp only [String.append_assoc]
    exact not_blank_append not_blank_basePrompt _
  · exact not_blank_basePrompt

theorem completionMessages_eq {request : SuggestionRequest} {messages : List Message}
    (sent : messages.flatMap messagesOf =
      [CompletionMessage.ofText "user" (userPrompt request)] ++ rounds.flatMap Round.messages) :
    completionMessages (systemPrompt request) messages =
      [CompletionMessage.ofText "system" (systemPrompt request),
        CompletionMessage.ofText "user" (userPrompt request)] ++ rounds.flatMap Round.messages := by
  rw [completionMessages, not_blank_systemPrompt, sent]
  rfl

theorem trace_of_conclude {request : SuggestionRequest} {freshId : String}
    {suggestion : Suggestion} (concluded : conclude request freshId progress = .ok suggestion) :
    suggestion.trace = progress.trace := by
  rw [conclude] at concluded
  dsimp only at concluded
  split at concluded
  · cases concluded
    rfl
  · cases concluded

/-- Whatever the model replies, the agent calls it no more often than it may. The replies that call
tools, with what each call came to on the chart as the calls before it left it, are the rounds. Each
call of the model sends the system prompt, the request and then, for every reply before it, that reply
with the tool calls in it and directly behind it one answer to each of them, in their order. Where a
suggestion comes of it, its trace numbers all calls of all replies, each with what it was answered. -/
theorem conversation_well_formed (settings : Settings) (freshId : String)
    (request : SuggestionRequest) (bodies : List String) :
    let script : ChatScript := { replies := bodies.map readReply, calls := [] }
    let prompts := [CompletionMessage.ofText "system" (systemPrompt request),
      CompletionMessage.ofText "user" (userPrompt request)]
    let run := suggest settings freshId request
    let outcome := run.holdWith ChatScript.answer script
    let results := run.replies ChatScript.answer script
    let replies := results.filterMap Except.toOption
    let rounds := roundsOf (Graph.ofText request.context.text) replies
    (outcome.2.calls.length = results.length ∧ results.length ≤ settings.maxToolIterations) ∧
    rounds.map Round.reply = replies.filter (fun reply => !(toolUses reply).isEmpty) ∧
    (rounds.flatMap Round.executed).map Prod.fst = replies.flatMap toolUses ∧
    rounds.map (fun round => .ok round.reply) <+: script.replies ∧
    (∀ round ∈ rounds, round.Answered) ∧
    (∀ index call, outcome.2.calls[index]? = some call →
      results.take index = (rounds.take index).map (fun round => .ok round.reply) ∧
      completionMessages call.system call.messages =
        prompts ++ (rounds.take index).flatMap Round.messages) ∧
    ∀ suggestion, outcome.1 = .ok suggestion →
      suggestion.trace = numbered (rounds.flatMap Round.executed) ∧
      ∃ final, ((conversation settings request).holdWith ChatScript.answer script).1 = .ok final ∧
        completionMessages (systemPrompt request) final.messages =
          prompts ++ rounds.flatMap Round.messages := by
  intro script prompts run outcome results replies rounds
  have read : ∀ reply, .ok reply ∈ script.replies → WellRead reply := by
    intro reply among
    obtain ⟨body, _, said⟩ := List.mem_map.mp among
    exact wellRead_of_readReply said
  have begun : Transcript [CompletionMessage.ofText "user" (userPrompt request)] []
      (start request) := ⟨rfl, rfl⟩
  cases silent : Text.blank request.message with
  | true =>
      have unasked : run = .done (.error .emptyMessage) := if_pos silent
      simp only [outcome, rounds, replies, results, unasked]
      simp [Dialogue.holdWith, Dialogue.replies, roundsOf, script]
  | false =>
      have heard : results = (conversation settings request).replies ChatScript.answer script :=
        replies_suggest ChatScript.answer script settings freshId silent
      have ended : Ended settings.maxToolIterations (start request) results
          ((conversation settings request).holdWith ChatScript.answer script).1 := by
        rw [heard]
        exact ended_converse ChatScript.answer settings _ _ _ script
      obtain ⟨calls, course⟩ :=
        exists_course settings (systemPrompt request) settings.maxToolIterations read begun
      rw [← conversation, ← heard] at course
      have made : outcome.2.calls = calls := by
        have asked : ¬Text.blank request.message = true := by simp [silent]
        simp only [outcome, run, suggest, if_neg asked, Dialogue.holdWith_bind]
        split <;> exact course.made
      refine ⟨⟨by rw [made, course.counted], ended.length_le⟩, reply_roundsOf _ _,
        executed_roundsOf _ _, course.replies, answered_roundsOf _ _, ?_, ?_⟩
      · intro index call found
        rw [made] at found
        obtain ⟨earlier, same, sent⟩ := course.sent index call found
        rw [same]
        exact ⟨earlier, completionMessages_eq sent⟩
      · intro suggestion concluded
        cases finished : ((conversation settings request).holdWith ChatScript.answer script).1 with
        | error error =>
            have failed := suggest_of_failed ChatScript.answer script settings freshId silent finished
            cases concluded.symm.trans failed
        | ok final =>
            have whole := course.transcript final finished
            have done := suggest_of_final ChatScript.answer script settings freshId silent finished
            have trace := trace_of_conclude (done.symm.trans concluded)
            exact ⟨trace.trans whole.trace, final, rfl, completionMessages_eq whole.messages⟩

end Chartbook.Agent
