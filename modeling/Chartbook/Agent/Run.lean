import Chartbook.Agent.Answer
import Chartbook.Agent.Prompt
import Chartbook.Agent.ToolCall
import Chartbook.Agent.Toolbox
import Chartbook.Chat.Call
import Chartbook.FlowText.Splice

/-!
The agent: the model edits the chart by tool calls, for a bounded number of rounds, and its last
words or its edits become a suggestion.
-/

namespace Chartbook.Agent

structure Settings where
  maxToolIterations : Nat
  maxTokens : Nat
  deriving DecidableEq, Repr

namespace Settings

def standard : Settings :=
  { maxToolIterations := 10, maxTokens := 4096 }

end Settings

structure Progress where
  graph : Graph
  messages : List Message
  trace : List TraceEntry
  lastWords : Option String

structure ToolUse where
  id : String
  name : String
  input : Json

def toolUses (reply : ChatReply) : List ToolUse :=
  reply.content.filterMap fun block =>
    match block with
    | .toolUse id name input => some { id, name, input }
    | _ => none

def Progress.carryOut (progress : Progress) (use : ToolUse) : ContentBlock × Progress :=
  let (result, graph) := execute progress.graph use.name use.input
  let content :=
    match result with
    | .ok message => message
    | .error error => error.message
  let isError :=
    match result with
    | .ok _ => none
    | .error _ => some true
  let entry : TraceEntry :=
    { seq := progress.trace.length + 1, tool := use.name, args := use.input, result := content
      durationMs := 0 }
  (.toolResult use.id content isError,
    { progress with graph, trace := progress.trace ++ [entry] })

def Progress.carryOutAll (progress : Progress) : List ToolUse → List ContentBlock × Progress
  | [] => ([], progress)
  | use :: rest =>
      let (result, next) := progress.carryOut use
      let (results, final) := next.carryOutAll rest
      (result :: results, final)

def Progress.hear (progress : Progress) (reply : ChatReply) : Progress :=
  { progress with lastWords := reply.text?.or progress.lastWords }

def Progress.work (progress : Progress) (reply : ChatReply) : Progress :=
  let (results, worked) := progress.carryOutAll (toolUses reply)
  { worked with messages := worked.messages
      ++ [{ role := "assistant", content := .blocks reply.content },
        { role := "user", content := .blocks results }] }

def callFor (settings : Settings) (system : String) (progress : Progress) : ChatCall :=
  { maxTokens := settings.maxTokens, system, messages := progress.messages, tools := toolbox }

/-- Converses for at most the given number of rounds. A reply without tool calls ends the
conversation, and so does one that stops for another reason than to use tools. -/
def converse (settings : Settings) (system : String) :
    (rounds : Nat) → Progress → ChatDialogue (Except ChatError Progress)
  | 0, progress => .done (.ok progress)
  | rounds + 1, progress =>
      .ask (callFor settings system progress) fun answer =>
        match answer with
        | .error error => .done (.error error)
        | .ok reply =>
            let heard := progress.hear reply
            if (toolUses reply).isEmpty then .done (.ok heard)
            else if reply.stopReason = "tool_use" then
              converse settings system rounds (heard.work reply)
            else .done (.ok (heard.work reply))

def defaultSummary : String :=
  "Updated the flow."

def edited? (text : String) (before graph : Graph) : Option String :=
  if graph = before then none else some (FlowText.splice text graph)

/-- What is proposed, and its summary. The model's own document comes before the edited chart. -/
def proposal? (text : String) (before : Graph) (progress : Progress) :
    Option (Option String × String) :=
  let edited := edited? text before progress.graph
  match progress.lastWords.bind Answer.extract? with
  | some answer =>
      some ((answer.markdown.filter fun markdown => !Text.blank markdown).or edited,
        (answer.summary.filter fun summary => !Text.blank summary).getD defaultSummary)
  | none =>
      match edited, progress.lastWords with
      | some document, words => some (some document, words.getD defaultSummary)
      | none, some words => some (none, words)
      | none, none => none

def conclude (request : SuggestionRequest) (freshId : String) (progress : Progress) :
    Except SuggestError Suggestion :=
  let before := Graph.ofText request.context.text
  match proposal? request.context.text before progress with
  | some (proposedText, summary) =>
      let impact :=
        match proposedText with
        | some text => before.impact (Graph.ofText text)
        | none => Impact.none
      .ok { Suggestion.make freshId proposedText (Text.trimmed summary) with
        impact, trace := progress.trace }
  | none => .error .noAnswer

def start (request : SuggestionRequest) : Progress :=
  { graph := Graph.ofText request.context.text
    messages := [Message.user (userPrompt request)]
    trace := []
    lastWords := none }

def suggest (settings : Settings) (freshId : String) (request : SuggestionRequest) :
    ChatDialogue (Except SuggestError Suggestion) :=
  if Text.blank request.message then
    .done (.error .emptyMessage)
  else
    (converse settings (systemPrompt request) settings.maxToolIterations (start request)).bind
      fun result =>
        match result with
        | .ok progress => .done (conclude request freshId progress)
        | .error error => .done (.error (.chat error))

end Chartbook.Agent
