import Chartbook.Chat.Call
import Chartbook.Json.Printer
import Chartbook.Json.Reader
import Chartbook.Service.Http
import Chartbook.Settings.Chat

/-!
The chat-completions format: how calls are written and how replies are read.
-/

namespace Chartbook.Chat

structure CompletionToolCall where
  id : String
  name : String
  arguments : String
  deriving DecidableEq, Repr

structure CompletionMessage where
  role : String
  content : Option String
  toolCalls : List CompletionToolCall
  toolCallId : Option String
  deriving DecidableEq, Repr

namespace CompletionToolCall

def toJson (call : CompletionToolCall) : Json :=
  .object [("id", .string call.id), ("type", .string "function"),
    ("function", .object [("name", .string call.name), ("arguments", .string call.arguments)])]

end CompletionToolCall

namespace CompletionMessage

def ofText (role content : String) : CompletionMessage :=
  { role, content := some content, toolCalls := [], toolCallId := none }

def toJson (message : CompletionMessage) : Json :=
  .object ([("role", .string message.role)]
    ++ Json.whenSome "content" .string message.content
    ++ (if message.toolCalls.isEmpty then []
        else [("tool_calls", .list CompletionToolCall.toJson message.toolCalls)])
    ++ Json.whenSome "tool_call_id" .string message.toolCallId)

end CompletionMessage

/-! Writing calls. -/

def textOf (blocks : List ContentBlock) : String :=
  Text.joined "" (blocks.filterMap ContentBlock.text?)

def toolCallsOf (blocks : List ContentBlock) : List CompletionToolCall :=
  blocks.filterMap fun block =>
    match block with
    | .toolUse id name input => some { id, name, arguments := input.compact }
    | _ => none

def toolResultsOf (blocks : List ContentBlock) : List CompletionMessage :=
  blocks.filterMap fun block =>
    match block with
    | .toolResult toolUseId content _ =>
        some { role := "tool", content := some content, toolCalls := []
               toolCallId := some toolUseId }
    | _ => none

/-- Blocks become one message with their text and tool calls, if they have any, and after it one
message for every tool result. -/
def messagesOfBlocks (role : String) (blocks : List ContentBlock) : List CompletionMessage :=
  let text := textOf blocks
  let toolCalls := toolCallsOf blocks
  let said : List CompletionMessage :=
    if text = "" && toolCalls.isEmpty then []
    else [{ role, content := if text = "" then none else some text, toolCalls
            toolCallId := none }]
  said ++ toolResultsOf blocks

def messagesOf (message : Message) : List CompletionMessage :=
  match message.content with
  | .text text => [CompletionMessage.ofText message.role text]
  | .blocks blocks => messagesOfBlocks message.role blocks

def completionMessages (system : String) (messages : List Message) : List CompletionMessage :=
  (if Text.blank system then [] else [CompletionMessage.ofText "system" system])
    ++ messages.flatMap messagesOf

def toolJson (tool : Tool) : Json :=
  .object [("type", .string "function"),
    ("function", .object [("name", .string tool.name), ("description", .string tool.description),
      ("parameters", tool.inputSchema)])]

def requestBody (model : String) (maxTokens : Nat) (system : String) (messages : List Message)
    (tools : Option (List Tool)) : Json :=
  .object ([("model", .string model), ("max_tokens", .nat maxTokens),
    ("messages", .list CompletionMessage.toJson (completionMessages system messages))]
    ++ Json.whenSome "tools" (Json.list toolJson) tools)

/-! Reading replies. -/

def count (json : Option Json) : Nat :=
  (json.bind Json.nat64?).getD 0

/-- A call without a name is passed over, but not one without an id. Arguments that are no JSON count
as none. -/
def readToolCall (call : Json) : Except ChatError (Option ContentBlock) :=
  let function := call.get? "function"
  match (function.bind (·.get? "name")).bind Json.string? with
  | none => .ok none
  | some name =>
      match (call.get? "id").bind Json.string? with
      | none => .error (.reply "chat_completions: tool call missing id")
      | some id =>
          let arguments :=
            ((function.bind (·.get? "arguments")).bind Json.string?).getD "\x7b\x7d"
          .ok (some (.toolUse id name ((Json.readSettled? arguments).getD (.object []))))

def readToolCalls : List Json → Except ChatError (List ContentBlock)
  | [] => .ok []
  | call :: rest => do
      let block ← readToolCall call
      let blocks ← readToolCalls rest
      .ok (block.toList ++ blocks)

def isToolUse : ContentBlock → Bool
  | .toolUse .. => true
  | _ => false

def stopReason (blocks : List ContentBlock) (finish : String) : String :=
  if blocks.any isToolUse then "tool_use"
  else if finish = "length" then "max_tokens"
  else "end_turn"

def readChoice (root choice : Json) : Except ChatError ChatReply := do
  let message := choice.get? "message"
  let text := ((message.bind (·.get? "content")).bind Json.string?).filter (· != "")
  let calls := ((message.bind (·.get? "tool_calls")).bind Json.items?).getD []
  let toolBlocks ← readToolCalls calls
  let content := text.toList.map ContentBlock.text ++ toolBlocks
  let usage := root.get? "usage"
  .ok
    { content
      model := ((root.get? "model").bind Json.string?).getD ""
      stopReason := stopReason content
        (((choice.get? "finish_reason").bind Json.string?).getD "stop")
      inputTokens := count (usage.bind (·.get? "prompt_tokens"))
      outputTokens := count (usage.bind (·.get? "completion_tokens")) }

def readReply (body : String) : Except ChatError ChatReply :=
  match Json.readSettled? body with
  | none => .error (.reply Json.readFailure)
  | some root =>
      match ((root.get? "choices").bind Json.items?).bind List.head? with
      | some choice => readChoice root choice
      | none => .error (.reply "chat_completions: missing choices[0]")

/-! Exchanges. -/

def url (settings : ChatSettings) : String :=
  match settings.provider with
  | .openai => settings.baseUrl ++ "/chat/completions"
  | .azure => settings.baseUrl ++ "/openai/deployments/" ++ settings.model
      ++ "/chat/completions?api-version=" ++ settings.apiVersion

def keyHeader (settings : ChatSettings) : String × String :=
  match settings.provider with
  | .openai => Http.bearer settings.apiKey
  | .azure => ("api-key", settings.apiKey)

def request (settings : ChatSettings) (body : Json) : Http.Request :=
  { method := .post
    url := url settings
    headers := keyHeader settings :: Http.jsonHeaders (some body)
    body := some body }

def readResponse : Except String Http.Response → Except ChatError ChatReply
  | .error text => .error (.request text)
  | .ok response =>
      if response.status = 200 then readReply response.body
      else .error (.response response.status response.body)

def complete (settings : ChatSettings) (maxTokens : Nat) (system : String)
    (messages : List Message) (tools : Option (List Tool)) :
    HttpDialogue (Except ChatError ChatReply) :=
  .ask (request settings (requestBody settings.model maxTokens system messages tools))
    fun response => .done (readResponse response)

def overHttp (settings : ChatSettings) (dialogue : ChatDialogue α) : HttpDialogue α :=
  dialogue.through fun call =>
    complete settings call.maxTokens call.system call.messages (some call.tools)

end Chartbook.Chat
