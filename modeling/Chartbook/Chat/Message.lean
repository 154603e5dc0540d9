import Chartbook.Json.Record
import Chartbook.Text.Lines

/-!
Messages of a chat with a language model that may call tools.
-/

namespace Chartbook

inductive ContentBlock where
  | text (text : String)
  | toolUse (id name : String) (input : Json)
  | toolResult (toolUseId content : String) (isError : Option Bool)
  | unknown
  deriving Repr, Inhabited

inductive MessageContent where
  | text (text : String)
  | blocks (blocks : List ContentBlock)
  deriving Repr, Inhabited

structure Message where
  role : String
  content : MessageContent
  deriving Repr, Inhabited

structure Tool where
  name : String
  description : String
  inputSchema : Json
  deriving Repr, Inhabited

structure ChatReply where
  content : List ContentBlock
  model : String
  stopReason : String
  inputTokens : Nat
  outputTokens : Nat
  deriving Repr, Inhabited

namespace ContentBlock

def text? : ContentBlock → Option String
  | text words => some words
  | _ => none

def textFields : List FieldName :=
  [Record.plain "text"]

def toolUseFields : List FieldName :=
  [Record.plain "id", Record.plain "name", Record.plain "input"]

def toolResultFields : List FieldName :=
  [Record.plain "tool_use_id", Record.plain "content", Record.plain "is_error"]

def toJson : ContentBlock → Json
  | text words => .object [("type", .string "text"), ("text", .string words)]
  | toolUse id name input =>
      .object [("type", .string "tool_use"), ("id", .string id), ("name", .string name),
        ("input", input)]
  | toolResult toolUseId content isError =>
      .object ([("type", .string "tool_result"), ("tool_use_id", .string toolUseId),
        ("content", .string content)] ++ Json.whenSome "is_error" .bool isError)
  | unknown => .object [("type", .string "Unknown")]

def ofText? (record : Record) : Option ContentBlock := do
  let words ← record.required? "text" Json.string?
  some (.text words)

def ofToolUse? (record : Record) : Option ContentBlock := do
  let id ← record.required? "id" Json.string?
  let name ← record.required? "name" Json.string?
  let input ← record.required? "input" Json.settle?
  some (.toolUse id name input)

def ofToolResult? (record : Record) : Option ContentBlock := do
  let toolUseId ← record.required? "tool_use_id" Json.string?
  let content ← record.required? "content" Json.string?
  let isError ← record.optional? "is_error" Json.bool?
  some (.toolResult toolUseId content isError)

def ofKind? (kind : String) (rest : Json) : Option ContentBlock :=
  match kind with
  | "text" => (Record.read? textFields 1 rest).bind ofText?
  | "tool_use" => (Record.read? toolUseFields 3 rest).bind ofToolUse?
  | "tool_result" => (Record.read? toolResultFields 3 rest).bind ofToolResult?
  | _ => if Json.isBare rest then some unknown else none

def ofJson? (json : Json) : Option ContentBlock :=
  (json.tagged? []).bind fun (kind, rest) => ofKind? kind rest

/-- The kinds in order: inside a message a block may name its kind by number. -/
def kinds : List String :=
  ["text", "tool_use", "tool_result"]

def ofInnerJson? (json : Json) : Option ContentBlock :=
  (json.tagged? kinds).bind fun (kind, rest) => ofKind? kind rest

end ContentBlock

namespace MessageContent

def toJson : MessageContent → Json
  | text words => .string words
  | blocks all => .list ContentBlock.toJson all

def ofJson? (json : Json) : Option MessageContent :=
  if json.isReadable then
    match json with
    | .string words => some (.text words)
    | _ => (json.listOf? ContentBlock.ofInnerJson?).map blocks
  else
    none

end MessageContent

namespace Message

def user (text : String) : Message :=
  { role := "user", content := .text text }

def fieldNames : List FieldName :=
  [Record.plain "role", Record.plain "content"]

def toJson (message : Message) : Json :=
  .object [("role", .string message.role), ("content", message.content.toJson)]

def ofRecord? (record : Record) : Option Message := do
  let role ← record.required? "role" Json.string?
  let content ← record.required? "content" MessageContent.ofJson?
  some { role, content }

def ofJson? (json : Json) : Option Message :=
  (Record.read? fieldNames 2 json).bind ofRecord?

end Message

namespace Tool

def fieldNames : List FieldName :=
  [Record.plain "name", Record.plain "description", Record.plain "input_schema"]

def toJson (tool : Tool) : Json :=
  .object [("name", .string tool.name), ("description", .string tool.description),
    ("input_schema", tool.inputSchema)]

def ofRecord? (record : Record) : Option Tool := do
  let name ← record.required? "name" Json.string?
  let description ← record.required? "description" Json.string?
  let inputSchema ← record.required? "input_schema" Json.settle?
  some { name, description, inputSchema }

def ofJson? (json : Json) : Option Tool :=
  (Record.read? fieldNames 3 json).bind ofRecord?

end Tool

namespace ChatReply

def text? (reply : ChatReply) : Option String :=
  match reply.content.filterMap ContentBlock.text? with
  | [] => none
  | parts => some (Text.joined "\n" parts)

def fieldNames : List FieldName :=
  [Record.plain "content", Record.plain "model", Record.plain "stop_reason",
    Record.plain "input_tokens", Record.plain "output_tokens"]

def toJson (reply : ChatReply) : Json :=
  .object [("content", .list ContentBlock.toJson reply.content), ("model", .string reply.model),
    ("stop_reason", .string reply.stopReason), ("input_tokens", .nat reply.inputTokens),
    ("output_tokens", .nat reply.outputTokens)]

def ofRecord? (record : Record) : Option ChatReply := do
  let content ← record.required? "content" (Json.listOf? ContentBlock.ofJson?)
  let model ← record.required? "model" Json.string?
  let stopReason ← record.required? "stop_reason" Json.string?
  let inputTokens ← record.required? "input_tokens" Json.nat64?
  let outputTokens ← record.required? "output_tokens" Json.nat64?
  some { content, model, stopReason, inputTokens, outputTokens }

def ofJson? (json : Json) : Option ChatReply :=
  (Record.read? fieldNames 5 json).bind ofRecord?

end ChatReply

end Chartbook
