import Chartbook.Json.Record

/-!
The chat beside a document, and what the agent is doing.
-/

namespace Chartbook

inductive AgentStatus where
  | idle
  | thinking
  | error
  deriving DecidableEq, Repr, Inhabited

inductive ChatRole where
  | user
  | agent
  | error
  deriving DecidableEq, Repr, Inhabited

structure ChatEntry where
  id : String
  role : ChatRole
  text : String
  suggestionId : Option String
  timestamp : String
  deriving DecidableEq, Repr, Inhabited

namespace AgentStatus

def word : AgentStatus → String
  | idle => "idle"
  | thinking => "thinking"
  | error => "error"

def toJson (status : AgentStatus) : Json :=
  .string status.word

def ofJson? (json : Json) : Option AgentStatus :=
  json.word?.bind fun word => [idle, thinking, error].find? (·.word == word)

end AgentStatus

namespace ChatRole

def word : ChatRole → String
  | user => "user"
  | agent => "agent"
  | error => "error"

def toJson (role : ChatRole) : Json :=
  .string role.word

def ofJson? (json : Json) : Option ChatRole :=
  json.word?.bind fun word => [user, agent, error].find? (·.word == word)

end ChatRole

namespace ChatEntry

def fieldNames : List FieldName :=
  [Record.plain "id", Record.plain "role", Record.plain "text", Record.plain "suggestionId",
    Record.plain "timestamp"]

def toJson (entry : ChatEntry) : Json :=
  .object ([("id", .string entry.id), ("role", entry.role.toJson), ("text", .string entry.text)]
    ++ Json.whenSome "suggestionId" .string entry.suggestionId
    ++ [("timestamp", .string entry.timestamp)])

def ofRecord? (record : Record) : Option ChatEntry := do
  let id ← record.required? "id" Json.string?
  let role ← record.required? "role" ChatRole.ofJson?
  let text ← record.required? "text" Json.string?
  let suggestionId ← record.optional? "suggestionId" Json.string?
  let timestamp ← record.required? "timestamp" Json.string?
  some { id, role, text, suggestionId, timestamp }

def ofJson? (json : Json) : Option ChatEntry :=
  (Record.read? fieldNames 5 json).bind ofRecord?

end ChatEntry

end Chartbook
