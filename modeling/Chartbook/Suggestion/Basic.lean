import Chartbook.Graph.Change
import Chartbook.Text.Blank

/-!
Suggestions: what is asked of a suggester, and what it proposes.
-/

namespace Chartbook

structure Selection where
  nodeIds : List String
  edgeIds : List String
  deriving DecidableEq, Repr, Inhabited

/-- The text to work on, with what is selected and free-form hints. A template may be named among the
hints or beside them. -/
structure SuggestionContext where
  text : String
  selection : Selection
  metadata : Json.Fields
  templateId : Option String
  systemPrompt : Option String
  deriving Repr, Inhabited

structure SuggestionRequest where
  documentId : Option String
  message : String
  context : SuggestionContext
  deriving Repr, Inhabited

structure TraceEntry where
  seq : Nat
  tool : String
  args : Json
  result : String
  durationMs : Nat
  deriving Repr, Inhabited

structure Suggestion where
  id : String
  proposedText : Option String
  summary : String
  impact : Impact
  trace : List TraceEntry
  executionMs : Nat
  deriving Repr, Inhabited

namespace Selection

def none : Selection :=
  { nodeIds := [], edgeIds := [] }

def isEmpty (selection : Selection) : Bool :=
  selection.nodeIds.isEmpty && selection.edgeIds.isEmpty

def fieldNames : List FieldName :=
  [Record.plain "nodeIds", Record.plain "edgeIds"]

def toJson (selection : Selection) : Json :=
  .object [("nodeIds", .strings selection.nodeIds), ("edgeIds", .strings selection.edgeIds)]

def ofRecord? (record : Record) : Option Selection := do
  let nodeIds ← record.withDefault? "nodeIds" [] Json.strings?
  let edgeIds ← record.withDefault? "edgeIds" [] Json.strings?
  some { nodeIds, edgeIds }

def ofJson? (json : Json) : Option Selection :=
  (Record.read? fieldNames 0 json).bind ofRecord?

end Selection

namespace SuggestionContext

def templateKey : String :=
  "templateId"

def promptKey : String :=
  "systemPrompt"

def hint? (metadata : Json.Fields) (key : String) : Option String :=
  ((metadata.get? key).bind Json.string?).bind Text.nonBlank?

def build (text : String) (selection : Selection) (metadata : Json.Fields) : SuggestionContext :=
  { text, selection, metadata
    templateId := hint? metadata templateKey
    systemPrompt := hint? metadata promptKey }

def template? (context : SuggestionContext) : Option String :=
  (context.templateId.bind Text.nonBlank?).or (hint? context.metadata templateKey)

def prompt? (context : SuggestionContext) : Option String :=
  (context.systemPrompt.bind Text.nonBlank?).or (hint? context.metadata promptKey)

def fieldNames : List FieldName :=
  [Record.plain "markdown", Record.plain "selection", Record.plain "metadata",
    Record.plain "templateId", Record.plain "systemPrompt"]

def toJson (context : SuggestionContext) : Json :=
  .object ([("markdown", .string context.text), ("selection", context.selection.toJson),
    ("metadata", .object context.metadata)]
    ++ Json.whenSome "templateId" .string context.templateId
    ++ Json.whenSome "systemPrompt" .string context.systemPrompt)

def ofRecord? (record : Record) : Option SuggestionContext := do
  let text ← record.required? "markdown" Json.string?
  let selection ← record.withDefault? "selection" Selection.none Selection.ofJson?
  let metadata ← record.withDefault? "metadata" [] Json.settledFields?
  let templateId ← record.optional? "templateId" Json.string?
  let systemPrompt ← record.optional? "systemPrompt" Json.string?
  some { text, selection, metadata, templateId, systemPrompt }

def ofJson? (json : Json) : Option SuggestionContext :=
  (Record.read? fieldNames 1 json).bind ofRecord?

end SuggestionContext

namespace SuggestionRequest

def fieldNames : List FieldName :=
  [Record.plain "noteId", Record.plain "message", Record.plain "context"]

def toJson (request : SuggestionRequest) : Json :=
  .object (Json.whenSome "noteId" .string request.documentId
    ++ [("message", .string request.message), ("context", request.context.toJson)])

def ofRecord? (record : Record) : Option SuggestionRequest := do
  let documentId ← record.optional? "noteId" Json.string?
  let message ← record.required? "message" Json.string?
  let context ← record.required? "context" SuggestionContext.ofJson?
  some { documentId, message, context }

def ofJson? (json : Json) : Option SuggestionRequest :=
  (Record.read? fieldNames 3 json).bind ofRecord?

end SuggestionRequest

namespace TraceEntry

def fieldNames : List FieldName :=
  [Record.plain "seq", Record.plain "tool", Record.plain "args", Record.plain "result",
    Record.plain "durationMs"]

def toJson (entry : TraceEntry) : Json :=
  .object [("seq", .nat entry.seq), ("tool", .string entry.tool), ("args", entry.args),
    ("result", .string entry.result), ("durationMs", .nat entry.durationMs)]

def ofRecord? (record : Record) : Option TraceEntry := do
  let seq ← record.required? "seq" Json.nat64?
  let tool ← record.required? "tool" Json.string?
  let args ← record.required? "args" Json.settle?
  let result ← record.required? "result" Json.string?
  let durationMs ← record.required? "durationMs" Json.nat64?
  some { seq, tool, args, result, durationMs }

def ofJson? (json : Json) : Option TraceEntry :=
  (Record.read? fieldNames 5 json).bind ofRecord?

end TraceEntry

namespace Suggestion

def make (id : String) (proposedText : Option String) (summary : String) : Suggestion :=
  { id, proposedText, summary, impact := Impact.none, trace := [], executionMs := 0 }

def fieldNames : List FieldName :=
  [Record.plain "suggestionId", Record.plain "markdown", Record.plain "summary",
    { name := "impacts", aliases := ["impact"] }, Record.plain "agentTrace",
    Record.plain "executionMs"]

def toJson (suggestion : Suggestion) : Json :=
  .object ([("suggestionId", .string suggestion.id)]
    ++ Json.whenSome "markdown" .string suggestion.proposedText
    ++ [("summary", .string suggestion.summary), ("impacts", suggestion.impact.toJson)]
    ++ (if suggestion.trace.isEmpty then []
        else [("agentTrace", .list TraceEntry.toJson suggestion.trace)])
    ++ [("executionMs", .nat suggestion.executionMs)])

def ofRecord? (freshId : String) (record : Record) : Option Suggestion := do
  let id ← record.withDefault? "suggestionId" freshId Json.string?
  let proposedText ← record.optional? "markdown" Json.string?
  let summary ← record.withDefault? "summary" "" Json.string?
  let impact ← record.withDefault? "impacts" Impact.none Impact.ofJson?
  let trace ← record.withDefault? "agentTrace" [] (Json.listOf? TraceEntry.ofJson?)
  let executionMs ← record.withDefault? "executionMs" 0 Json.nat64?
  some { id, proposedText, summary, impact, trace, executionMs }

/-- A suggestion that comes without an id gets the fresh one. -/
def ofJson? (freshId : String) (json : Json) : Option Suggestion :=
  (Record.read? fieldNames 0 json).bind (ofRecord? freshId)

end Suggestion

end Chartbook
