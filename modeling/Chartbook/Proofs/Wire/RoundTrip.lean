import Chartbook.Chat.Message
import Chartbook.Document.Basic
import Chartbook.Proofs.Json.Record
import Chartbook.Proofs.Json.Settled
import Chartbook.Suggestion.Basic
import Chartbook.Workspace.ChatLog
import Chartbook.Workspace.History
import Chartbook.Workspace.Notice

/-!
Everything that is sent is read back as it was, format by format. Numbers must fit into 64 bits, and
free-form data must be settled.
-/

namespace Chartbook

@[simp]
theorem NodeKind.ofJson?_toJson (kind : NodeKind) : ofJson? kind.toJson = some kind := by
  cases kind <;> decide

theorem Node.ofJson?_toJson (node : Node) : ofJson? node.toJson = some node := by
  rw [ofJson?, toJson, Record.read?_own rfl]
  simp [ofRecord?, Record.required?, toFields, Json.string?]

theorem Edge.ofJson?_toJson (edge : Edge) : ofJson? edge.toJson = some edge := by
  obtain ⟨id, source, target, label⟩ := edge
  cases label <;>
  · rw [ofJson?, toJson, Record.read?_own rfl]
    simp [ofRecord?, Record.required?, Record.optional?, Record.withDefault?, Json.whenSome,
      Json.nullable?, Json.string?]

theorem Graph.ofJson?_toJson (graph : Graph) : ofJson? graph.toJson = some graph := by
  have nodes : (Json.list Node.toJson graph.nodes).listOf? Node.ofJson? = some graph.nodes :=
    Json.listOf?_list fun node _ => node.ofJson?_toJson
  have edges : (Json.list Edge.toJson graph.edges).listOf? Edge.ofJson? = some graph.edges :=
    Json.listOf?_list fun edge _ => edge.ofJson?_toJson
  rw [ofJson?, toJson, Record.read?_own rfl]
  simp [ofRecord?, Record.required?, nodes, edges]

@[simp]
theorem ChangeSource.ofJson?_toJson (source : ChangeSource) :
    ofJson? source.toJson = some source := by
  cases source <;> decide

theorem ChangeSet.ofJson?_toJson (changes : ChangeSet) : ofJson? changes.toJson = some changes := by
  rw [ofJson?, toJson, Record.read?_own rfl]
  simp [ofRecord?, Record.required?]

structure Impact.Proper (impact : Impact) : Prop where
  nodeDelta : Json.FitsInt64 impact.nodeDelta
  edgeDelta : Json.FitsInt64 impact.edgeDelta

theorem Impact.ofJson?_toJson {impact : Impact} (proper : impact.Proper) :
    ofJson? impact.toJson = some impact := by
  rw [ofJson?, toJson, Record.read?_own rfl]
  simp [ofRecord?, Record.required?, Record.withDefault?, Json.int64?_int proper.nodeDelta,
    Json.int64?_int proper.edgeDelta]

theorem Document.ofJson?_toJson (document : Document) :
    ofJson? document.toJson = some document := by
  rw [ofJson?, toJson, Record.read?_own rfl]
  simp [ofRecord?, Record.required?, Record.withDefault?, Json.string?]

theorem DocumentSummary.ofJson?_toJson (summary : DocumentSummary) :
    ofJson? summary.toJson = some summary := by
  rw [ofJson?, toJson, Record.read?_own rfl]
  simp [ofRecord?, Record.required?, Record.withDefault?, Json.string?]

theorem SaveRequest.ofJson?_toJson (request : SaveRequest) :
    ofJson? request.toJson = some request := by
  obtain ⟨id, title, text, tags⟩ := request
  cases id <;>
  · rw [ofJson?, toJson, Record.read?_own rfl]
    simp [ofRecord?, Record.required?, Record.optional?, Record.withDefault?, Json.whenSome,
      Json.nullable?, Json.string?]

@[simp]
theorem Selection.ofJson?_toJson (selection : Selection) :
    ofJson? selection.toJson = some selection := by
  rw [ofJson?, toJson, Record.read?_own rfl]
  simp [ofRecord?, Record.withDefault?]

def SuggestionContext.Proper (context : SuggestionContext) : Prop :=
  (Json.object context.metadata).Settled

theorem SuggestionContext.ofJson?_toJson {context : SuggestionContext} (proper : context.Proper) :
    ofJson? context.toJson = some context := by
  obtain ⟨text, selection, metadata, templateId, systemPrompt⟩ := context
  have settled : (Json.object metadata).settledFields? = some metadata := by
    rw [Json.settledFields?, proper.settle?]
    rfl
  cases templateId <;> cases systemPrompt <;>
  · rw [ofJson?, toJson, Record.read?_own rfl]
    simp [ofRecord?, Record.required?, Record.optional?, Record.withDefault?, Json.whenSome,
      Json.nullable?, Json.string?, settled]

theorem SuggestionRequest.ofJson?_toJson {request : SuggestionRequest}
    (proper : request.context.Proper) : ofJson? request.toJson = some request := by
  obtain ⟨documentId, message, context⟩ := request
  cases documentId <;>
  · rw [ofJson?, toJson, Record.read?_own rfl]
    simp [ofRecord?, Record.required?, Record.optional?, Record.withDefault?, Json.whenSome,
      Json.nullable?, Json.string?, SuggestionContext.ofJson?_toJson proper]

structure TraceEntry.Proper (entry : TraceEntry) : Prop where
  seq : Json.FitsNat64 entry.seq
  args : entry.args.Settled
  durationMs : Json.FitsNat64 entry.durationMs

theorem TraceEntry.ofJson?_toJson {entry : TraceEntry} (proper : entry.Proper) :
    ofJson? entry.toJson = some entry := by
  rw [ofJson?, toJson, Record.read?_own rfl]
  simp [ofRecord?, Record.required?, Json.string?, Json.nat64?_nat proper.seq,
    Json.nat64?_nat proper.durationMs, proper.args.settle?]

structure Suggestion.Proper (suggestion : Suggestion) : Prop where
  impact : suggestion.impact.Proper
  trace : ∀ entry ∈ suggestion.trace, entry.Proper
  executionMs : Json.FitsNat64 suggestion.executionMs

theorem Suggestion.ofJson?_toJson {suggestion : Suggestion} (proper : suggestion.Proper)
    (freshId : String) : ofJson? freshId suggestion.toJson = some suggestion := by
  obtain ⟨id, proposedText, summary, impact, trace, executionMs⟩ := suggestion
  have weighed : Impact.ofJson? impact.toJson = some impact := Impact.ofJson?_toJson proper.impact
  have traced : (Json.list TraceEntry.toJson trace).listOf? TraceEntry.ofJson? = some trace :=
    Json.listOf?_list fun entry member => TraceEntry.ofJson?_toJson (proper.trace entry member)
  have timed : (Json.nat executionMs).nat64? = some executionMs :=
    Json.nat64?_nat proper.executionMs
  cases proposedText <;> cases trace <;>
  · rw [ofJson?, toJson, Record.read?_own rfl]
    simp [ofRecord?, Record.optional?, Record.withDefault?, Json.whenSome, Json.nullable?,
      Json.string?, weighed, traced, timed]

theorem Notice.ofKind?_document {kind : String}
    (named : kind = "documentChanged" ∨ kind = "noteUpdated") (rest : Json) :
    ofKind? kind rest = (Record.read? documentFields 1 rest).bind ofDocument? := by
  obtain rfl | rfl := named <;> rfl

theorem Notice.ofJson?_toJson (notice : Notice) : ofJson? notice.toJson = some notice := by
  cases notice with
  | connected => rfl
  | disconnected => rfl
  | documentChanged documentId =>
      rw [ofJson?, toJson, Json.tagged?_cons (by simp) (by simp), Option.bind_some]
      dsimp only
      rw [ofKind?_document (.inl rfl), Record.read?_own rfl]
      simp [ofDocument?, Record.required?, Json.string?]

def ContentBlock.Proper : ContentBlock → Prop
  | toolUse _ _ input => input.Settled
  | _ => True

theorem ContentBlock.ofTagged?_toJson {block : ContentBlock} (proper : block.Proper)
    (numbered : List String) :
    ((block.toJson.tagged? numbered).bind fun (kind, rest) => ofKind? kind rest) = some block := by
  cases block with
  | text words =>
      have read (rest : Json) :
          ofKind? "text" rest = (Record.read? textFields 1 rest).bind ofText? := rfl
      rw [toJson, Json.tagged?_cons (by simp) (by simp), Option.bind_some]
      dsimp only
      rw [read, Record.read?_own rfl]
      simp [ofText?, Record.required?, Json.string?]
  | toolUse id name input =>
      have settled : input.Settled := proper
      have read (rest : Json) :
          ofKind? "tool_use" rest = (Record.read? toolUseFields 3 rest).bind ofToolUse? := rfl
      rw [toJson, Json.tagged?_cons (by simp [settled.isReadable]) (by simp), Option.bind_some]
      dsimp only
      rw [read, Record.read?_own rfl]
      simp [ofToolUse?, Record.required?, Json.string?, settled.settle?]
  | toolResult toolUseId content isError =>
      have read (rest : Json) :
          ofKind? "tool_result" rest = (Record.read? toolResultFields 3 rest).bind ofToolResult? :=
        rfl
      cases isError <;>
      · rw [toJson, List.cons_append, Json.tagged?_cons (by simp [Json.whenSome])
          (by simp [Json.whenSome]), Option.bind_some]
        dsimp only
        rw [read, Record.read?_own rfl]
        simp [ofToolResult?, Record.required?, Record.optional?, Record.withDefault?,
          Json.whenSome, Json.nullable?, Json.string?, Json.bool?]
  | unknown => rfl

theorem ContentBlock.ofJson?_toJson {block : ContentBlock} (proper : block.Proper) :
    ofJson? block.toJson = some block :=
  ofTagged?_toJson proper []

theorem ContentBlock.isReadable_toJson {block : ContentBlock} (proper : block.Proper) :
    block.toJson.isReadable := by
  obtain ⟨tagged, found, _⟩ := Option.bind_eq_some_iff.mp (ofTagged?_toJson proper [])
  exact Json.isReadable_of_tagged? found

def MessageContent.Proper : MessageContent → Prop
  | text _ => True
  | blocks all => ∀ block ∈ all, block.Proper

theorem MessageContent.ofJson?_toJson {content : MessageContent} (proper : content.Proper) :
    ofJson? content.toJson = some content := by
  cases content with
  | text words => rfl
  | blocks all =>
      have readable : (Json.list ContentBlock.toJson all).isReadable := by
        rw [Json.list, Json.isReadable_array, List.all_map, List.all_eq_true]
        exact fun block member => ContentBlock.isReadable_toJson (proper block member)
      have read : (Json.list ContentBlock.toJson all).listOf? ContentBlock.ofInnerJson? =
          some all :=
        Json.listOf?_list fun block member => ContentBlock.ofTagged?_toJson (proper block member) _
      rw [ofJson?.eq_def, toJson, if_pos readable]
      exact congrArg (Option.map blocks) read

theorem Message.ofJson?_toJson {message : Message} (proper : message.content.Proper) :
    ofJson? message.toJson = some message := by
  rw [ofJson?, toJson, Record.read?_own rfl]
  simp [ofRecord?, Record.required?, Json.string?, MessageContent.ofJson?_toJson proper]

structure VersionEntry.Proper (entry : VersionEntry) : Prop where
  nodeCount : Json.FitsNat64 entry.nodeCount
  edgeCount : Json.FitsNat64 entry.edgeCount

theorem VersionEntry.ofJson?_toJson {entry : VersionEntry} (proper : entry.Proper) :
    ofJson? entry.toJson = some entry := by
  rw [ofJson?, toJson, Record.read?_own rfl]
  simp [ofRecord?, Record.required?, Json.string?, Json.nat64?_nat proper.nodeCount,
    Json.nat64?_nat proper.edgeCount]

@[simp]
theorem ChatRole.ofJson?_toJson (role : ChatRole) : ofJson? role.toJson = some role := by
  cases role <;> decide

theorem ChatEntry.ofJson?_toJson (entry : ChatEntry) : ofJson? entry.toJson = some entry := by
  obtain ⟨id, role, text, suggestionId, timestamp⟩ := entry
  cases suggestionId <;>
  · rw [ofJson?, toJson, Record.read?_own rfl]
    simp [ofRecord?, Record.required?, Record.optional?, Record.withDefault?, Json.whenSome,
      Json.nullable?, Json.string?]

end Chartbook
