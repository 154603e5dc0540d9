import Chartbook.Proofs.Wire.RoundTrip

/-!
All formats together, and the other names that they accept for fields and tags. Main statement: what
is written is read back as it was, also after any of its names were replaced by accepted ones.
-/

namespace Chartbook

/-- The formats in which values are sent and stored. -/
inductive Format where
  | node
  | edge
  | graph
  | changeSet
  | impact
  | document
  | documentSummary
  | saveRequest
  | selection
  | suggestionContext
  | suggestionRequest
  | traceEntry
  | suggestion
  | notice
  | contentBlock
  | message
  | versionEntry
  | chatEntry

namespace Format

def Value : Format → Type
  | node => Node
  | edge => Edge
  | graph => Graph
  | changeSet => ChangeSet
  | impact => Impact
  | document => Document
  | documentSummary => DocumentSummary
  | saveRequest => SaveRequest
  | selection => Selection
  | suggestionContext => SuggestionContext
  | suggestionRequest => SuggestionRequest
  | traceEntry => TraceEntry
  | suggestion => Suggestion
  | notice => Notice
  | contentBlock => ContentBlock
  | message => Message
  | versionEntry => VersionEntry
  | chatEntry => ChatEntry

def write : (format : Format) → format.Value → Json
  | node => Node.toJson
  | edge => Edge.toJson
  | graph => Graph.toJson
  | changeSet => ChangeSet.toJson
  | impact => Impact.toJson
  | document => Document.toJson
  | documentSummary => DocumentSummary.toJson
  | saveRequest => SaveRequest.toJson
  | selection => Selection.toJson
  | suggestionContext => SuggestionContext.toJson
  | suggestionRequest => SuggestionRequest.toJson
  | traceEntry => TraceEntry.toJson
  | suggestion => Suggestion.toJson
  | notice => Notice.toJson
  | contentBlock => ContentBlock.toJson
  | message => Message.toJson
  | versionEntry => VersionEntry.toJson
  | chatEntry => ChatEntry.toJson

def read? (freshId : String) : (format : Format) → Json → Option format.Value
  | node => Node.ofJson?
  | edge => Edge.ofJson?
  | graph => Graph.ofJson?
  | changeSet => ChangeSet.ofJson?
  | impact => Impact.ofJson?
  | document => Document.ofJson?
  | documentSummary => DocumentSummary.ofJson?
  | saveRequest => SaveRequest.ofJson?
  | selection => Selection.ofJson?
  | suggestionContext => SuggestionContext.ofJson?
  | suggestionRequest => SuggestionRequest.ofJson?
  | traceEntry => TraceEntry.ofJson?
  | suggestion => Suggestion.ofJson? freshId
  | notice => Notice.ofJson?
  | contentBlock => ContentBlock.ofJson?
  | message => Message.ofJson?
  | versionEntry => VersionEntry.ofJson?
  | chatEntry => ChatEntry.ofJson?

/-- Numbers are within the range of their fields, and free-form data is settled. -/
def Proper : (format : Format) → format.Value → Prop
  | impact => Impact.Proper
  | suggestionContext => SuggestionContext.Proper
  | suggestionRequest => fun request => request.context.Proper
  | traceEntry => TraceEntry.Proper
  | suggestion => Suggestion.Proper
  | contentBlock => ContentBlock.Proper
  | message => fun message => message.content.Proper
  | versionEntry => VersionEntry.Proper
  | _ => fun _ => True

theorem read?_write (freshId : String) {format : Format} {value : format.Value}
    (proper : format.Proper value) : format.read? freshId (format.write value) = some value := by
  cases format with
  | node => exact Node.ofJson?_toJson value
  | edge => exact Edge.ofJson?_toJson value
  | graph => exact Graph.ofJson?_toJson value
  | changeSet => exact ChangeSet.ofJson?_toJson value
  | impact => exact Impact.ofJson?_toJson proper
  | document => exact Document.ofJson?_toJson value
  | documentSummary => exact DocumentSummary.ofJson?_toJson value
  | saveRequest => exact SaveRequest.ofJson?_toJson value
  | selection => exact Selection.ofJson?_toJson value
  | suggestionContext => exact SuggestionContext.ofJson?_toJson proper
  | suggestionRequest => exact SuggestionRequest.ofJson?_toJson proper
  | traceEntry => exact TraceEntry.ofJson?_toJson proper
  | suggestion => exact Suggestion.ofJson?_toJson proper freshId
  | notice => exact Notice.ofJson?_toJson value
  | contentBlock => exact ContentBlock.ofJson?_toJson proper
  | message => exact Message.ofJson?_toJson proper
  | versionEntry => exact VersionEntry.ofJson?_toJson proper
  | chatEntry => exact ChatEntry.ofJson?_toJson value

/-- Another name that a format accepts, as a change of what is written. -/
inductive Accepts : Format → (Json → Json) → Prop
  | text : Accepts document (Json.rename "markdown" "text")
  | nodesDelta : Accepts impact (Json.rename "nodeDelta" "nodesDelta")
  | edgesDelta : Accepts impact (Json.rename "edgeDelta" "edgesDelta")
  | impact : Accepts suggestion (Json.rename "impacts" "impact")
  | inside {change : Json → Json} (accepts : Accepts impact change) (name : String)
      (named : name = "impacts" ∨ name = "impact") :
      Accepts suggestion (Json.inField name change)
  | noteId : Accepts notice (Json.rename "documentId" "noteId")
  | noteUpdated :
      Accepts notice (Json.inField "type" (Json.reword "documentChanged" "noteUpdated"))

end Format

theorem Document.ofJson?_text (json : Json) :
    ofJson? (json.rename "markdown" "text") = ofJson? json := by
  rw [ofJson?, Record.read?_rename (by decide), ofJson?]

theorem Impact.ofJson?_nodesDelta (json : Json) :
    ofJson? (json.rename "nodeDelta" "nodesDelta") = ofJson? json := by
  rw [ofJson?, Record.read?_rename (by decide), ofJson?]

theorem Impact.ofJson?_edgesDelta (json : Json) :
    ofJson? (json.rename "edgeDelta" "edgesDelta") = ofJson? json := by
  rw [ofJson?, Record.read?_rename (by decide), ofJson?]

theorem Suggestion.ofJson?_impact (freshId : String) (json : Json) :
    ofJson? freshId (json.rename "impacts" "impact") = ofJson? freshId json := by
  rw [ofJson?, Record.read?_rename (by decide), ofJson?]

theorem Suggestion.ofJson?_inField (freshId : String) {change : Json → Json}
    (unseen : ∀ json, Impact.ofJson? (change json) = Impact.ofJson? json) {name : String}
    (named : name = "impacts" ∨ name = "impact") (json : Json) :
    ofJson? freshId (json.inField name change) = ofJson? freshId json := by
  have owned : (fieldNames.find? (·.goesBy name)).map (·.name) = some "impacts" := by
    obtain rfl | rfl := named <;> decide
  refine Record.bind_read?_inField (fun fields => ?_) 0 json
  let kept : Record := { fields := Record.known fieldNames fields }
  let changed : Record :=
    { fields := Record.known fieldNames (fields.map (Json.changed name change)) }
  have weighed : changed.withDefault? "impacts" Impact.none Impact.ofJson? =
      kept.withDefault? "impacts" Impact.none Impact.ofJson? :=
    Record.withDefault?_changed owned _ (fun _ => unseen) Impact.none fields
  have others {other : String} (differ : "impacts" ≠ other) {Value : Type} (fallback : Value)
      (decode : Json → Option Value) :
      changed.withDefault? other fallback decode = kept.withDefault? other fallback decode :=
    Record.withDefault?_changed owned decode (fun same => absurd same differ) fallback fields
  change ofRecord? freshId changed = ofRecord? freshId kept
  simp (disch := decide) only [ofRecord?, Record.optional?, weighed, others]

theorem Notice.ofJson?_noteId (json : Json) :
    ofJson? (json.rename "documentId" "noteId") = ofJson? json := by
  cases json with
  | object fields =>
      rw [ofJson?, ofJson?, Json.tagged?_rename (by decide) (by decide), Option.bind_map]
      refine Option.bind_congr fun tagged _ => ?_
      obtain ⟨kind, rest⟩ := tagged
      have read : Record.read? documentFields 1 (rest.rename "documentId" "noteId") =
          Record.read? documentFields 1 rest := Record.read?_rename (by decide) 1 rest
      have bare : (rest.rename "documentId" "noteId").isBare = rest.isBare := by
        cases rest <;> rfl
      simp only [Function.comp_apply, ofKind?, read, bare]
  | _ => rfl

theorem Notice.ofJson?_noteUpdated (json : Json) :
    ofJson? (json.inField "type" (Json.reword "documentChanged" "noteUpdated")) = ofJson? json := by
  cases json with
  | object fields =>
      rw [ofJson?, ofJson?, Json.tagged?_reword, Option.bind_map]
      refine Option.bind_congr fun tagged _ => ?_
      obtain ⟨kind, rest⟩ := tagged
      rw [Function.comp_apply]
      dsimp only
      split
      · rename_i same
        rw [ofKind?_document (.inr rfl), ofKind?_document (.inl same)]
      · rfl
  | _ => rfl

namespace Format

theorem Accepts.read?_eq (freshId : String) {format : Format} {change : Json → Json}
    (accepts : format.Accepts change) (json : Json) :
    format.read? freshId (change json) = format.read? freshId json := by
  induction accepts generalizing json with
  | text => exact Document.ofJson?_text json
  | nodesDelta => exact Impact.ofJson?_nodesDelta json
  | edgesDelta => exact Impact.ofJson?_edgesDelta json
  | impact => exact Suggestion.ofJson?_impact freshId json
  | inside _ name named ih => exact Suggestion.ofJson?_inField freshId ih named json
  | noteId => exact Notice.ofJson?_noteId json
  | noteUpdated => exact Notice.ofJson?_noteUpdated json

theorem read?_accepted (freshId : String) {format : Format} {changes : List (Json → Json)}
    (accepted : ∀ change ∈ changes, format.Accepts change) (json : Json) :
    format.read? freshId (changes.foldl (fun json change => change json) json) =
      format.read? freshId json := by
  induction changes generalizing json with
  | nil => rfl
  | cons change rest ih =>
      rw [List.foldl_cons, ih fun later member => accepted later (List.mem_cons_of_mem _ member)]
      exact (accepted change List.mem_cons_self).read?_eq freshId json

/-- Every value whose numbers are in range is read as it was written, and still is after any of the
written names were replaced by others that the format accepts. -/
theorem read_as_written (freshId : String) (format : Format) (value : format.Value)
    (proper : format.Proper value) :
    format.read? freshId (format.write value) = some value ∧
    ∀ changes : List (Json → Json), (∀ change ∈ changes, format.Accepts change) →
      format.read? freshId (changes.foldl (fun json change => change json) (format.write value)) =
        some value := by
  have written := read?_write freshId proper
  exact ⟨written, fun changes accepted => (read?_accepted freshId accepted _).trans written⟩

theorem suggestion_of_other_sender :
    let impact : Impact :=
      { nodeDelta := 2, edgeDelta := -1, changedNodeIds := ["a"], changedEdgeIds := [] }
    let entry : TraceEntry :=
      { seq := 1, tool := "add_node", args := .object [("id", .string "a"), ("tags", .array [.null])]
        result := "ok", durationMs := 12 }
    let proposal : Suggestion :=
      { id := "s", proposedText := some "[a]", summary := "", impact, trace := [entry]
        executionMs := 40 }
    let changes : List (Json → Json) :=
      [Json.rename "impacts" "impact",
        Json.inField "impact" (Json.rename "nodeDelta" "nodesDelta"),
        Json.inField "impact" (Json.rename "edgeDelta" "edgesDelta")]
    let sent : Json :=
      .object [("suggestionId", .string "s"), ("markdown", .string "[a]"), ("summary", .string ""),
        ("impact", .object [("nodesDelta", .int 2), ("edgesDelta", .int (-1)),
          ("changedNodeIds", .strings ["a"]), ("changedEdgeIds", .strings [])]),
        ("agentTrace", .array [entry.toJson]), ("executionMs", .nat 40)]
    Proper suggestion proposal ∧ (∀ change ∈ changes, Accepts suggestion change) ∧
    changes.foldl (fun json change => change json) (write suggestion proposal) = sent ∧
    read? "fresh" suggestion sent = some proposal := by
  intro impact entry proposal changes sent
  have args : entry.args.Settled := by
    refine .object _ (by decide) ?_
    simp only [List.forall_mem_cons]
    exact ⟨.string "a", .array _ (by simpa using .null), by simp⟩
  have proper : Proper suggestion proposal :=
    { impact := { nodeDelta := by decide, edgeDelta := by decide }
      trace := by simpa [proposal] using { seq := by decide, args, durationMs := by decide }
      executionMs := by decide }
  have accepted : ∀ change ∈ changes, Accepts suggestion change := by
    simp only [changes, List.forall_mem_cons]
    exact ⟨.impact, .inside .nodesDelta _ (.inr rfl), .inside .edgesDelta _ (.inr rfl), by simp⟩
  have spelled : changes.foldl (fun json change => change json) (write suggestion proposal) = sent :=
    rfl
  refine ⟨proper, accepted, spelled, ?_⟩
  rw [← spelled]
  exact (read_as_written "fresh" suggestion proposal proper).2 changes accepted

end Format

end Chartbook
