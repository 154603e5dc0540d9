import Chartbook.Agent.Run
import Chartbook.Proofs.Agent.Arguments
import Chartbook.Proofs.FlowText.Reach
import Chartbook.Proofs.FlowText.Splice

/-!
What becomes of the edits that a language model asks for. Main statement: the document made from them
holds the edited chart exactly if no label breaks a line and no declaration is taken for an edge.
-/

namespace Chartbook

theorem Dialogue.holdWith_bind {Query State First Second : Type} {Reply : Query → Type}
    (answer : State → (query : Query) → Reply query × State) (dialogue : Dialogue Query Reply First)
    (next : First → Dialogue Query Reply Second) (state : State) :
    (dialogue.bind next).holdWith answer state =
      (next (dialogue.holdWith answer state).1).holdWith answer
        (dialogue.holdWith answer state).2 := by
  induction dialogue generalizing state with
  | done value => rfl
  | ask query rest ih => exact ih _ _

namespace Agent

open FlowText

section Conversation

variable {invariant : Graph → Prop}

def Keeps (invariant : Graph → Prop) (use : ToolUse) : Prop :=
  ∀ change, editOf use.name use.input = .ok (some change) →
    ∀ graph, invariant graph → invariant (graph.edit change).2

theorem execute_keeps {use : ToolUse} (kept : Keeps invariant use) {graph : Graph}
    (holds : invariant graph) : invariant (execute graph use.name use.input).2 := by
  rw [execute]
  split
  · rename_i change asked
    exact kept change asked graph holds
  · exact holds
  · exact holds

theorem carryOutAll_keeps {uses : List ToolUse} (kept : ∀ use ∈ uses, Keeps invariant use)
    {progress : Progress} (holds : invariant progress.graph) :
    invariant (progress.carryOutAll uses).2.graph := by
  induction uses generalizing progress with
  | nil => exact holds
  | cons use rest ih =>
      rw [Progress.carryOutAll]
      refine ih (fun other later => kept other (List.mem_cons_of_mem use later)) ?_
      exact execute_keeps (kept use List.mem_cons_self) holds

theorem work_keeps {reply : ChatReply} (kept : ∀ use ∈ toolUses reply, Keeps invariant use)
    {progress : Progress} (holds : invariant progress.graph) :
    invariant (progress.work reply).graph :=
  carryOutAll_keeps kept holds

variable {settings : Settings} {system : String} {script : ChatScript} {progress final : Progress}

theorem converse_keeps {rounds : Nat}
    (kept : ∀ reply, .ok reply ∈ script.replies → ∀ use ∈ toolUses reply, Keeps invariant use)
    (holds : invariant progress.graph)
    (held : ((converse settings system rounds progress).holdWith ChatScript.answer script).1 =
      .ok final) : invariant final.graph := by
  induction rounds generalizing progress script with
  | zero =>
      cases held
      exact holds
  | succ rounds ih =>
      cases replies : script.replies with
      | nil => simp [converse, Dialogue.holdWith, ChatScript.answer, replies] at held
      | cons answer rest =>
          cases answer with
          | error error => simp [converse, Dialogue.holdWith, ChatScript.answer, replies] at held
          | ok reply =>
              have heard : ∀ use ∈ toolUses reply, Keeps invariant use :=
                kept reply (by simp [replies])
              have worked : invariant ((progress.hear reply).work reply).graph :=
                work_keeps heard holds
              simp only [converse, Dialogue.holdWith, ChatScript.answer, replies] at held
              split at held
              · cases held
                exact holds
              · split at held
                · refine ih ?_ worked held
                  intro other later
                  exact kept other (by simp [replies, later])
                · cases held
                  exact worked

end Conversation

/-- A well-formed chart with bare ids, and with labels that have no blanks around them. -/
structure Tame (graph : Graph) : Prop where
  wellFormed : graph.WellFormed
  bare : BareIds graph
  labels : ∀ node ∈ graph.nodes, Text.Tidy node.label.toList
  edgeLabels : ∀ edge ∈ graph.edges, edge.TidyLabel

theorem tame_ofText {text : String}
    (bare : ∀ node ∈ (Graph.ofText text).nodes, Bare node.id.toList) : Tame (Graph.ofText text) where
  wellFormed := Graph.wellFormed_ofStatements _
  bare := fun node member => ⟨(oneLine_of_mem_nodes member).1.1, bare node member⟩
  labels := fun _ member => (oneLine_of_mem_nodes member).2.1
  edgeLabels := fun _ member label known => (oneLine_of_mem_edges member label known).1

theorem Tame.neat {graph : Graph} (tame : Tame graph) : graph.Neat where
  wellFormed := tame.wellFormed
  nodes := fun node member => ⟨(tame.bare node member).1, tame.labels node member⟩
  edges := tame.edgeLabels

theorem Tame.edit {graph : Graph} (tame : Tame graph) {change : Edit}
    (bare : ∀ node ∈ change.introduces, Bare node.id.toList)
    (tidy : ∀ node ∈ change.introduces, Text.Tidy node.id.toList ∧ Text.Tidy node.label.toList) :
    Tame (graph.edit change).2 := by
  have neat := tame.neat.edit tidy
  refine
    { wellFormed := neat.wellFormed
      bare := ?_
      labels := fun node member => (neat.nodes node member).2
      edgeLabels := neat.edges }
  intro node member
  obtain present | brought := Graph.mem_nodes_edit change member
  · exact tame.bare node present
  · exact ⟨(tidy node brought).1, bare node brought⟩

theorem keeps_tame {use : ToolUse} (bare : ∀ change, editOf use.name use.input = .ok (some change) →
    ∀ node ∈ change.introduces, Bare node.id.toList) : Keeps Tame use := by
  intro change asked graph tame
  exact tame.edit (bare change asked) (tidy_of_editOf asked)

theorem Tame.comes_back_iff {graph : Graph} (tame : Tame graph) :
    let again := Graph.ofText graph.toText
    again.nodes.Perm graph.nodes ∧ again.edges.Perm graph.edges ↔
      (∀ node ∈ graph.nodes, '\n' ∉ node.label.toList ∧ ∀ source target label,
        Statement.read? (nodeLine node) ≠ some (.edge source target label)) ∧
      ∀ edge ∈ graph.edges, ∀ label ∈ edge.label, '\n' ∉ label.toList := by
  intro again
  constructor
  · rintro ⟨nodes, edges⟩
    have writable : Writable graph :=
      writable_of_kept tame.wellFormed tame.bare (fun _ member => nodes.mem_iff.mpr member)
        (fun _ member => edges.mem_iff.mpr member)
    exact ⟨fun node member => ⟨(writable.labels node member).2, writable.declarations node member⟩,
      fun edge member label known => (writable.edgeLabels edge member label known).2⟩
  · rintro ⟨nodes, edges⟩
    have writable : Writable graph :=
      { labels := fun node member => ⟨tame.labels node member, (nodes node member).1⟩
        declarations := fun node member => (nodes node member).2
        edgeLabels := fun edge member label known =>
          ⟨tame.edgeLabels edge member label known, edges edge member label known⟩ }
    have reading : again = Graph.ofStatements (printed graph) :=
      ofText_toText_of_writable tame.wellFormed tame.bare writable
    rw [reading, edges_printed tame.wellFormed]
    exact ⟨perm_nodes_printed tame.wellFormed, .refl _⟩

/-- The model's last words hold no document of its own. -/
def Progress.Undecided (progress : Progress) : Prop :=
  ∀ answer ∈ progress.lastWords.bind Answer.extract?,
    answer.markdown.filter (fun markdown => !Text.blank markdown) = none

theorem conclude_edited {request : SuggestionRequest} {freshId : String} {progress : Progress}
    (undecided : progress.Undecided) (changed : progress.graph ≠ Graph.ofText request.context.text) :
    ∃ suggestion, conclude request freshId progress = .ok suggestion ∧
      suggestion.proposedText = some (splice request.context.text progress.graph) := by
  have edited : edited? request.context.text (Graph.ofText request.context.text) progress.graph =
      some (splice request.context.text progress.graph) := if_neg changed
  have proposed : ∃ summary, proposal? request.context.text (Graph.ofText request.context.text)
      progress = some (some (splice request.context.text progress.graph), summary) := by
    rw [proposal?, edited]
    cases found : progress.lastWords.bind Answer.extract? with
    | none => exact ⟨_, rfl⟩
    | some answer =>
        have silent := undecided answer found
        dsimp only
        rw [silent]
        exact ⟨_, rfl⟩
  obtain ⟨summary, proposed⟩ := proposed
  rw [conclude, proposed]
  exact ⟨_, rfl, rfl⟩

/-- A conversation about bare ids in which the model edits the chart and proposes no document. -/
structure Editing (settings : Settings) (request : SuggestionRequest) (script : ChatScript)
    (progress : Progress) : Prop where
  bare : ∀ node ∈ (Graph.ofText request.context.text).nodes, Bare node.id.toList
  calls : ∀ reply, .ok reply ∈ script.replies → ∀ use ∈ toolUses reply, ∀ change,
    editOf use.name use.input = .ok (some change) → ∀ node ∈ change.introduces, Bare node.id.toList
  asked : Text.blank request.message = false
  held : ((converse settings (systemPrompt request) settings.maxToolIterations
    (start request)).holdWith ChatScript.answer script).1 = .ok progress
  undecided : progress.Undecided
  changed : progress.graph ≠ Graph.ofText request.context.text

theorem Editing.suggests {settings : Settings} {request : SuggestionRequest} {script : ChatScript}
    {progress : Progress} (editing : Editing settings request script progress) (freshId : String) :
    ∃ suggestion,
      ((suggest settings freshId request).holdWith ChatScript.answer script).1 = .ok suggestion ∧
      suggestion.proposedText = some (splice request.context.text progress.graph) := by
  rw [suggest, if_neg (by simp [editing.asked]), Dialogue.holdWith_bind, editing.held]
  exact conclude_edited editing.undecided editing.changed

/-- Where the model proposes no document of its own, the suggestion is the document with the edited
chart. Read again, it is the edited chart exactly if every label stands in one line and no declaration
is taken for an edge. -/
theorem edits_kept_iff (settings : Settings) (freshId : String) (request : SuggestionRequest)
    (script : ChatScript) (progress : Progress)
    (editing : Editing settings request script progress) :
    ∃ suggestion text,
      ((suggest settings freshId request).holdWith ChatScript.answer script).1 = .ok suggestion ∧
      suggestion.proposedText = some text ∧
      ((Graph.ofText text).nodes.Perm progress.graph.nodes ∧
        (Graph.ofText text).edges.Perm progress.graph.edges ↔
      (∀ node ∈ progress.graph.nodes, '\n' ∉ node.label.toList ∧ ∀ source target label,
        Statement.read? (nodeLine node) ≠ some (.edge source target label)) ∧
      ∀ edge ∈ progress.graph.edges, ∀ label ∈ edge.label, '\n' ∉ label.toList) := by
  have tame : Tame progress.graph := by
    refine converse_keeps ?_ (tame_ofText editing.bare) editing.held
    exact fun reply heard use among => keeps_tame (editing.calls reply heard use among)
  obtain ⟨suggestion, concluded, proposed⟩ := editing.suggests freshId
  refine ⟨suggestion, _, concluded, proposed, ?_⟩
  rw [ofText_splice]
  exact tame.comes_back_iff

def askingToGo : SuggestionRequest where
  documentId := none
  message := "go"
  context :=
    { text := "```flow\n```\n", selection := .none, metadata := [], templateId := none
      systemPrompt := none }

def saying (content : List ContentBlock) (stopReason : String) : ChatReply :=
  { content, model := "", stopReason, inputTokens := 0, outputTokens := 0 }

def addingInput (label : String) : Json :=
  .object [("label", .string label), ("node_id", .string "x")]

def calling (label : String) : ChatReply :=
  saying [.toolUse "c1" "add_node" (addingInput label)] "tool_use"

def adding (label : String) : ChatScript :=
  { replies := [.ok (calling label), .ok (saying [.text "Done."] "end_turn")], calls := [] }

theorem editing_one_node {label : String} (tidy : Text.nonBlank? label = some label) :
    ∃ progress, Editing .standard askingToGo (adding label) progress ∧
      progress.graph = { nodes := [{ id := "x", label, kind := .plain }], edges := [] } := by
  have empty : Graph.ofText askingToGo.context.text = Graph.empty := by decide +kernel
  have named : editOf "add_node" (addingInput label) = .ok (some (.addNode "x" label .plain)) := by
    have given : text? (addingInput label) "label" = some label := tidy
    have shown : editOf "add_node" (addingInput label) =
        .ok (some (.addNode "x" ((text? (addingInput label) "label").getD "x") .plain)) := rfl
    rw [shown, given]
    rfl
  let progress := (((start askingToGo).hear (calling label)).work (calling label)).hear
    (saying [.text "Done."] "end_turn")
  have shape : progress.graph = { nodes := [{ id := "x", label, kind := .plain }], edges := [] } := by
    change (execute (Graph.ofText askingToGo.context.text) "add_node" (addingInput label)).2 = _
    rw [empty, execute, named]
    simp [Graph.edit, Graph.addNode, Graph.empty, Graph.hasNode, tidy]
  refine ⟨progress,
    { bare := ?_, calls := ?_, asked := by decide, held := rfl, undecided := ?_, changed := ?_ },
    shape⟩
  · rw [empty]
    simp [Graph.empty]
  · intro reply heard use among change asked node brought
    have spoken : reply = calling label ∨ reply = saying [.text "Done."] "end_turn" := by
      simpa [adding] using heard
    obtain rfl | rfl := spoken
    · obtain rfl : use = ⟨"c1", "add_node", addingInput label⟩ := by
        simpa [toolUses, calling, saying] using among
      rw [named] at asked
      cases asked
      obtain rfl := List.mem_singleton.mp brought
      have bare : Bare "x".toList := by decide
      exact bare
    · simp [toolUses, saying] at among
  · have silent : Answer.extract? "Done." = none := by decide +kernel
    intro answer found
    change Answer.extract? "Done." = some answer at found
    rw [silent] at found
    cases found
  · rw [shape, empty]
    simp [Graph.empty]

theorem arrow_in_label_kept :
    ∃ progress suggestion text,
      Editing .standard askingToGo (adding "Ready? -> [no] : go") progress ∧
      ((suggest .standard "s1" askingToGo).holdWith ChatScript.answer
        (adding "Ready? -> [no] : go")).1 = .ok suggestion ∧
      suggestion.proposedText = some text ∧
      (Graph.ofText text).nodes.Perm progress.graph.nodes ∧
      (Graph.ofText text).edges.Perm progress.graph.edges := by
  have tidy : Text.nonBlank? "Ready? -> [no] : go" = some "Ready? -> [no] : go" := by decide
  obtain ⟨progress, editing, shape⟩ := editing_one_node tidy
  obtain ⟨suggestion, text, held, proposed, same⟩ :=
    edits_kept_iff .standard "s1" askingToGo (adding "Ready? -> [no] : go") progress editing
  refine ⟨progress, suggestion, text, editing, held, proposed, same.mpr ?_⟩
  have declared : ∀ node ∈ progress.graph.nodes,
      '\n' ∉ node.label.toList ∧ Statement.read? (nodeLine node) = some (.node node) := by
    rw [shape]
    decide
  refine ⟨fun node member => ⟨(declared node member).1, ?_⟩, by simp [shape]⟩
  intro source target label misread
  cases (declared node member).2.symm.trans misread

/-- The second line of a label is read as a node of its own. -/
theorem broken_label_lost :
    ∃ progress suggestion text,
      Editing .standard askingToGo (adding "Check\n[stock]") progress ∧
      ((suggest .standard "s1" askingToGo).holdWith ChatScript.answer
        (adding "Check\n[stock]")).1 = .ok suggestion ∧
      suggestion.proposedText = some text ∧
      ¬(Graph.ofText text).nodes.Perm progress.graph.nodes := by
  have tidy : Text.nonBlank? "Check\n[stock]" = some "Check\n[stock]" := by decide
  obtain ⟨progress, editing, shape⟩ := editing_one_node tidy
  obtain ⟨suggestion, concluded, proposed⟩ := editing.suggests "s1"
  refine ⟨progress, suggestion, _, editing, concluded, proposed, ?_⟩
  rw [ofText_splice, shape]
  decide +kernel

end Agent

end Chartbook
