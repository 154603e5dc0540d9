import Chartbook.Proofs.Agent.Editing

/-!
Tool calls one by one. Main statement: a call that is refused leaves the chart as it is and names an
argument of its tool, any other call is carried out whole, and whatever is called, no blank id or label
comes into the chart.
-/

namespace Chartbook

theorem Graph.neat_ofText (text : String) : (ofText text).Neat where
  wellFormed := wellFormed_ofStatements _
  nodes := by
    intro node member
    obtain ⟨id, label⟩ := FlowText.oneLine_of_mem_nodes member
    exact ⟨id.1, label.1⟩
  edges := fun _ member label known => (FlowText.oneLine_of_mem_edges member label known).1

namespace Agent

section Execute

variable {graph : Graph} {tool : String} {input : Json}

theorem unchanged_of_refused {error : ToolError}
    (refused : (execute graph tool input).1 = .error error) :
    (execute graph tool input).2 = graph ∧
    ∃ asked ∈ toolbox, asked.name = tool ∧ error.argument ∈ asked.arguments := by
  obtain ⟨asked, known, named, answers⟩ | ⟨_, nothing⟩ := editOf_cases tool input
  · rw [execute] at refused ⊢
    split at refused
    · cases refused
    · cases refused
    · rename_i blamed
      cases refused
      rw [blamed] at answers
      exact ⟨rfl, asked, known, named, answers⟩
  · rw [execute, nothing] at refused
    cases refused

theorem refused_or_whole (known : tool ∈ toolbox.map Tool.name) (input : Json) :
    (∃ error, ∀ graph, execute graph tool input = (.error error, graph)) ∨
    ∃ change, ∀ graph : Graph, execute graph tool input =
      (.ok (graph.edit change).1.message, (graph.edit change).2) := by
  obtain ⟨_, _, _, answers⟩ | ⟨unknown, _⟩ := editOf_cases tool input
  · cases result : editOf tool input with
    | error error =>
        refine .inl ⟨error, fun graph => ?_⟩
        rw [execute, result]
    | ok change =>
        rw [result] at answers
        cases change with
        | none => exact absurd answers id
        | some edit =>
            refine .inr ⟨edit, fun graph => ?_⟩
            rw [execute, result]
  · exact absurd known unknown

theorem execute_unknown (unknown : tool ∉ toolbox.map Tool.name) (input : Json) (graph : Graph) :
    execute graph tool input = (.ok ("unknown tool: " ++ tool), graph) := by
  obtain ⟨asked, known, rfl, _⟩ | ⟨_, nothing⟩ := editOf_cases tool input
  · exact absurd (List.mem_map_of_mem known) unknown
  · rw [execute, nothing]

theorem keeps_neat (use : ToolUse) : Keeps Graph.Neat use :=
  fun _ asked _ neat => neat.edit (tidy_of_editOf asked)

end Execute

/-- A call that is refused leaves the chart as it is and names an argument that the model was told of.
A call of a tool is refused whatever the chart or carries out one edit whatever the chart. A tool that
is not there is never refused and changes nothing. After any calls, the ids and labels of a chart that
was read from a text are still something to see, with no blanks around. -/
theorem calls_whole_or_refused :
    (∀ (graph : Graph) (tool : String) (input : Json) (error : ToolError),
      (execute graph tool input).1 = .error error →
      (execute graph tool input).2 = graph ∧
      ∃ asked ∈ toolbox, asked.name = tool ∧ error.argument ∈ asked.arguments) ∧
    (∀ tool ∈ toolbox.map Tool.name, ∀ input,
      (∃ error, ∀ graph, execute graph tool input = (.error error, graph)) ∨
      ∃ change, ∀ graph : Graph, execute graph tool input =
        (.ok (graph.edit change).1.message, (graph.edit change).2)) ∧
    (∀ tool ∉ toolbox.map Tool.name, ∀ input graph,
      execute graph tool input = (.ok ("unknown tool: " ++ tool), graph)) ∧
    ∀ (text : String) (progress : Progress) (uses : List ToolUse),
      let reached := ({ progress with graph := Graph.ofText text }.carryOutAll uses).2.graph
      (∀ node ∈ reached.nodes, Text.Tidy node.id.toList ∧ Text.Tidy node.label.toList) ∧
      ∀ edge ∈ reached.edges, ∀ label ∈ edge.label, Text.Tidy label.toList := by
  refine ⟨?_, ?_, ?_, ?_⟩
  · intro graph tool input error refused
    exact unchanged_of_refused refused
  · intro tool known input
    exact refused_or_whole known input
  · intro tool unknown input graph
    exact execute_unknown unknown input graph
  · intro text progress uses reached
    have neat : reached.Neat :=
      carryOutAll_keeps (fun use _ => keeps_neat use) (Graph.neat_ofText text)
    exact ⟨neat.nodes, neat.edges⟩

theorem half_a_replacement_refused :
    let input : Json := .object
      [("edges", .array [.object [("source", .string "n"), ("target", .string "n")],
          .object [("source", .string "n"), ("target", .string " ")]]),
        ("nodes", .string "[\x7b\"id\": \"n\", \"type\": \"selector\"\x7d]")]
    let graph := Graph.ofText "[a] -> [b] : go"
    let error := ToolError.invalidArgument "edges" "edge without source or target"
    (execute graph "replace_flow" input).1 = .error error ∧
    (execute graph "replace_flow" input).2 = graph := by
  intro input graph error
  have refused : (execute graph "replace_flow" input).1 = .error error := by decide +kernel
  exact ⟨refused, (calls_whole_or_refused.1 graph "replace_flow" input error refused).1⟩

end Agent

end Chartbook
