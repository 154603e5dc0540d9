import Chartbook.Agent.ToolCall
import Chartbook.Agent.Toolbox
import Chartbook.Proofs.Graph.Edit

/-!
Arguments of tool calls: they have no blanks around them, and whatever is refused is refused because of
an argument that the tool has.
-/

namespace Chartbook

def Tool.arguments (tool : Tool) : List String :=
  (((tool.inputSchema.get? "properties").bind Json.fields?).getD []).map Prod.fst

namespace Agent

def ToolError.argument : ToolError → String
  | missingArgument argument => argument
  | invalidArgument argument _ => argument

/-- The result is one that is wanted, or it is refused because of one of the arguments. -/
def Answers {Value : Type} (arguments : List String) (wanted : Value → Prop) :
    Except ToolError Value → Prop
  | .ok value => wanted value
  | .error error => error.argument ∈ arguments

def AsksTidily : Option Edit → Prop
  | some change =>
      ∀ node ∈ change.introduces, Text.Tidy node.id.toList ∧ Text.Tidy node.label.toList
  | none => False

variable {arguments : List String} {input item : Json} {key text : String}

namespace Answers

variable {Item First Second : Type} {expected : First → Prop} {wanted : Second → Prop}

theorem bind {first : Except ToolError First} {next : First → Except ToolError Second}
    (start : Answers arguments expected first)
    (later : ∀ value, expected value → Answers arguments wanted (next value)) :
    Answers arguments wanted (first >>= next) := by
  cases first with
  | error error => exact start
  | ok value => exact later value start

theorem mapM {read : Item → Except ToolError First} (items : List Item)
    (each : ∀ item, Answers arguments expected (read item)) :
    Answers arguments (fun results => ∀ result ∈ results, expected result) (items.mapM read) := by
  induction items with
  | nil =>
      rw [List.mapM_nil]
      exact List.forall_mem_nil _
  | cons item rest ih =>
      rw [List.mapM_cons]
      refine (each item).bind fun result here => ih.bind fun results there => ?_
      exact List.forall_mem_cons.mpr ⟨here, there⟩

end Answers

theorem tidy_of_text? (given : text? input key = some text) : Text.Tidy text.toList := by
  obtain ⟨_, _, shown⟩ := Option.bind_eq_some_iff.mp given
  exact Text.tidy_of_nonBlank? shown

theorem tidy_getD {given : Option String} (shown : ∀ text, given = some text → Text.Tidy text.toList)
    {standard : String} (tidy : Text.Tidy standard.toList) :
    Text.Tidy (given.getD standard).toList := by
  cases given with
  | none => exact tidy
  | some text => exact shown text rfl

theorem answers_requiredText (listed : key ∈ arguments) :
    Answers arguments (fun text => Text.Tidy text.toList) (requiredText input key) := by
  rw [requiredText]
  split
  · rename_i found
    exact tidy_of_text? found
  · exact listed

theorem answers_kindArgument (listed : "node_type" ∈ arguments) :
    Answers arguments (fun _ => True) (kindArgument input) := by
  rw [kindArgument]
  split
  · split
    · trivial
    · exact listed
  · trivial

theorem answers_listArgument (listed : key ∈ arguments) :
    Answers arguments (fun _ => True) (listArgument input key) := by
  rw [listArgument]
  split
  · trivial
  · split
    · trivial
    · exact listed
  · exact listed
  · exact listed

theorem answers_nodeArgument (listed : "nodes" ∈ arguments) :
    Answers arguments (fun node => Text.Tidy node.id.toList ∧ Text.Tidy node.label.toList)
      (nodeArgument item) := by
  rw [nodeArgument]
  split
  · rename_i id found
    exact ⟨tidy_of_text? found, tidy_getD (fun _ => tidy_of_text?) (tidy_of_text? found)⟩
  · exact listed

theorem answers_edgeArgument (listed : "edges" ∈ arguments) :
    Answers arguments (fun edge => Text.Tidy edge.source.toList ∧ Text.Tidy edge.target.toList)
      (edgeArgument item) := by
  rw [edgeArgument]
  split
  · rename_i source target first second
    exact ⟨tidy_of_text? first, tidy_of_text? second⟩
  · exact listed

theorem asksTidily_replace {nodes : List Node} {edges : List Edge}
    (tidyNodes : ∀ node ∈ nodes, Text.Tidy node.id.toList ∧ Text.Tidy node.label.toList)
    (tidyEnds : ∀ edge ∈ edges, Text.Tidy edge.source.toList ∧ Text.Tidy edge.target.toList) :
    AsksTidily (some (.replace nodes edges)) := by
  intro node member
  rw [Edit.introduces, List.mem_append, List.mem_flatMap] at member
  obtain declared | ⟨edge, present, mentioned⟩ := member
  · exact tidyNodes node declared
  · obtain ⟨start, finish⟩ := tidyEnds edge present
    rw [List.mem_cons, List.mem_singleton] at mentioned
    obtain rfl | rfl := mentioned
    · exact ⟨start, start⟩
    · exact ⟨finish, finish⟩

theorem editOf_cases (tool : String) (input : Json) :
    (∃ asked ∈ toolbox, asked.name = tool ∧
      Answers asked.arguments AsksTidily (editOf tool input)) ∨
    tool ∉ toolbox.map Tool.name ∧ editOf tool input = .ok none := by
  unfold editOf
  split
  · refine .inl ⟨addNode, by simp [toolbox], rfl, ?_⟩
    refine (answers_requiredText (by decide)).bind fun id tidy => ?_
    refine (answers_kindArgument (by decide)).bind fun _ _ => ?_
    have label : Text.Tidy ((Text.nonBlank? ((text? input "label").getD id)).getD id).toList :=
      tidy_getD (fun _ => Text.tidy_of_nonBlank?) tidy
    simpa [Answers, AsksTidily, Edit.introduces] using ⟨tidy, label⟩
  · refine .inl ⟨removeNode, by simp [toolbox], rfl, ?_⟩
    refine (answers_requiredText (by decide)).bind fun _ _ => ?_
    exact List.forall_mem_nil _
  · refine .inl ⟨addEdge, by simp [toolbox], rfl, ?_⟩
    refine (answers_requiredText (by decide)).bind fun _ start => ?_
    refine (answers_requiredText (by decide)).bind fun _ finish => ?_
    simp [Answers, AsksTidily, Edit.introduces, Node.mentioned, start, finish]
  · refine .inl ⟨removeEdge, by simp [toolbox], rfl, ?_⟩
    refine (answers_requiredText (by decide)).bind fun _ _ => ?_
    refine (answers_requiredText (by decide)).bind fun _ _ => ?_
    exact List.forall_mem_nil _
  · refine .inl ⟨replaceFlow, by simp [toolbox], rfl, ?_⟩
    refine (answers_listArgument (by decide)).bind fun nodes _ => ?_
    refine (Answers.mapM nodes fun _ => answers_nodeArgument (by decide)).bind fun _ tidyNodes => ?_
    refine (answers_listArgument (by decide)).bind fun edges _ => ?_
    refine (Answers.mapM edges fun _ => answers_edgeArgument (by decide)).bind fun _ tidyEnds => ?_
    exact asksTidily_replace tidyNodes tidyEnds
  · rename_i noAddNode noRemoveNode noAddEdge noRemoveEdge noReplaceFlow
    refine .inr ⟨?_, rfl⟩
    simpa [toolbox, addNode, removeNode, addEdge, removeEdge, replaceFlow] using
      ⟨noAddNode, noRemoveNode, noAddEdge, noRemoveEdge, noReplaceFlow⟩

theorem tidy_of_editOf {tool : String} {change : Edit} (asked : editOf tool input = .ok (some change)) :
    ∀ node ∈ change.introduces, Text.Tidy node.id.toList ∧ Text.Tidy node.label.toList := by
  obtain ⟨_, _, _, answers⟩ | ⟨_, nothing⟩ := editOf_cases tool input
  · rw [asked] at answers
    exact answers
  · rw [asked] at nothing
    cases nothing

end Agent

end Chartbook
