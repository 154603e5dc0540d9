import Chartbook.Proofs.FlowText.Misreading
import Chartbook.Proofs.FlowText.Printed
import Mathlib.Data.List.Perm.Subperm

/-!
Writing the chart of a text and reading it again. Main statement: this gives the same nodes and edges
exactly if every line that is written is read as the statement it stands for.
-/

namespace Chartbook

theorem map_eq_map_some {Entry : Type} {read : Entry → Option Entry} {all : List Entry}
    (total : ∀ entry ∈ all, (read entry).isSome) :
    all.map read = (all.filterMap read).map some := by
  induction all with
  | nil => rfl
  | cons first rest ih =>
      obtain ⟨next, here⟩ := Option.isSome_iff_exists.mp (total first List.mem_cons_self)
      have later := ih fun entry member => total entry (List.mem_cons_of_mem first member)
      rw [List.map_cons, List.filterMap_cons_some here, List.map_cons, here, later]

/-- A reading that gives back every entry of a list gives back each from itself, if from another entry
it leads to a simpler one, or to one that it does not lead on from. -/
theorem fixed_of_covered {Entry : Type} [DecidableEq Entry] {read : Entry → Option Entry}
    {simpler : Entry → Entry → Prop} (founded : WellFounded simpler) {all : List Entry}
    (distinct : all.Nodup) (covered : ∀ entry ∈ all, entry ∈ all.filterMap read)
    (step : ∀ entry ∈ all, ∀ next, read entry = some next → next = entry ∨ simpler next entry ∨
      ∀ later, read next = some later → later = next) :
    ∀ entry ∈ all, read entry = some entry := by
  have same : (all.filterMap read).Perm all :=
    ((distinct.subperm covered).perm_of_length_le (List.length_filterMap_le read all)).symm
  have total : ∀ entry ∈ all, (read entry).isSome :=
    List.filterMap_length_eq_length.mp same.length_eq
  have injective : ∀ one ∈ all, ∀ two ∈ all, read one = read two → one = two := by
    have separate : (all.map read).Nodup := by
      rw [map_eq_map_some total]
      exact (same.nodup_iff.mpr distinct).map (fun _ _ => Option.some.inj)
    exact fun one first two second => List.inj_on_of_nodup_map separate first second
  intro entry
  induction entry using founded.induction with
  | h entry ih =>
    intro member
    obtain ⟨next, here⟩ := Option.isSome_iff_exists.mp (total entry member)
    have nextMember : next ∈ all := same.subset (List.mem_filterMap.mpr ⟨entry, member, here⟩)
    have settled : read next = some next → read entry = some entry := by
      intro fixed
      rw [here, injective entry member next nextMember (here.trans fixed.symm)]
    obtain rfl | lower | final := step entry member next here
    · exact here
    · exact settled (ih next lower nextMember)
    · obtain ⟨later, there⟩ := Option.isSome_iff_exists.mp (total next nextMember)
      exact settled (final later there ▸ there)

namespace FlowText

namespace Statement

def edgeWeight (source target : String) (label : Option String) : Nat :=
  Text.weight source.toList + Text.weight target.toList + Text.weight (labelSuffix label)

/-- Edges are simpler than nodes. Of two edges the lighter is simpler, or else the one with the lighter
target. A plain node is the least simple. -/
def rank : Statement → Nat × Nat × Nat
  | edge source target label =>
      (0, edgeWeight source target label, Text.weight target.toList)
  | node declared => (if declared.kind = .plain then 2 else 1, 0, 0)

def Simpler (next statement : Statement) : Prop :=
  Prod.Lex (· < ·) (Prod.Lex (· < ·) (· < ·)) next.rank statement.rank

theorem simpler_founded : WellFounded Simpler :=
  InvImage.wf rank (Prod.lex ⟨_, Nat.lt_wfRel.wf⟩ (Prod.lex Nat.lt_wfRel Nat.lt_wfRel)).wf

theorem simpler_of_weights {source target other finish : String} {label reading : Option String}
    (bound : edgeWeight other finish reading ≤ edgeWeight source target label)
    (lower : edgeWeight other finish reading < edgeWeight source target label ∨
      Text.weight finish.toList < Text.weight target.toList) :
    Simpler (.edge other finish reading) (.edge source target label) := by
  refine .right _ ?_
  rcases Nat.lt_or_eq_of_le bound with less | same
  · exact .left _ _ less
  · rw [same]
    exact .right _ (lower.resolve_left (by omega))

theorem reread_edge {source target : String} {label : Option String} {next : Statement}
    (normal : (edge source target label).Normal)
    (read : readEdge? (line (.edge source target label)) = some next) :
    next = .edge source target label ∨ Simpler next (.edge source target label) := by
  obtain ⟨tidy, quiet, whole, labelTidy⟩ := normal
  rw [line_edge] at read
  obtain ⟨found, finish, reading, taken, ended, reached, rfl⟩ :=
    (readEdge?_arrow_iff (arrow_not_infix_write _ quiet) (trim_write _ _)).mp read
  have lighter (bound : Text.weight found.id ≤ Text.weight source.toList)
      (bound' : Text.weight finish + Text.weight (labelSuffix reading) ≤
        Text.weight target.toList + Text.weight (labelSuffix label))
      (lower : Text.weight found.id < Text.weight source.toList ∨
        Text.weight finish + Text.weight (labelSuffix reading) <
          Text.weight target.toList + Text.weight (labelSuffix label) ∨
        Text.weight finish < Text.weight target.toList) :
      Simpler (.edge (String.ofList found.id) (String.ofList finish) reading)
        (.edge source target label) := by
    apply simpler_of_weights <;> simp only [edgeWeight, String.toList_ofList] <;> omega
  rcases Reference.reread_mention tidy taken ended with same | start
  · rcases reread_end whole labelTidy reached with ⟨rfl, rfl⟩ | less | ⟨bound, less⟩
    · left
      rw [same, String.ofList_toList, String.ofList_toList]
    · exact .inr (lighter (by rw [same]) (Nat.le_of_lt less) (.inr (.inl less)))
    · exact .inr (lighter (by rw [same]) bound (.inr (.inr less)))
  · refine .inr (lighter (Nat.le_of_lt start) ?_ (.inl start))
    rcases reread_end whole labelTidy reached with ⟨rfl, rfl⟩ | less | ⟨bound, _⟩
    · exact Nat.le_refl _
    · exact Nat.le_of_lt less
    · exact bound

theorem reread_cases {statement next : Statement} (normal : statement.Normal)
    (read : reread? statement = some next) :
    next = statement ∨ Simpler next statement ∨
      ∀ later, reread? next = some later → later = next := by
  rw [reread?, read?_eq_some_iff, trim_line normal] at read
  cases statement with
  | edge source target label =>
      obtain read | ⟨noEdge, read⟩ := read
      · exact (reread_edge normal read).imp_right .inl
      · exact .inr (.inr fun later again => reread_edge_as_node normal noEdge read again)
  | node declared =>
      obtain read | ⟨_, read⟩ := read
      · obtain ⟨_, _, source, target, label, _, _, _, _, rfl⟩ := readEdge?_eq_some_iff.mp read
        refine .inr (.inl (.left _ _ ?_))
        split <;> omega
      · obtain same | ⟨plain, other, rfl, entry⟩ := reread_node normal read
        · exact .inl same
        · refine .inr (.inl (.left _ _ ?_))
          simp [plain, entry]

end Statement

/-! Reading the written statements of a chart. -/

section Statements

variable (spoken : List Statement)

theorem edges_of_printed :
    (Graph.ofStatements (printed (Graph.ofStatements spoken))).edges =
      (Graph.ofStatements spoken).edges :=
  edges_printed (Graph.wellFormed_ofStatements spoken)

theorem nodes_of_printed (node : Node) :
    node ∈ (Graph.ofStatements (printed (Graph.ofStatements spoken))).nodes ↔
      node ∈ (Graph.ofStatements spoken).nodes :=
  mem_nodes_printed (Graph.wellFormed_ofStatements spoken) node

theorem covered_of_same {rereading : List Statement}
    (nodes : ∀ node, node ∈ (Graph.ofStatements rereading).nodes ↔
      node ∈ (Graph.ofStatements spoken).nodes)
    (edges : ((Graph.ofStatements rereading).edges.map Edge.triple).Perm
      ((Graph.ofStatements spoken).edges.map Edge.triple)) :
    ∀ statement ∈ printed (Graph.ofStatements spoken), statement ∈ rereading := by
  intro statement member
  rw [printed, List.mem_append, List.mem_map, List.mem_map] at member
  obtain ⟨node, declared, rfl⟩ | ⟨edge, present, rfl⟩ := member
  · rw [List.mem_filter] at declared
    obtain known | ⟨implicit, referred⟩ :=
      Graph.statement_of_mem_nodes ((nodes node).mpr declared.1)
    · exact known
    · obtain ⟨edge, present, touches⟩ := List.any_eq_true.mp referred
      obtain ⟨other, there, same⟩ := List.mem_map.mp (edges.subset (List.mem_map_of_mem present))
      have hidden : impliedByEdges (Graph.ofStatements spoken) node = true := by
        rw [impliedByEdges, Graph.refersTo, Bool.and_eq_true, List.any_eq_true]
        refine ⟨⟨other, there, ?_⟩, implicit⟩
        obtain ⟨source, target, _⟩ : other.source = edge.source ∧ other.target = edge.target ∧
          other.label = edge.label := by simpa [Edge.triple] using same
        rw [Edge.touches, source, target]
        exact touches
      rw [hidden] at declared
      cases declared.2
  · obtain ⟨again, there, same⟩ :=
      List.mem_map.mp (edges.symm.subset (List.mem_map_of_mem present))
    obtain ⟨source, target, label⟩ : again.source = edge.source ∧ again.target = edge.target ∧
      again.label = edge.label := by simpa [Edge.triple] using same
    have known := (Graph.statement_of_mem_edges there).1
    rwa [source, target, label] at known

end Statements

end FlowText

namespace Graph

open FlowText

/-- Writing the chart of a text and reading it again gives the same nodes and edges exactly if every
line that is written for a declared node or an edge is read as this node or edge. Lines that are read
as something else never make up for each other. -/
theorem round_trip_iff (text : String) :
    let graph := ofText text
    let again := ofText graph.toText
    ((∀ node, node ∈ again.nodes ↔ node ∈ graph.nodes) ∧
      (again.edges.map Edge.triple).Perm (graph.edges.map Edge.triple)) ↔
    (∀ node ∈ graph.nodes, impliedByEdges graph node = false →
      Statement.read? (nodeLine node) = some (.node node)) ∧
    ∀ edge ∈ graph.edges,
      Statement.read? (edgeLine edge) = some (.edge edge.source edge.target edge.label) := by
  intro graph again
  have reading : again = ofStatements ((printed graph).filterMap reread?) := ofText_toText text
  have lines : ((∀ node ∈ graph.nodes, impliedByEdges graph node = false →
        Statement.read? (nodeLine node) = some (.node node)) ∧
      ∀ edge ∈ graph.edges,
        Statement.read? (edgeLine edge) = some (.edge edge.source edge.target edge.label)) ↔
      ∀ statement ∈ printed graph, reread? statement = some statement := by
    simp only [printed, List.mem_append, or_imp, forall_and, List.forall_mem_map, List.mem_filter,
      Bool.not_eq_true', and_imp]
    rfl
  rw [lines]
  constructor
  · rintro ⟨nodes, edges⟩
    rw [reading] at nodes edges
    refine fixed_of_covered Statement.simpler_founded (nodup_printed _) ?_ ?_
    · exact covered_of_same _ nodes edges
    · intro statement member next read
      exact Statement.reread_cases (normal_of_mem_printed member).1 read
  · intro fixed
    have all : (printed graph).filterMap reread? = printed graph :=
      (List.filterMap_congr fixed).trans List.filterMap_some
    have edges : (ofStatements (printed graph)).edges = graph.edges := edges_of_printed _
    rw [reading, all, edges]
    exact ⟨nodes_of_printed _, .refl _⟩

/-- An id that ends with a bracket was read up to the blank behind it. Written without the blank, its
node is not read again. -/
theorem bracketed_entry_lost :
    let graph := ofText "[[a] ]] label"
    let entry : Node := { id := "a]", label := "label", kind := .entry }
    entry ∈ graph.nodes ∧ entry ∉ (ofText graph.toText).nodes := by
  decide +kernel

end Graph

end Chartbook
