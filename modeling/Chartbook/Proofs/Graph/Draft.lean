import Chartbook.Proofs.FlowText.Printed
import Chartbook.Proofs.Graph.Edit

/-!
Charts in the making, with the ids and pairs that are taken kept in sets. Main statement: a chart that
is replaced as a whole is the chart that is built from the same nodes and edges, and to replace it by
what it consists of changes nothing.
-/

namespace Chartbook

open FlowText

structure Draft where
  graph : Graph
  ids : Std.HashSet String
  pairs : Std.HashSet (String × String)

namespace Draft

def empty : Draft :=
  { graph := .empty, ids := ∅, pairs := ∅ }

def declare (draft : Draft) (node : Node) : Draft :=
  if draft.ids.contains node.id then draft
  else
    { draft with
      graph := { draft.graph with nodes := draft.graph.nodes ++ [node] }
      ids := draft.ids.insert node.id }

def mention (draft : Draft) (id : String) : Draft :=
  if draft.ids.contains id then draft else draft.declare (.mentioned id)

def connect (draft : Draft) (source target : String) (label : Option String) : Draft :=
  let ready := (draft.mention source).mention target
  if ready.pairs.contains (source, target) then ready
  else
    { ready with
      graph := { ready.graph with
        edges := ready.graph.edges ++ [Edge.between source target label] }
      pairs := ready.pairs.insert (source, target) }

def record (draft : Draft) : Statement → Draft
  | .edge source target label => draft.connect source target label
  | .node node => draft.declare node

def connectEdge (draft : Draft) (edge : Edge) : Draft :=
  draft.connect edge.source edge.target edge.label

/-- The draft of a chart: the sets tell which nodes and edges it has. -/
structure Drafts (draft : Draft) (graph : Graph) : Prop where
  holds : draft.graph = graph
  ids : ∀ id, draft.ids.contains id = graph.hasNode id
  pairs : ∀ source target, draft.pairs.contains (source, target) = graph.hasEdge source target

theorem drafts_empty : Drafts empty .empty where
  holds := rfl
  ids := fun _ => Std.HashSet.contains_empty
  pairs := fun _ _ => Std.HashSet.contains_empty

namespace Drafts

variable {draft : Draft} {graph : Graph}

theorem declare (drafts : Drafts draft graph) (node : Node) :
    Drafts (draft.declare node) (graph.declare node) := by
  rw [Draft.declare, drafts.ids, Graph.declare]
  by_cases known : graph.hasNode node.id
  · rw [if_pos known, if_pos known]
    exact drafts
  · rw [if_neg known, if_neg known, drafts.holds]
    refine { holds := rfl, ids := ?_, pairs := drafts.pairs }
    intro id
    rw [Std.HashSet.contains_insert, drafts.ids, Graph.hasNode, Graph.hasNode, List.any_append,
      Bool.or_comm]
    simp

theorem mention (drafts : Drafts draft graph) (id : String) :
    Drafts (draft.mention id) (graph.mention id) := by
  rw [Draft.mention]
  split
  · rename_i known
    rw [drafts.ids] at known
    rw [Graph.mention, Graph.declare, if_pos (by exact known)]
    exact drafts
  · exact drafts.declare _

theorem connect (drafts : Drafts draft graph) (source target : String) (label : Option String) :
    Drafts (draft.connect source target label) (graph.connect source target label) := by
  have ready := (drafts.mention source).mention target
  rw [Draft.connect, Graph.connect]
  dsimp only
  rw [ready.pairs, ready.holds]
  by_cases known : ((graph.mention source).mention target).hasEdge source target
  · rw [if_pos known, if_pos known]
    exact ready
  · rw [if_neg known, if_neg known]
    refine { holds := rfl, ids := ready.ids, pairs := ?_ }
    intro other further
    rw [Std.HashSet.contains_insert, ready.pairs, Graph.hasEdge, Graph.hasEdge, List.any_append,
      Bool.or_comm]
    simp only [List.any_cons, List.any_nil, Bool.or_false]
    rfl

theorem record (drafts : Drafts draft graph) (statement : Statement) :
    Drafts (draft.record statement) (graph.record statement) := by
  cases statement with
  | edge source target label => exact drafts.connect source target label
  | node node => exact drafts.declare node

theorem foldl_record (drafts : Drafts draft graph) (statements : List Statement) :
    Drafts (statements.foldl Draft.record draft) (statements.foldl Graph.record graph) := by
  induction statements generalizing draft graph with
  | nil => exact drafts
  | cons statement rest ih => exact ih (drafts.record statement)

end Drafts

def gather (nodes : List Node) (edges : List Edge) : Draft :=
  edges.foldl connectEdge (nodes.foldl declare empty)

end Draft

def listing (nodes : List Node) (edges : List Edge) : List Statement :=
  nodes.map .node ++ edges.map .ofEdge

theorem mentions_listing (nodes : List Node) (edges : List Edge) :
    (listing nodes edges).flatMap Statement.mentions =
      nodes ++ edges.flatMap fun edge => (Statement.ofEdge edge).mentions := by
  rw [listing, List.flatMap_append, List.flatMap_map, List.flatMap_map]
  simp [Statement.mentions]

theorem links_listing (nodes : List Node) (edges : List Edge) :
    (listing nodes edges).flatMap Statement.links =
      edges.flatMap fun edge => (Statement.ofEdge edge).links := by
  rw [listing, List.flatMap_append, List.flatMap_map, List.flatMap_map]
  simp [Statement.links]

theorem Draft.drafts_gather (nodes : List Node) (edges : List Edge) :
    Drafts (gather nodes edges) (Graph.ofStatements (listing nodes edges)) := by
  have drafts := drafts_empty.foldl_record (listing nodes edges)
  rwa [listing, List.foldl_append, List.foldl_map, List.foldl_map] at drafts

theorem Edge.bind_nonBlank?_of_tidyLabel {edge : Edge} (tidy : edge.TidyLabel) :
    edge.label.bind Text.nonBlank? = edge.label := by
  cases known : edge.label with
  | none => rfl
  | some label => exact Text.nonBlank?_of_tidy (tidy label known)

namespace Graph

variable {graph : Graph}

theorem mention_of_hasNode {id : String} (known : graph.hasNode id = true) :
    graph.mention id = graph :=
  if_pos known

theorem readyFor_of_anchors {edge : Edge} (anchored : graph.anchors edge = true) :
    graph.readyFor edge.source edge.target = graph := by
  rw [anchors, Bool.and_eq_true] at anchored
  rw [readyFor, mention_of_hasNode anchored.1, mention_of_hasNode anchored.2]

section WellFormed

variable (wellFormed : graph.WellFormed)
include wellFormed

theorem connect_eq_addNewEdge {edge : Edge} (tidy : edge.TidyLabel) :
    graph.connect edge.source edge.target edge.label = graph.addNewEdge edge := by
  have same : (graph.readyFor edge.source edge.target).hasEdge edge.source edge.target =
      graph.hasEdge edge.source edge.target := by
    rw [hasEdge, readyFor_edges, hasEdge]
  rw [connect, addNewEdge, addEdge, Edge.bind_nonBlank?_of_tidyLabel tidy, ← readyFor, same]
  by_cases known : graph.hasEdge edge.source edge.target
  · obtain ⟨other, member, joined⟩ := List.any_eq_true.mp known
    rw [Edge.joins, Bool.and_eq_true, beq_iff_eq, beq_iff_eq] at joined
    rw [if_pos known, if_pos known, ← joined.1, ← joined.2]
    exact readyFor_of_anchors (wellFormed.anchored other member)
  · rw [if_neg known, if_neg known, if_neg known]

theorem foldl_addNewEdge (edges : List Edge) (tidy : ∀ edge ∈ edges, edge.TidyLabel) :
    edges.foldl addNewEdge graph = (edges.map Statement.ofEdge).foldl record graph := by
  induction edges generalizing graph with
  | nil => rfl
  | cons edge rest ih =>
      obtain ⟨first, later⟩ := List.forall_mem_cons.mp tidy
      have step : graph.record (.ofEdge edge) = graph.addNewEdge edge :=
        connect_eq_addNewEdge wellFormed first
      rw [List.map_cons, List.foldl_cons, List.foldl_cons, step]
      exact ih (wellFormed.addNewEdge edge) later

theorem ofStatements_listing : ofStatements (listing graph.nodes graph.edges) = graph := by
  have nodes : (ofStatements (listing graph.nodes graph.edges)).nodes = graph.nodes := by
    rw [ofStatements_nodes, mentions_listing, firsts_append,
      firsts_of_nodup Node.id wellFormed.unique]
    refine (List.append_right_eq_self).mpr (List.filter_eq_nil_iff.mpr fun node member => ?_)
    obtain ⟨edge, present, mentioned⟩ := List.mem_flatMap.mp (mem_of_mem_firsts Node.id member)
    obtain ⟨other, known, same⟩ :=
      wellFormed.exists_endpoint present (Statement.mem_mentions_ofEdge.mp mentioned).2
    simpa using ⟨other, known, same⟩
  have edges : (ofStatements (listing graph.nodes graph.edges)).edges = graph.edges := by
    rw [ofStatements_edges, links_listing, links_edges wellFormed]
    exact firsts_of_nodup Edge.pair wellFormed.single
  rw [Graph.mk.injEq]
  exact ⟨nodes, edges⟩

end WellFormed

theorem assemble_eq_ofStatements (nodes : List Node) {edges : List Edge}
    (tidy : ∀ edge ∈ edges, edge.TidyLabel) :
    assemble nodes edges = ofStatements (listing nodes edges) := by
  have declared : nodes.foldl declare empty = ofStatements (nodes.map .node) := by
    rw [ofStatements, List.foldl_map]
    rfl
  rw [assemble, declared, foldl_addNewEdge (wellFormed_ofStatements _) edges tidy, listing,
    ofStatements, ofStatements, List.foldl_append]

/-- A chart that is replaced by nodes and edges is the chart that is drafted from them, and the one
that is read from them, as long as the labels of the edges are tidy. Whatever the labels, to replace
it again by its own nodes and edges changes nothing. -/
theorem replaced_as_drafted :
    (∀ (graph : Graph) (nodes : List Node) (edges : List Edge),
      (∀ edge ∈ edges, edge.TidyLabel) →
      (Draft.gather nodes edges).graph = (graph.edit (.replace nodes edges)).2 ∧
      edges.foldl (fun made edge => made.connect edge.source edge.target edge.label)
        (nodes.foldl declare empty) = (graph.edit (.replace nodes edges)).2) ∧
    ∀ (graph : Graph) (nodes : List Node) (edges : List Edge),
      let replaced := (graph.edit (.replace nodes edges)).2
      (replaced.edit (.replace replaced.nodes replaced.edges)).2 = replaced := by
  constructor
  · intro graph nodes edges tidy
    have read : assemble nodes edges = ofStatements (listing nodes edges) :=
      assemble_eq_ofStatements nodes tidy
    refine ⟨(Draft.drafts_gather nodes edges).holds.trans read.symm, ?_⟩
    refine Eq.trans ?_ read.symm
    rw [listing, ofStatements, List.foldl_append, List.foldl_map, List.foldl_map]
    rfl
  · intro graph nodes edges replaced
    calc assemble replaced.nodes replaced.edges
        = ofStatements (listing replaced.nodes replaced.edges) :=
          assemble_eq_ofStatements replaced.nodes tidyLabel_of_mem_assemble
      _ = replaced := ofStatements_listing (.assemble nodes edges)

theorem drafted_from_odd_parts :
    let nodes : List Node :=
      [.mentioned "a", { id := "a", label := "Twice", kind := .exit },
        { id := "b", label := "Sure?", kind := .decision }]
    let edges : List Edge :=
      [.between "a" "b" (some "first"), { id := "foreign", source := "c", target := "c", label := none },
        .between "a" "b" none, .between "d" "a" (some "late")]
    let made : Graph :=
      { nodes := [.mentioned "a", { id := "b", label := "Sure?", kind := .decision }, .mentioned "c",
          .mentioned "d"]
        edges := [.between "a" "b" (some "first"), .between "c" "c" none,
          .between "d" "a" (some "late")] }
    (∀ edge ∈ edges, edge.TidyLabel) ∧ (Draft.gather nodes edges).graph = made ∧
    (empty.edit (.replace nodes edges)).2 = made := by
  intro nodes edges made
  have tidy : ∀ edge ∈ edges, edge.TidyLabel := by
    have labels : ∀ edge ∈ edges, ∀ label ∈ edge.label, Text.Tidy label.toList := by decide
    exact labels
  have replaced : (empty.edit (.replace nodes edges)).2 = made := by decide +kernel
  exact ⟨tidy, (replaced_as_drafted.1 empty nodes edges tidy).1.trans replaced, replaced⟩

end Graph

end Chartbook
