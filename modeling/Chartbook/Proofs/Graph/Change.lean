import Chartbook.Graph.Change
import Chartbook.Proofs.Graph.Identity
import Mathlib.Data.List.Perm.Basic

/-!
What changed between charts in which an id names one node and one edge. Main statement: the changed ids
are those of the nodes and edges that the earlier chart does not have as they are, so that nothing
changed both ways only between equal charts, and what changed in the end has changed on the way.
-/

namespace Chartbook

section Fresh

variable {Entry : Type} [DecidableEq Entry] {old new : List Entry} {entry : Entry}

def fresh (old new : List Entry) : List Entry :=
  new.filter fun entry => entry ∉ old

theorem mem_fresh : entry ∈ fresh old new ↔ entry ∈ new ∧ entry ∉ old := by
  simp [fresh]

theorem fresh_eq_nil_iff : fresh old new = [] ↔ ∀ entry ∈ new, entry ∈ old := by
  simp [fresh]

theorem filter_not_eq_fresh {kept : Entry → Bool} (known : ∀ entry, kept entry = true ↔ entry ∈ old) :
    (new.filter fun entry => !kept entry) = fresh old new := by
  refine List.filter_congr fun entry _ => ?_
  rw [Bool.eq_iff_iff, Bool.not_eq_true', ← Bool.not_eq_true, known, decide_eq_true_iff]

theorem mem_fresh_through (middle : List Entry) (member : entry ∈ fresh old new) :
    entry ∈ fresh old middle ∨ entry ∈ fresh middle new := by
  obtain ⟨present, unknown⟩ := mem_fresh.mp member
  by_cases between : entry ∈ middle
  · exact .inl (mem_fresh.mpr ⟨between, unknown⟩)
  · exact .inr (mem_fresh.mpr ⟨present, between⟩)

theorem length_sub_length (distinctOld : old.Nodup) (distinctNew : new.Nodup) :
    (new.length : Int) - old.length = (fresh old new).length - (fresh new old).length := by
  have shared : (new.filter fun entry => entry ∈ old).Perm (old.filter fun entry => entry ∈ new) := by
    refine (List.perm_ext_iff_of_nodup (distinctNew.filter _) (distinctOld.filter _)).mpr ?_
    intro entry
    simp [and_comm]
  have parts (kept whole : List Entry) : whole.length =
      (whole.filter fun entry => entry ∈ kept).length + (fresh kept whole).length := by
    rw [List.length_eq_length_filter_add fun entry => decide (entry ∈ kept), fresh]
    simp
  have same := shared.length_eq
  have newParts := parts old new
  have oldParts := parts new old
  omega

variable {Key : Type} (key : Entry → Key)

theorem sublist_map_fresh (old new : List Entry) : ((fresh old new).map key).Sublist (new.map key) :=
  List.filter_sublist.map key

theorem mem_map_fresh_through (middle : List Entry) {id : Key} (member : id ∈ (fresh old new).map key) :
    id ∈ (fresh old middle).map key ∨ id ∈ (fresh middle new).map key := by
  obtain ⟨entry, present, rfl⟩ := List.mem_map.mp member
  exact (mem_fresh_through middle present).imp List.mem_map_of_mem List.mem_map_of_mem

end Fresh

theorem find?_reverse_iff {Entry Key : Type} [BEq Key] [LawfulBEq Key] (key : Entry → Key)
    {all : List Entry} (distinct : (all.map key).Nodup) (entry : Entry) :
    all.reverse.find? (key · == key entry) = some entry ↔ entry ∈ all := by
  have turned : (all.reverse.map key).Nodup := by
    rw [List.map_reverse, List.nodup_reverse]
    exact distinct
  rw [find?_iff_of_nodup key turned, List.mem_reverse]

namespace Graph

structure DistinctIds (graph : Graph) : Prop where
  nodes : (graph.nodes.map Node.id).Nodup
  edges : (graph.edges.map Edge.id).Nodup

theorem WellFormed.distinctIds {graph : Graph} (wellFormed : graph.WellFormed) :
    graph.DistinctIds :=
  { nodes := wellFormed.unique, edges := wellFormed.nodup_edge_ids }

section Changes

variable {previous : Graph} (distinct : previous.DistinctIds)
include distinct

theorem keepsNode_iff (node : Node) : previous.keepsNode node = true ↔ node ∈ previous.nodes := by
  rw [← find?_reverse_iff Node.id distinct.nodes, ← lastNode?, keepsNode]
  cases found : previous.lastNode? node.id with
  | none => simp
  | some old =>
      have same : old.id = node.id := by simpa using List.find?_some found
      rw [Option.some.injEq, Node.mk.injEq]
      simp [same]

theorem keepsEdge_iff (edge : Edge) : previous.keepsEdge edge = true ↔ edge ∈ previous.edges := by
  rw [← find?_reverse_iff Edge.id distinct.edges, ← lastEdge?, keepsEdge]
  cases found : previous.lastEdge? edge.id with
  | none => simp
  | some old =>
      have same : old.id = edge.id := by simpa using List.find?_some found
      rw [Option.some.injEq, Edge.mk.injEq]
      simp only [same, true_and, Bool.and_eq_true, beq_iff_eq, and_assoc]
      exact and_rotate

theorem changes_nodeIds (next : Graph) (source : ChangeSource) :
    (previous.changes next source).nodeIds = (fresh previous.nodes next.nodes).map Node.id := by
  rw [changes, filter_not_eq_fresh (keepsNode_iff distinct)]

theorem changes_edgeIds (next : Graph) (source : ChangeSource) :
    (previous.changes next source).edgeIds = (fresh previous.edges next.edges).map Edge.id := by
  rw [changes, filter_not_eq_fresh (keepsEdge_iff distinct)]

theorem isEmpty_changes_iff (next : Graph) (source : ChangeSource) :
    (previous.changes next source).isEmpty = true ↔
      (∀ node ∈ next.nodes, node ∈ previous.nodes) ∧ ∀ edge ∈ next.edges, edge ∈ previous.edges := by
  rw [ChangeSet.isEmpty, changes_nodeIds distinct, changes_edgeIds distinct, Bool.and_eq_true,
    List.isEmpty_iff, List.isEmpty_iff, List.map_eq_nil_iff, List.map_eq_nil_iff, fresh_eq_nil_iff,
    fresh_eq_nil_iff]

end Changes

/-- Listed are the ids of the nodes and edges that the earlier chart does not have as they are, each
once and in the order of the later chart. Nothing is listed either way exactly between charts with the
same nodes and the same edges. What is listed between two charts is listed before or after any chart
on the way. The impact counts the ids that came and takes off those that went. -/
theorem changes_exact {first second : Graph} (distinctFirst : first.DistinctIds)
    (distinctSecond : second.DistinctIds) (third : Graph) (source : ChangeSource) :
    let changes := first.changes second source
    let whole := first.changes third source
    let later := second.changes third source
    let nodeIds (graph : Graph) := graph.nodes.map Node.id
    let edgeIds (graph : Graph) := graph.edges.map Edge.id
    (changes.nodeIds = (fresh first.nodes second.nodes).map Node.id ∧
      changes.edgeIds = (fresh first.edges second.edges).map Edge.id) ∧
    (changes.nodeIds.Nodup ∧ changes.nodeIds.Sublist (nodeIds second) ∧
      changes.edgeIds.Nodup ∧ changes.edgeIds.Sublist (edgeIds second)) ∧
    (changes.isEmpty = true ∧ (second.changes first source).isEmpty = true ↔
      (∀ node, node ∈ first.nodes ↔ node ∈ second.nodes) ∧
      ∀ edge, edge ∈ first.edges ↔ edge ∈ second.edges) ∧
    ((∀ id ∈ whole.nodeIds, id ∈ changes.nodeIds ∨ id ∈ later.nodeIds) ∧
      ∀ id ∈ whole.edgeIds, id ∈ changes.edgeIds ∨ id ∈ later.edgeIds) ∧
    (first.impact second).nodeDelta =
      (fresh (nodeIds first) (nodeIds second)).length -
        (fresh (nodeIds second) (nodeIds first)).length ∧
    (first.impact second).edgeDelta =
      (fresh (edgeIds first) (edgeIds second)).length -
        (fresh (edgeIds second) (edgeIds first)).length := by
  intro changes whole later nodeIds edgeIds
  have nodes : changes.nodeIds = (fresh first.nodes second.nodes).map Node.id :=
    changes_nodeIds distinctFirst second source
  have edges : changes.edgeIds = (fresh first.edges second.edges).map Edge.id :=
    changes_edgeIds distinctFirst second source
  have nodesInOrder := sublist_map_fresh Node.id first.nodes second.nodes
  have edgesInOrder := sublist_map_fresh Edge.id first.edges second.edges
  refine ⟨⟨nodes, edges⟩, ?_, ?_, ?_, ?_, ?_⟩
  · rw [nodes, edges]
    exact ⟨nodesInOrder.nodup distinctSecond.nodes, nodesInOrder,
      edgesInOrder.nodup distinctSecond.edges, edgesInOrder⟩
  · rw [isEmpty_changes_iff distinctFirst, isEmpty_changes_iff distinctSecond]
    constructor
    · rintro ⟨⟨nodesBack, edgesBack⟩, nodesOn, edgesOn⟩
      exact ⟨fun node => ⟨nodesOn node, nodesBack node⟩, fun edge => ⟨edgesOn edge, edgesBack edge⟩⟩
    · rintro ⟨sameNodes, sameEdges⟩
      exact ⟨⟨fun node => (sameNodes node).mpr, fun edge => (sameEdges edge).mpr⟩,
        fun node => (sameNodes node).mp, fun edge => (sameEdges edge).mp⟩
  · rw [nodes, edges, changes_nodeIds distinctFirst, changes_edgeIds distinctFirst,
      changes_nodeIds distinctSecond, changes_edgeIds distinctSecond]
    exact ⟨fun id => mem_map_fresh_through Node.id second.nodes,
      fun id => mem_map_fresh_through Edge.id second.edges⟩
  · have counted := length_sub_length distinctFirst.nodes distinctSecond.nodes
    rwa [List.length_map, List.length_map] at counted
  · have counted := length_sub_length distinctFirst.edges distinctSecond.edges
    rwa [List.length_map, List.length_map] at counted

theorem changes_on_the_way :
    let first := ofText "[a] Old\n[b] -> [a] : yes"
    let second := ofText "[a] New\n[c] Goal"
    let third := ofText "[a] Newest\n{b} Sure?\n[b] -> [a] : no"
    first.DistinctIds ∧ second.DistinctIds ∧
    (first.changes third .user).nodeIds = ["a", "b"] ∧
    (∀ id ∈ (first.changes third .user).nodeIds,
      id ∈ (first.changes second .user).nodeIds ∨ id ∈ (second.changes third .user).nodeIds) ∧
    (first.impact second).edgeDelta = -1 := by
  intro first second third
  have distinctFirst : first.DistinctIds := (wellFormed_ofStatements _).distinctIds
  have distinctSecond : second.DistinctIds := (wellFormed_ofStatements _).distinctIds
  have exactly := changes_exact distinctFirst distinctSecond third .user
  exact ⟨distinctFirst, distinctSecond, by decide +kernel, exactly.2.2.2.1.1, by decide +kernel⟩

end Graph

end Chartbook
