import Chartbook.Layout.Drawing
import Chartbook.Proofs.Graph.WellFormed
import Chartbook.Proofs.Layout.Ranking
import Mathlib.Data.List.GetD

/-!
The ranks of a drawing. Main statement: an edge never stays within a rank, and where the edges contain
no cycle, the rank of a node is the length of the longest path that ends in it.
-/

namespace Chartbook

open Layout

def Drawing.Joined (drawing : Drawing coordinate) (source target : String) : Prop :=
  source ≠ target ∧ ∃ edge ∈ drawing.edges, edge.source = source ∧ edge.target = target

namespace Graph

variable (graph : Graph)

def idAt (index : Nat) : String :=
  (graph.nodes.map Node.id).getD index ""

theorem indexOf_eq_idxOf (id : String) :
    graph.indexOf id = (graph.nodes.map Node.id).idxOf id := by
  rw [List.idxOf, List.findIdx_map]
  rfl

variable {graph}

theorem indexOf_lt {id : String} (known : graph.hasNode id = true) :
    graph.indexOf id < graph.nodes.length := by
  rw [indexOf_eq_idxOf, ← graph.nodes.length_map Node.id, List.idxOf_lt_length_iff]
  exact (hasNode_iff graph id).mp known

theorem idAt_of_lt {index : Nat} (bounded : index < graph.nodes.length) :
    graph.idAt index = graph.nodes[index].id := by
  simp [idAt, bounded]

theorem idAt_indexOf {id : String} (known : graph.hasNode id = true) :
    graph.idAt (graph.indexOf id) = id := by
  have bounded := List.idxOf_lt_length_iff.mpr ((hasNode_iff graph id).mp known)
  rw [idAt, indexOf_eq_idxOf, List.getD_eq_getElem _ _ bounded, List.getElem_idxOf]

theorem indexOf_idAt (unique : (graph.nodes.map Node.id).Nodup) {index : Nat}
    (bounded : index < graph.nodes.length) : graph.indexOf (graph.idAt index) = index := by
  rw [← graph.nodes.length_map Node.id] at bounded
  rw [indexOf_eq_idxOf, idAt, List.getD_eq_getElem _ _ bounded, unique.idxOf_getElem]

theorem anchored_of_mem {edge : Edge} (member : edge ∈ graph.edges.filter graph.anchors) :
    graph.hasNode edge.source = true ∧ graph.hasNode edge.target = true := by
  have anchored := (List.mem_filter.mp member).2
  rwa [anchors, Bool.and_eq_true] at anchored

theorem linked_links_iff {source target : Nat} :
    Linked graph.links source target ↔ source ≠ target ∧
      ∃ edge ∈ graph.edges.filter graph.anchors,
        graph.indexOf edge.source = source ∧ graph.indexOf edge.target = target := by
  simp only [Linked, links, List.mem_filter, List.mem_map, bne_iff_ne, Link.mk.injEq]
  exact and_comm

theorem bounded_links : ∀ link ∈ graph.links,
    link.source < graph.nodes.length ∧ link.target < graph.nodes.length := by
  intro link member
  obtain ⟨_, edge, drawn, source, target⟩ := linked_links_iff.mp (linked_of_mem member)
  obtain ⟨first, second⟩ := anchored_of_mem drawn
  rw [← source, ← target]
  exact ⟨indexOf_lt first, indexOf_lt second⟩

variable {direction : Direction}

theorem linked_of_joined {source target : String}
    (joined : (graph.draw direction).Joined source target) :
    Linked graph.links (graph.indexOf source) (graph.indexOf target) := by
  obtain ⟨apart, edge, drawn, rfl, rfl⟩ := joined
  obtain ⟨first, second⟩ := anchored_of_mem drawn
  refine linked_links_iff.mpr ⟨?_, edge, drawn, rfl, rfl⟩
  intro same
  rw [← idAt_indexOf first, same, idAt_indexOf second] at apart
  exact apart rfl

theorem joined_of_linked {source target : Nat} (linked : Linked graph.links source target) :
    (graph.draw direction).Joined (graph.idAt source) (graph.idAt target) := by
  obtain ⟨apart, edge, drawn, rfl, rfl⟩ := linked_links_iff.mp linked
  obtain ⟨first, second⟩ := anchored_of_mem drawn
  rw [idAt_indexOf first, idAt_indexOf second]
  refine ⟨?_, edge, drawn, rfl, rfl⟩
  intro same
  rw [same] at apart
  exact apart rfl

theorem nodes_draw : (graph.draw direction).nodes.map DrawnNode.node = graph.nodes := by
  rw [draw, List.map_map]
  exact List.zipIdx_map_fst 0 graph.nodes

theorem index_of_drawn {drawn : DrawnNode Nat} (member : drawn ∈ (graph.draw direction).nodes) :
    ∃ index, index < graph.nodes.length ∧ drawn.node.id = graph.idAt index ∧
      drawn.rank = rankOf graph.ranks index := by
  rw [draw] at member
  obtain ⟨⟨node, index⟩, counted, rfl⟩ := List.mem_map.mp member
  obtain ⟨bounded, found⟩ := List.getElem?_eq_some_iff.mp (List.mk_mem_zipIdx_iff_getElem?.mp counted)
  refine ⟨index, bounded, ?_, rfl⟩
  rw [idAt_of_lt bounded, found]

theorem exists_drawn (direction : Direction) {index : Nat} (bounded : index < graph.nodes.length) :
    ∃ drawn ∈ (graph.draw direction).nodes,
      drawn.node.id = graph.idAt index ∧ drawn.rank = rankOf graph.ranks index := by
  have counted : (graph.nodes[index], index) ∈ graph.nodes.zipIdx :=
    List.mk_mem_zipIdx_iff_getElem?.mpr (List.getElem?_eq_getElem bounded)
  refine ⟨_, List.mem_map_of_mem counted, ?_, rfl⟩
  rw [idAt_of_lt bounded]

section Ranks

variable (graph)

def keptLinks : List Link :=
  acyclicLinks graph.nodes.length graph.links

theorem bounded_keptLinks : ∀ link ∈ graph.keptLinks,
    link.source < graph.nodes.length ∧ link.target < graph.nodes.length :=
  fun link member => bounded_links link (mem_acyclicLinks.mp member).1

theorem ranks_rise (source target : Nat) (linked : Linked graph.keptLinks source target) :
    rankOf graph.ranks source < rankOf graph.ranks target := by
  obtain ⟨height, rises⟩ := exists_height graph.bounded_links
  exact rank_rises graph.bounded_keptLinks rises source target linked

theorem ranks_reached (target : Nat) (raised : rankOf graph.ranks target ≠ 0) :
    ∃ source, Linked graph.keptLinks source target ∧
      rankOf graph.ranks source + 1 = rankOf graph.ranks target :=
  rank_reached graph.bounded_keptLinks target raised

variable {graph}

theorem ranks_differ {source target : Nat} (linked : Linked graph.links source target) :
    rankOf graph.ranks source ≠ rankOf graph.ranks target := by
  by_cases kept : Linked graph.keptLinks source target
  · exact Nat.ne_of_lt (graph.ranks_rise source target kept)
  · obtain ⟨length, walk⟩ : Reaches (Linked graph.keptLinks) target source :=
      reaches_back bounded_links linked kept
    have climbed := walk.climbs graph.ranks_rise
    cases walk with
    | start => exact absurd rfl (linked_links_iff.mp linked).1
    | extend => exact Nat.ne_of_gt (by omega)

theorem keptLinks_of_acyclic (acyclic : Acyclic (graph.draw direction).Joined) :
    graph.keptLinks = graph.links := by
  refine acyclicLinks_of_acyclic bounded_links fun length index walk => ?_
  exact acyclic length _ (walk.map graph.idAt fun _ _ => joined_of_linked)

theorem exists_rank {drawn : DrawnNode Nat} (member : drawn ∈ (graph.draw direction).nodes)
    {lower : Nat} (bound : lower ≤ drawn.rank) :
    ∃ other ∈ (graph.draw direction).nodes, other.rank = lower := by
  obtain ⟨index, bounded, _, ranked⟩ := index_of_drawn member
  obtain below | same := Nat.lt_or_eq_of_le bound
  · rw [ranked] at below
    obtain ⟨source, target, linked, held⟩ := exists_rank_below graph.ranks_reached index below
    obtain ⟨other, present, _, same⟩ :=
      exists_drawn direction (graph.bounded_keptLinks _ linked).1
    exact ⟨other, present, same.trans held⟩
  · exact ⟨drawn, member, same.symm⟩

theorem longest_path (unique : (graph.nodes.map Node.id).Nodup)
    (acyclic : Acyclic (graph.draw direction).Joined) {drawn : DrawnNode Nat}
    (member : drawn ∈ (graph.draw direction).nodes) :
    IsGreatest {length | ∃ first, Walk (graph.draw direction).Joined length first drawn.node.id}
      drawn.rank := by
  obtain ⟨index, bounded, named, ranked⟩ := index_of_drawn member
  have same : {length | ∃ first, Walk (graph.draw direction).Joined length first drawn.node.id} =
      {length | ∃ first, Walk (Linked graph.links) length first index} := by
    ext length
    constructor
    · rintro ⟨first, walk⟩
      have links := walk.map graph.indexOf fun _ _ => linked_of_joined
      rw [named, indexOf_idAt unique bounded] at links
      exact ⟨_, links⟩
    · rintro ⟨first, walk⟩
      have edges : Walk (graph.draw direction).Joined length _ _ :=
        walk.map graph.idAt fun _ _ => joined_of_linked
      rw [← named] at edges
      exact ⟨_, edges⟩
  rw [same, ranked, ← keptLinks_of_acyclic acyclic]
  exact isGreatest_rank graph.ranks_rise graph.ranks_reached index

end Ranks

/-- Every node of the chart is drawn once, and every edge that joins two nodes of it. An edge between
different nodes joins different ranks. Where the edges contain no cycle, every one leads to a higher
rank, and the rank of a node is the number of edges on the longest path that ends in it. No rank below
another is empty. -/
theorem ranks_tell_direction (graph : Graph) (direction : Direction)
    (unique : (graph.nodes.map Node.id).Nodup) :
    let drawing := graph.draw direction
    drawing.nodes.map DrawnNode.node = graph.nodes ∧
    drawing.edges = graph.edges.filter graph.anchors ∧
    (∀ edge ∈ drawing.edges, edge.source ≠ edge.target →
      ∃ source ∈ drawing.nodes, ∃ target ∈ drawing.nodes,
        source.node.id = edge.source ∧ target.node.id = edge.target ∧ source.rank ≠ target.rank ∧
        (Acyclic drawing.Joined → source.rank < target.rank)) ∧
    (Acyclic drawing.Joined → ∀ drawn ∈ drawing.nodes,
      IsGreatest {length | ∃ first, Walk drawing.Joined length first drawn.node.id} drawn.rank) ∧
    ∀ drawn ∈ drawing.nodes, ∀ rank ≤ drawn.rank, ∃ other ∈ drawing.nodes, other.rank = rank := by
  intro drawing
  refine ⟨nodes_draw, rfl, ?_, fun acyclic drawn => longest_path unique acyclic,
    fun drawn member rank => exists_rank member⟩
  intro edge member apart
  have joined : drawing.Joined edge.source edge.target := ⟨apart, edge, member, rfl, rfl⟩
  have linked := linked_of_joined joined
  obtain ⟨first, second⟩ := anchored_of_mem member
  obtain ⟨source, drawnSource, namedSource, rankedSource⟩ := exists_drawn direction (indexOf_lt first)
  obtain ⟨target, drawnTarget, namedTarget, rankedTarget⟩ := exists_drawn direction (indexOf_lt second)
  rw [idAt_indexOf first] at namedSource
  rw [idAt_indexOf second] at namedTarget
  refine ⟨source, drawnSource, target, drawnTarget, namedSource, namedTarget, ?_, ?_⟩
  · rw [rankedSource, rankedTarget]
    exact ranks_differ linked
  · intro acyclic
    rw [rankedSource, rankedTarget]
    rw [← keptLinks_of_acyclic acyclic] at linked
    exact graph.ranks_rise _ _ linked

def shortcut : Graph :=
  { nodes := [.mentioned "ccc", .mentioned "a", .mentioned "bb"]
    edges := [.between "a" "ccc" none, .between "a" "bb" none, .between "bb" "ccc" none] }

theorem shortcut_acyclic (direction : Direction) : Acyclic (shortcut.draw direction).Joined := by
  have rises : ∀ edge ∈ shortcut.edges, edge.source.length < edge.target.length := by decide
  refine acyclic_of_rises String.length ?_
  rintro _ _ ⟨_, edge, member, rfl, rfl⟩
  exact rises edge (List.mem_filter.mp member).1

theorem shortcut_drawn : (shortcut.draw .leftToRight).nodes.map DrawnNode.rank = [2, 0, 1] := by
  have linked : shortcut.links = [⟨1, 0⟩, ⟨1, 2⟩, ⟨2, 0⟩] := by decide
  have counted : shortcut.nodes.length = 3 := rfl
  have ranked : shortcut.ranks = [2, 0, 1] := by
    rw [ranks, counted, linked]
    cbv
  change [rankOf shortcut.ranks 0, rankOf shortcut.ranks 1, rankOf shortcut.ranks 2] = [2, 0, 1]
  rw [ranked]
  rfl

theorem shortcut_ranks :
    (shortcut.nodes.map Node.id).Nodup ∧ Acyclic (shortcut.draw .leftToRight).Joined ∧
    (shortcut.draw .leftToRight).nodes.map DrawnNode.rank = [2, 0, 1] ∧
    ∀ drawn ∈ (shortcut.draw .leftToRight).nodes,
      IsGreatest {length | ∃ first, Walk (shortcut.draw .leftToRight).Joined length first drawn.node.id}
        drawn.rank :=
  ⟨by decide, shortcut_acyclic .leftToRight, shortcut_drawn,
    (ranks_tell_direction shortcut .leftToRight (by decide)).2.2.2.1 (shortcut_acyclic .leftToRight)⟩

end Graph

end Chartbook
