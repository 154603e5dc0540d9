import Chartbook.Proofs.Layout.Geometry
import Mathlib.Data.Set.Function

/-!
Charts with other names. Main statement: a drawing depends on which nodes the edges join and on the
shapes of the nodes, in their order, and not on any id or label.
-/

namespace Chartbook

namespace Graph

/-- The ids of the nodes and those at the ends of edges, also of edges that are not drawn. -/
def namesIn (graph : Graph) : List String :=
  graph.nodes.map Node.id ++ graph.endpoints

theorem ends_named (graph : Graph) {edge : Edge} (member : edge ∈ graph.edges) :
    edge.source ∈ graph.namesIn ∧ edge.target ∈ graph.namesIn := by
  have ends : edge.source ∈ graph.endpoints ∧ edge.target ∈ graph.endpoints :=
    ⟨List.mem_flatMap.mpr ⟨edge, member, by simp⟩, List.mem_flatMap.mpr ⟨edge, member, by simp⟩⟩
  exact ⟨List.mem_append_right _ ends.1, List.mem_append_right _ ends.2⟩

/-- The other chart is the same with its ids renamed and everything labelled at will. No two ids become
one. -/
structure Renamed (rename : String → String) (graph other : Graph) : Prop where
  injective : Set.InjOn rename {id | id ∈ graph.namesIn}
  ids : other.nodes.map Node.id = graph.nodes.map fun node => rename node.id
  kinds : other.nodes.map Node.kind = graph.nodes.map Node.kind
  pairs : other.edges.map Edge.pair = graph.edges.map fun edge =>
    (rename edge.source, rename edge.target)

end Graph

section Places

variable {Entry Other : Type}

theorem idxOf_map_of_injOn [BEq Entry] [LawfulBEq Entry] [BEq Other] [LawfulBEq Other]
    {image : Entry → Other} {all : List Entry} {entry : Entry}
    (injective : ∀ other ∈ all, image other = image entry → other = entry) :
    (all.map image).idxOf (image entry) = all.idxOf entry := by
  induction all with
  | nil => rfl
  | cons first rest ih =>
      obtain ⟨here, later⟩ := List.forall_mem_cons.mp injective
      have same : (image first == image entry) = (first == entry) := by
        rw [Bool.eq_iff_iff, beq_iff_eq, beq_iff_eq]
        exact ⟨here, congrArg image⟩
      rw [List.map_cons, List.idxOf_cons, List.idxOf_cons, same, ih later]

def placesOf (test : Entry → Bool) (all : List Entry) : List Nat :=
  ((all.map test).zipIdx.filter Prod.fst).map Prod.snd

theorem pairwise_placesOf (test : Entry → Bool) (all : List Entry) :
    (placesOf test all).Pairwise (· < ·) := by
  have sub : (placesOf test all).Sublist ((all.map test).zipIdx.map Prod.snd) :=
    List.filter_sublist.map Prod.snd
  refine List.Pairwise.sublist sub ?_
  rw [List.zipIdx_map_snd]
  exact List.pairwise_lt_range'

theorem getElem?_placesOf (test : Entry → Bool) (all : List Entry) :
    (placesOf test all).map (all[·]?) = (all.filter test).map some := by
  have found : ∀ counted ∈ all.zipIdx.filter (fun counted => test counted.1),
      all[counted.2]? = some counted.1 := by
    intro counted member
    exact List.mk_mem_zipIdx_iff_getElem?.mp (List.mem_filter.mp member).1
  have first : (all.zipIdx.filter fun counted => test counted.1).map Prod.fst = all.filter test := by
    conv_rhs => rw [← List.zipIdx_map_fst 0 all, List.filter_map]
    rfl
  rw [placesOf, List.zipIdx_map, List.filter_map, List.map_map, List.map_map, ← first, List.map_map]
  exact List.map_congr_left found

end Places

def DrawnNode.frame (drawn : DrawnNode Nat) : Nat × Nat × Nat × Nat × Nat :=
  (drawn.x, drawn.y, drawn.width, drawn.height, drawn.rank)

namespace Graph

open Layout

section Frames

variable (graph : Graph) (direction : Direction)

theorem frames_draw :
    (graph.draw direction).nodes.map DrawnNode.frame =
      (graph.nodes.map Node.kind).zipIdx.map fun (kind, index) =>
        ((pointOf (graph.placed direction) index).x, (pointOf (graph.placed direction) index).y,
          (sizeOfKind kind).width, (sizeOfKind kind).height, rankOf graph.ranks index) := by
  rw [draw, List.map_map, List.zipIdx_map, List.map_map]
  rfl

theorem width_draw : (graph.draw direction).width =
    (((graph.draw direction).nodes.map DrawnNode.frame).map fun frame =>
      frame.1 + frame.2.2.1).foldl max 0 := by
  rw [List.map_map]
  rfl

theorem height_draw : (graph.draw direction).height =
    (((graph.draw direction).nodes.map DrawnNode.frame).map fun frame =>
      frame.2.1 + frame.2.2.2.1).foldl max 0 := by
  rw [List.map_map]
  rfl

end Frames

section Renamed

variable {rename : String → String} {graph other : Graph} (renamed : Renamed rename graph other)
include renamed

theorem length_renamed : other.nodes.length = graph.nodes.length := by
  have counted := congrArg List.length renamed.kinds
  rwa [List.length_map, List.length_map] at counted

theorem indexOf_rename {id : String} (named : id ∈ graph.namesIn) :
    other.indexOf (rename id) = graph.indexOf id := by
  have ids : other.nodes.map Node.id = (graph.nodes.map Node.id).map rename := by
    rw [renamed.ids, List.map_map]
    rfl
  rw [indexOf_eq_idxOf, indexOf_eq_idxOf, ids]
  refine idxOf_map_of_injOn fun known member same => ?_
  exact renamed.injective (List.mem_append_left _ member) named same

theorem hasNode_rename {id : String} (named : id ∈ graph.namesIn) :
    other.hasNode (rename id) = graph.hasNode id := by
  rw [Bool.eq_iff_iff, hasNode_iff, hasNode_iff, ← List.idxOf_lt_length_iff,
    ← List.idxOf_lt_length_iff, ← indexOf_eq_idxOf, ← indexOf_eq_idxOf, indexOf_rename renamed named,
    List.length_map, List.length_map, length_renamed renamed]

theorem anchors_rename {edge : Edge} (member : edge ∈ graph.edges) :
    (other.hasNode (rename edge.source) && other.hasNode (rename edge.target)) =
      graph.anchors edge := by
  obtain ⟨source, target⟩ := graph.ends_named member
  rw [hasNode_rename renamed source, hasNode_rename renamed target, anchors]

theorem map_anchors : other.edges.map other.anchors = graph.edges.map graph.anchors := by
  calc other.edges.map other.anchors
      = (other.edges.map Edge.pair).map fun pair => other.hasNode pair.1 && other.hasNode pair.2 := by
        rw [List.map_map]
        rfl
    _ = graph.edges.map graph.anchors := by
        rw [renamed.pairs, List.map_map]
        exact List.map_congr_left fun edge member => anchors_rename renamed member

theorem links_renamed : other.links = graph.links := by
  have drawn : (other.edges.filter other.anchors).map (fun edge =>
        ({ source := other.indexOf edge.source, target := other.indexOf edge.target } : Link)) =
      (graph.edges.filter graph.anchors).map fun edge =>
        { source := graph.indexOf edge.source, target := graph.indexOf edge.target } := by
    calc _ = ((other.edges.map Edge.pair).filter fun pair =>
            other.hasNode pair.1 && other.hasNode pair.2).map fun pair =>
              ({ source := other.indexOf pair.1, target := other.indexOf pair.2 } : Link) := by
          rw [List.filter_map, List.map_map]
          rfl
      _ = (graph.edges.filter graph.anchors).map fun edge =>
            { source := other.indexOf (rename edge.source)
              target := other.indexOf (rename edge.target) } := by
          rw [renamed.pairs, List.filter_map, List.map_map]
          refine congrArg _ (List.filter_congr fun edge member => ?_)
          exact anchors_rename renamed member
      _ = _ := by
          refine List.map_congr_left fun edge member => ?_
          obtain ⟨source, target⟩ := graph.ends_named (List.mem_filter.mp member).1
          rw [indexOf_rename renamed source, indexOf_rename renamed target]
  rw [links, links, drawn]

theorem ranks_renamed : other.ranks = graph.ranks := by
  rw [ranks, ranks, length_renamed renamed, links_renamed renamed]

theorem placed_renamed (direction : Direction) : other.placed direction = graph.placed direction := by
  have sizes : other.sizes = graph.sizes := by
    have known := congrArg (List.map sizeOfKind) renamed.kinds
    rwa [List.map_map, List.map_map] at known
  rw [placed, placed, layers, layers, sizes, ranks_renamed renamed, length_renamed renamed,
    links_renamed renamed]

theorem frames_renamed (direction : Direction) :
    (other.draw direction).nodes.map DrawnNode.frame =
      (graph.draw direction).nodes.map DrawnNode.frame := by
  rw [frames_draw, frames_draw, renamed.kinds, placed_renamed renamed, ranks_renamed renamed]

end Renamed

/-- In the drawing of a renamed chart every node has the place, size and rank that it had, the edges
that are drawn are those at the same places of the list, and the drawing is as wide and as high. -/
theorem drawing_of_renamed {rename : String → String} {graph other : Graph}
    (renamed : Renamed rename graph other) (direction : Direction) :
    let drawing := graph.draw direction
    let again := other.draw direction
    drawing.nodes.map DrawnNode.node = graph.nodes ∧ again.nodes.map DrawnNode.node = other.nodes ∧
    again.nodes.map DrawnNode.frame = drawing.nodes.map DrawnNode.frame ∧
    (∃ places : List Nat, places.Pairwise (· < ·) ∧
      places.map (graph.edges[·]?) = drawing.edges.map some ∧
      places.map (other.edges[·]?) = again.edges.map some) ∧
    again.width = drawing.width ∧ again.height = drawing.height := by
  intro drawing again
  have frames : again.nodes.map DrawnNode.frame = drawing.nodes.map DrawnNode.frame :=
    frames_renamed renamed direction
  refine ⟨nodes_draw, nodes_draw, frames, ?_, ?_, ?_⟩
  · have same : placesOf other.anchors other.edges = placesOf graph.anchors graph.edges := by
      rw [placesOf, placesOf, map_anchors renamed]
    refine ⟨placesOf graph.anchors graph.edges, pairwise_placesOf _ _, getElem?_placesOf _ _, ?_⟩
    rw [← same]
    exact getElem?_placesOf _ _
  · rw [width_draw, width_draw, frames]
  · rw [height_draw, height_draw, frames]

def crossed (id : String) : String :=
  match id with
  | "a" => "b"
  | "b" => "a"
  | "c" => "c"
  | _ => "elsewhere"

def tangledAgain : Graph :=
  { nodes := [{ id := "b", label := "Start", kind := .plain },
      { id := "a", label := "", kind := .decision }, .mentioned "a", .mentioned "c"]
    edges := [.between "b" "c" (some "go"), { id := "e", source := "c", target := "b", label := none },
      .between "a" "c" none, .between "c" "elsewhere" none] }

theorem tangled_crossed :
    Renamed crossed tangled tangledAgain ∧
    (tangledAgain.draw .topToBottom).nodes.map DrawnNode.frame =
      (tangled.draw .topToBottom).nodes.map DrawnNode.frame ∧
    (tangledAgain.draw .topToBottom).nodes.map (·.node.label) = ["Start", "", "a", "c"] ∧
    (tangledAgain.draw .topToBottom).width = 604 := by
  have apart : ∀ one ∈ tangled.namesIn, ∀ two ∈ tangled.namesIn,
      crossed one = crossed two → one = two := by decide
  have renamed : Renamed crossed tangled tangledAgain :=
    { injective := fun one first two second => apart one first two second
      ids := by decide
      kinds := by decide
      pairs := by decide }
  obtain ⟨_, _, frames, _, width, _⟩ := drawing_of_renamed renamed .topToBottom
  have broad : (tangled.draw .topToBottom).width = 604 := by cbv
  exact ⟨renamed, frames, by cbv, width.trans broad⟩

end Graph

end Chartbook
