import Chartbook.Proofs.Layout.Direction
import Chartbook.Proofs.Layout.Placement
import Mathlib

/-!
The places of a drawing. Main statement: every node is placed once, at whole coordinates; nodes keep
their distance, so that their rectangles never meet; and the drawing is as large as its contents.
-/

namespace Chartbook

open Layout

namespace DrawnNode

def point (drawn : DrawnNode Nat) : Point :=
  { x := drawn.x, y := drawn.y }

def size (drawn : DrawnNode Nat) : Size :=
  { width := drawn.width, height := drawn.height }

/-- The points of the plane that the rectangle of a node covers, its border included. -/
def area (drawn : DrawnNode Nat) : Set (Rat × Rat) :=
  Set.Icc (drawn.x, drawn.y) (drawn.x + drawn.width, drawn.y + drawn.height)

/-- Nodes of one rank are 40 apart across it, and nodes of different ranks are 80 apart along the
main axis. -/
structure Apart (direction : Direction) (one other : DrawnNode Nat) : Prop where
  across : one.rank = other.rank →
    one.point.cross direction + one.size.across direction + 40 ≤ other.point.cross direction ∨
    other.point.cross direction + other.size.across direction + 40 ≤ one.point.cross direction
  along : one.rank ≠ other.rank →
    one.point.main direction + one.size.along direction + 80 ≤ other.point.main direction ∨
    other.point.main direction + other.size.along direction + 80 ≤ one.point.main direction

def Clears (one other : DrawnNode Nat) : Prop :=
  one.x + one.width < other.x ∨ one.y + one.height < other.y

theorem Clears.disjoint {one other : DrawnNode Nat} (clears : one.Clears other) :
    Disjoint one.area other.area := by
  rw [Set.disjoint_left]
  rintro ⟨x, y⟩ ⟨_, right, bottom⟩ ⟨⟨left, top⟩, _⟩
  dsimp only at right bottom left top
  obtain before | above := clears
  · have order : (one.x : Rat) + one.width < other.x := by exact_mod_cast before
    exact absurd (left.trans right) (not_le_of_gt order)
  · have order : (one.y : Rat) + one.height < other.y := by exact_mod_cast above
    exact absurd (top.trans bottom) (not_le_of_gt order)

theorem Apart.clears {direction : Direction} {one other : DrawnNode Nat}
    (apart : one.Apart direction other) : one.Clears other ∨ other.Clears one := by
  have across := apart.across
  have along := apart.along
  rw [Clears, Clears]
  by_cases same : one.rank = other.rank
  · cases direction <;> simp only [Point.cross, Size.across, point, size] at across <;> omega
  · cases direction <;> simp only [Point.main, Size.along, point, size] at along <;> omega

theorem Apart.disjoint {direction : Direction} {one other : DrawnNode Nat}
    (apart : one.Apart direction other) : Disjoint one.area other.area := by
  obtain clears | clears := apart.clears
  · exact clears.disjoint
  · exact clears.disjoint.symm

end DrawnNode

namespace Layout

variable {placed : List Place}

theorem pointOf_of_mem (once : (placed.map Place.node).Nodup) {place : Place}
    (member : place ∈ placed) : pointOf placed place.node = place.point := by
  rw [pointOf, (find?_iff_of_nodup Place.node once place).mpr member]

theorem perm_points {count : Nat} (all : (placed.map Place.node).Perm (List.range count)) :
    placed.Perm ((List.range count).map fun node => { node, point := pointOf placed node }) := by
  have once : (placed.map Place.node).Nodup := all.nodup_iff.mpr List.nodup_range
  have listed : (placed.map Place.node).map (fun node => ({ node, point := pointOf placed node } :
      Place)) = placed := by
    rw [List.map_map]
    refine Eq.trans (List.map_congr_left fun place member => ?_) (List.map_id placed)
    rw [Function.comp_apply, pointOf_of_mem once member]
    rfl
  have renamed := all.map fun node => ({ node, point := pointOf placed node } : Place)
  rwa [listed] at renamed

end Layout

namespace Graph

variable (graph : Graph)

theorem length_ranks : graph.ranks.length = graph.nodes.length := by
  obtain ⟨_, ranked⟩ := exists_ranked graph.bounded_keptLinks
  exact ranked.length

theorem layered_layers : Layered graph.ranks graph.layers :=
  layered_arrange _ _

theorem allEven_sizes : AllEven graph.sizes := by
  intro size member
  obtain ⟨node, _, rfl⟩ := List.mem_map.mp member
  cases node.kind <;> decide

def placed (direction : Direction) : List Place :=
  places direction graph.sizes graph.layers

variable (direction : Direction)

theorem perm_placed : ((graph.placed direction).map Place.node).Perm
    (List.range graph.nodes.length) := by
  rw [placed, places, map_node_placeLayers, ← graph.length_ranks]
  exact graph.layered_layers.perm_range

theorem nodup_placed : ((graph.placed direction).map Place.node).Nodup :=
  (graph.perm_placed direction).nodup_iff.mpr List.nodup_range

theorem exists_place {index : Nat} (bounded : index < graph.nodes.length) :
    ∃ place ∈ graph.placed direction, place.node = index := by
  have listed := (graph.perm_placed direction).mem_iff.mpr (List.mem_range.mpr bounded)
  exact List.mem_map.mp listed

theorem pairwise_placed :
    (graph.placed direction).Pairwise (Precedes direction graph.sizes (rankOf graph.ranks)) := by
  have ranked : ∀ rank (bounded : rank < graph.layers.length), ∀ node ∈ graph.layers[rank],
      rankOf graph.ranks node = 0 + rank := by
    intro rank bounded node member
    rw [Nat.zero_add]
    exact ((graph.layered_layers.mem_layer_iff bounded).mp member).2
  exact pairwise_placeLayers ranked

theorem ordered_of_ne {one other : Place} (onePlaced : one ∈ graph.placed direction)
    (otherPlaced : other ∈ graph.placed direction) (different : one ≠ other) :
    Precedes direction graph.sizes (rankOf graph.ranks) one other ∨
      Precedes direction graph.sizes (rankOf graph.ranks) other one := by
  have either : (graph.placed direction).Pairwise fun first second =>
      Precedes direction graph.sizes (rankOf graph.ranks) first second ∨
        Precedes direction graph.sizes (rankOf graph.ranks) second first :=
    (graph.pairwise_placed direction).imp Or.inl
  have symmetric : Std.Symm fun first second =>
      Precedes direction graph.sizes (rankOf graph.ranks) first second ∨
        Precedes direction graph.sizes (rankOf graph.ranks) second first :=
    ⟨fun _ _ => Or.symm⟩
  exact either.forall onePlaced otherPlaced different

theorem length_nodes_draw : (graph.draw direction).nodes.length = graph.nodes.length := by
  rw [draw, List.length_map, List.length_zipIdx]

section Drawn

variable {graph} {direction} {index : Nat}

theorem getElem_nodes_draw (bounded : index < (graph.draw direction).nodes.length) :
    let drawn := (graph.draw direction).nodes[index]
    drawn.point = pointOf (graph.placed direction) index ∧
    drawn.size = sizeAt graph.sizes index ∧ drawn.rank = rankOf graph.ranks index := by
  have known := bounded
  rw [length_nodes_draw] at known
  simp [draw, DrawnNode.point, DrawnNode.size, placed, sizeAt, sizes, known]

theorem drawn_at (place : Place) (member : place ∈ graph.placed direction) :
    ∃ drawn ∈ (graph.draw direction).nodes, drawn.point = place.point := by
  have known := (graph.perm_placed direction).mem_iff.mp (List.mem_map_of_mem member)
  rw [List.mem_range, ← graph.length_nodes_draw direction] at known
  refine ⟨_, List.getElem_mem known, ?_⟩
  rw [(getElem_nodes_draw known).1]
  exact pointOf_of_mem (graph.nodup_placed direction) member

end Drawn

theorem pairwise_apart :
    (graph.draw direction).nodes.Pairwise (DrawnNode.Apart direction) := by
  rw [List.pairwise_iff_getElem]
  intro first second firstBound secondBound before
  obtain ⟨onePoint, oneSize, oneRank⟩ := getElem_nodes_draw firstBound
  obtain ⟨otherPoint, otherSize, otherRank⟩ := getElem_nodes_draw secondBound
  rw [length_nodes_draw] at firstBound secondBound
  obtain ⟨one, onePlaced, rfl⟩ := graph.exists_place direction firstBound
  obtain ⟨other, otherPlaced, rfl⟩ := graph.exists_place direction secondBound
  rw [pointOf_of_mem (graph.nodup_placed direction) onePlaced] at onePoint
  rw [pointOf_of_mem (graph.nodup_placed direction) otherPlaced] at otherPoint
  have different : one ≠ other := by
    rintro rfl
    exact Nat.lt_irrefl _ before
  have ordered := graph.ordered_of_ne direction onePlaced otherPlaced different
  constructor
  · rw [onePoint, otherPoint, oneSize, otherSize, oneRank, otherRank]
    intro same
    exact ordered.imp (fun kept => kept.across same) (fun kept => kept.across same.symm)
  · rw [onePoint, otherPoint, oneSize, otherSize, oneRank, otherRank]
    intro differ
    exact ordered.imp (fun kept => kept.along differ) (fun kept => kept.along differ.symm)

theorem perm_exact :
    ((graph.draw direction).nodes.zipIdx.map fun (drawn, index) =>
      (index, drawn.point.exact)).Perm (exactPlaces direction graph.sizes graph.layers) := by
  have points := (perm_points (graph.perm_placed direction)).map
    fun place => (place.node, place.point.exact)
  rw [placed, exact_places graph.allEven_sizes] at points
  refine List.Perm.trans (List.Perm.of_eq ?_) points.symm
  refine List.ext_getElem (by simp [length_nodes_draw]) fun index bounded _ => ?_
  rw [List.length_map, List.length_zipIdx] at bounded
  have point := (getElem_nodes_draw bounded).1
  simp [point, placed]

section Box

variable {graph} (nonempty : graph.nodes ≠ [])

include nonempty

theorem exists_node_of_rank {rank : Nat} (bounded : rank < depth graph.ranks) :
    ∃ node, node < graph.nodes.length ∧ rankOf graph.ranks node = rank := by
  have ranked : graph.ranks ≠ [] := by
    rw [← List.length_pos_iff_ne_nil, length_ranks, List.length_pos_iff_ne_nil]
    exact nonempty
  obtain ⟨highest, known, top⟩ := List.getElem_of_mem (isGreatest_foldl_max ranked).1
  have rankTop : rankOf graph.ranks highest = graph.ranks.foldl max 0 := by
    rw [rankOf, List.getD_eq_getElem _ _ known, top]
  rw [length_ranks] at known
  rw [depth, ← rankTop] at bounded
  obtain below | same := Nat.lt_or_eq_of_le (Nat.le_of_lt_succ bounded)
  · obtain ⟨source, _, linked, held⟩ := exists_rank_below graph.ranks_reached highest below
    exact ⟨source, (graph.bounded_keptLinks _ linked).1, held⟩
  · exact ⟨highest, known, same.symm⟩

theorem full_layers : ∀ layer ∈ graph.layers, layer ≠ [] := by
  intro layer member
  obtain ⟨rank, bounded, rfl⟩ := List.getElem_of_mem member
  have low := bounded
  rw [graph.layered_layers.length] at low
  obtain ⟨node, known, held⟩ := exists_node_of_rank nonempty low
  rw [← length_ranks] at known
  exact List.ne_nil_of_mem ((graph.layered_layers.mem_layer_iff bounded).mpr ⟨known, held⟩)

omit nonempty in
theorem layers_ne_nil : graph.layers ≠ [] := by
  rw [← List.length_pos_iff_ne_nil, graph.layered_layers.length]
  exact Nat.succ_pos _

theorem exists_zero (direction : Direction) :
    (∃ drawn ∈ (graph.draw direction).nodes, drawn.x = 0) ∧
    ∃ drawn ∈ (graph.draw direction).nodes, drawn.y = 0 := by
  obtain ⟨left, leftPlaced, leftZero⟩ :=
    exists_cross_zero direction graph.sizes layers_ne_nil (full_layers nonempty)
  obtain ⟨top, topPlaced, topZero⟩ :=
    exists_main_zero direction graph.sizes layers_ne_nil (full_layers nonempty)
  obtain ⟨first, drawnFirst, firstPoint⟩ := drawn_at left leftPlaced
  obtain ⟨second, drawnSecond, secondPoint⟩ := drawn_at top topPlaced
  rw [← firstPoint] at leftZero
  rw [← secondPoint] at topZero
  cases direction with
  | topToBottom => exact ⟨⟨first, drawnFirst, leftZero⟩, second, drawnSecond, topZero⟩
  | leftToRight => exact ⟨⟨second, drawnSecond, topZero⟩, first, drawnFirst, leftZero⟩

theorem isGreatest_edge (direction : Direction) (edge : DrawnNode Nat → Nat) :
    IsGreatest {far | ∃ drawn ∈ (graph.draw direction).nodes, edge drawn = far}
      (((graph.draw direction).nodes.map edge).foldl max 0) := by
  have drawn : (graph.draw direction).nodes.map edge ≠ [] := by
    rw [← List.length_pos_iff_ne_nil, List.length_map, length_nodes_draw,
      List.length_pos_iff_ne_nil]
    exact nonempty
  have greatest := isGreatest_foldl_max drawn
  simp only [List.mem_map] at greatest
  exact greatest

end Box

/-- Every node is drawn once, in the size of its kind. The nodes by their index stand exactly where
they are placed in fractions, so that no coordinate is rounded. Nodes of one rank are at least 40
apart across it and nodes of different ranks at least 80 along the main axis, and rectangles do not
meet. The drawing begins at zero on both axes and ends where its last rectangle does. -/
theorem drawing_geometry (direction : Direction) (nonempty : graph.nodes ≠ []) :
    let drawing := graph.draw direction
    (drawing.nodes.map fun drawn => (drawn.node, drawn.size)) =
      (graph.nodes.map fun node => (node, sizeOfKind node.kind)) ∧
    (drawing.nodes.zipIdx.map fun (drawn, index) => (index, drawn.point.exact)).Perm
      (exactPlaces direction graph.sizes graph.layers) ∧
    drawing.nodes.Pairwise (fun one other =>
      one.Apart direction other ∧ Disjoint one.area other.area) ∧
    IsLeast {left | ∃ drawn ∈ drawing.nodes, drawn.x = left} 0 ∧
    IsLeast {top | ∃ drawn ∈ drawing.nodes, drawn.y = top} 0 ∧
    IsGreatest {right | ∃ drawn ∈ drawing.nodes, drawn.x + drawn.width = right} drawing.width ∧
    IsGreatest {bottom | ∃ drawn ∈ drawing.nodes, drawn.y + drawn.height = bottom}
      drawing.height := by
  intro drawing
  obtain ⟨left, top⟩ := exists_zero nonempty direction
  refine ⟨?_, graph.perm_exact direction, ?_, ⟨left, fun _ _ => Nat.zero_le _⟩,
    ⟨top, fun _ _ => Nat.zero_le _⟩, isGreatest_edge nonempty direction _,
    isGreatest_edge nonempty direction _⟩
  · have counted := congrArg (List.map fun node : Node => (node, sizeOfKind node.kind))
      (List.zipIdx_map_fst 0 graph.nodes)
    rw [List.map_map] at counted
    rw [← counted]
    exact List.map_map
  · exact (graph.pairwise_apart direction).imp fun apart => ⟨apart, apart.disjoint⟩

def tangled : Graph :=
  { nodes := [.mentioned "a", { id := "b", label := "Sure?", kind := .decision }, .mentioned "b",
      .mentioned "c"]
    edges := [.between "a" "c" none, .between "c" "a" none, .between "b" "c" none,
      .between "c" "missing" none] }

theorem tangled_places :
    let drawing := tangled.draw .topToBottom
    tangled.nodes ≠ [] ∧
    drawing.nodes.map (fun drawn => (drawn.x, drawn.y, drawn.rank)) =
      [(0, 30, 0), (212, 0, 0), (432, 30, 0), (216, 180, 1)] ∧
    drawing.nodes.Pairwise (fun one other =>
      one.Apart .topToBottom other ∧ Disjoint one.area other.area) ∧
    IsGreatest {right | ∃ drawn ∈ drawing.nodes, drawn.x + drawn.width = right} drawing.width ∧
    drawing.width = 604 :=
  have geometry := drawing_geometry tangled .topToBottom (by decide)
  ⟨by decide, by cbv, geometry.2.2.1, geometry.2.2.2.2.2.1, by cbv⟩

end Graph

end Chartbook
