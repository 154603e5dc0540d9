import Chartbook.Layout.Coordinates
import Chartbook.Proofs.Layout.Arrangement
import Mathlib.Algebra.Order.Field.Rat
import Mathlib.Data.Nat.Cast.Field
import Mathlib.Tactic.NormNum

/-!
Places of layers. Main statements: places keep their distance, across from one node to the next and
along from one layer to the next; both axes begin at zero; and no halving rounds.
-/

namespace Chartbook.Layout

def Point.main (point : Point) : Direction → Nat
  | .topToBottom => point.y
  | .leftToRight => point.x

def Point.cross (point : Point) : Direction → Nat
  | .topToBottom => point.x
  | .leftToRight => point.y

@[simp]
theorem Point.main_at (direction : Direction) (main cross : Nat) :
    (Point.at direction main cross).main direction = main := by
  cases direction <;> rfl

@[simp]
theorem Point.cross_at (direction : Direction) (main cross : Nat) :
    (Point.at direction main cross).cross direction = cross := by
  cases direction <;> rfl

/-- The first place ends before the second begins, within a rank across and from rank to rank
along. -/
structure Precedes (direction : Direction) (sizes : List Size) (rank : Nat → Nat)
    (first second : Place) : Prop where
  across : rank first.node = rank second.node →
    first.point.cross direction + (sizeAt sizes first.node).across direction + nodeGap ≤
      second.point.cross direction
  along : rank first.node ≠ rank second.node →
    first.point.main direction + (sizeAt sizes first.node).along direction + rankGap ≤
      second.point.main direction

variable {direction : Direction} {sizes : List Size}

theorem along_le_thickness {layer : List Nat} {node : Nat} (member : node ∈ layer) :
    (sizeAt sizes node).along direction ≤ thickness direction sizes layer :=
  le_foldl_max (List.mem_map_of_mem member)

theorem span_le_widest {layers : List (List Nat)} {layer : List Nat} (member : layer ∈ layers) :
    span direction sizes layer ≤ widest direction sizes layers :=
  le_foldl_max (List.mem_map_of_mem member)

section Layer

variable {main thick cross : Nat} {layer : List Nat} {place : Place}

theorem map_node_placeLayer :
    (placeLayer direction sizes main thick cross layer).map Place.node = layer := by
  induction layer generalizing cross with
  | nil => rfl
  | cons node rest ih => rw [placeLayer, List.map_cons, ih]

theorem node_mem_of_placeLayer (member : place ∈ placeLayer direction sizes main thick cross layer) :
    place.node ∈ layer := by
  have listed := List.mem_map_of_mem (f := Place.node) member
  rwa [map_node_placeLayer] at listed

theorem main_of_placeLayer (member : place ∈ placeLayer direction sizes main thick cross layer) :
    place.point.main direction =
      main + (thick - (sizeAt sizes place.node).along direction) / 2 := by
  induction layer generalizing cross with
  | nil => simp [placeLayer] at member
  | cons node rest ih =>
      rw [placeLayer] at member
      obtain rfl | later := List.mem_cons.mp member
      · simp
      · exact ih later

theorem le_cross_of_placeLayer (member : place ∈ placeLayer direction sizes main thick cross layer) :
    cross ≤ place.point.cross direction := by
  induction layer generalizing cross with
  | nil => simp [placeLayer] at member
  | cons node rest ih =>
      rw [placeLayer] at member
      obtain rfl | later := List.mem_cons.mp member
      · simp
      · have further := ih later
        omega

theorem pairwise_placeLayer :
    (placeLayer direction sizes main thick cross layer).Pairwise fun first second =>
      first.point.cross direction + (sizeAt sizes first.node).across direction + nodeGap ≤
        second.point.cross direction := by
  induction layer generalizing cross with
  | nil => exact .nil
  | cons node rest ih =>
      refine List.Pairwise.cons ?_ ih
      intro place member
      simpa using le_cross_of_placeLayer member

end Layer

section Layers

variable {broadest main : Nat} {layers : List (List Nat)} {place : Place}

theorem map_node_placeLayers :
    (placeLayers direction sizes broadest main layers).map Place.node = layers.flatten := by
  induction layers generalizing main with
  | nil => rfl
  | cons layer rest ih =>
      rw [placeLayers, List.map_append, map_node_placeLayer, ih, List.flatten_cons]

theorem node_mem_of_placeLayers
    (member : place ∈ placeLayers direction sizes broadest main layers) :
    place.node ∈ layers.flatten := by
  have listed := List.mem_map_of_mem (f := Place.node) member
  rwa [map_node_placeLayers] at listed

theorem le_main_of_placeLayers
    (member : place ∈ placeLayers direction sizes broadest main layers) :
    main ≤ place.point.main direction := by
  induction layers generalizing main with
  | nil => simp [placeLayers] at member
  | cons layer rest ih =>
      rw [placeLayers] at member
      obtain here | later := List.mem_append.mp member
      · rw [main_of_placeLayer here]
        omega
      · have further := ih later
        omega

theorem pairwise_placeLayers {rank : Nat → Nat} {lowest : Nat}
    (ranked : ∀ index (bounded : index < layers.length), ∀ node ∈ layers[index],
      rank node = lowest + index) :
    (placeLayers direction sizes broadest main layers).Pairwise
      (Precedes direction sizes rank) := by
  induction layers generalizing main lowest with
  | nil => exact .nil
  | cons layer rest ih =>
      have lower : ∀ node ∈ layer, rank node = lowest :=
        ranked 0 (Nat.zero_lt_succ rest.length)
      have higher : ∀ index (bounded : index < rest.length), ∀ node ∈ rest[index],
          rank node = lowest + 1 + index := by
        intro index bounded node member
        have raised := ranked (index + 1) (Nat.succ_lt_succ bounded) node member
        omega
      rw [placeLayers, List.pairwise_append]
      refine ⟨?_, ih higher, ?_⟩
      · refine pairwise_placeLayer.imp_of_mem ?_
        intro first second one other apart
        refine ⟨fun _ => apart, fun differ => absurd ?_ differ⟩
        rw [lower _ (node_mem_of_placeLayer one), lower _ (node_mem_of_placeLayer other)]
      · intro first one second other
        obtain ⟨layer', listed, inside⟩ := List.mem_flatten.mp (node_mem_of_placeLayers other)
        obtain ⟨index, bounded, rfl⟩ := List.getElem_of_mem listed
        have above := higher index bounded _ inside
        have below := lower _ (node_mem_of_placeLayer one)
        refine ⟨fun same => by omega, fun _ => ?_⟩
        have fits : (sizeAt sizes first.node).along direction ≤ thickness direction sizes layer :=
          along_le_thickness (node_mem_of_placeLayer one)
        have start := main_of_placeLayer one
        have next := le_main_of_placeLayers other
        omega

theorem node_placed {layer : List Nat} (main thick cross : Nat) {node : Nat} (member : node ∈ layer) :
    ∃ place ∈ placeLayer direction sizes main thick cross layer, place.node = node := by
  have listed : node ∈ (placeLayer direction sizes main thick cross layer).map Place.node := by
    rw [map_node_placeLayer]
    exact member
  exact List.mem_map.mp listed

theorem exists_place_of_layer (broadest main : Nat) {layer : List Nat} (member : layer ∈ layers)
    (full : layer ≠ []) :
    ∃ place ∈ placeLayers direction sizes broadest main layers,
      place.point.cross direction = (broadest - span direction sizes layer) / 2 := by
  induction layers generalizing main with
  | nil => simp at member
  | cons first rest ih =>
      rw [placeLayers]
      obtain rfl | later := List.mem_cons.mp member
      · cases layer with
        | nil => exact absurd rfl full
        | cons node others =>
            exact ⟨_, List.mem_append_left _ List.mem_cons_self, Point.cross_at _ _ _⟩
      · obtain ⟨place, placed, start⟩ := ih _ later
        exact ⟨place, List.mem_append_right _ placed, start⟩

end Layers

section Places

variable (direction : Direction) (sizes : List Size) {layers : List (List Nat)}
  (nonempty : layers ≠ []) (full : ∀ layer ∈ layers, layer ≠ [])

include nonempty full

theorem exists_cross_zero :
    ∃ place ∈ places direction sizes layers, place.point.cross direction = 0 := by
  have attained : widest direction sizes layers ∈ layers.map (span direction sizes) :=
    (isGreatest_foldl_max (by simpa using nonempty)).1
  obtain ⟨layer, member, broadest⟩ := List.mem_map.mp attained
  obtain ⟨place, placed, start⟩ :=
    exists_place_of_layer (widest direction sizes layers) 0 member (full layer member)
  refine ⟨place, placed, ?_⟩
  rw [start, broadest]
  omega

theorem exists_main_zero :
    ∃ place ∈ places direction sizes layers, place.point.main direction = 0 := by
  cases layers with
  | nil => exact absurd rfl nonempty
  | cons layer rest =>
      have attained : thickness direction sizes layer ∈
          layer.map fun node => (sizeAt sizes node).along direction :=
        (isGreatest_foldl_max (by simpa using full layer List.mem_cons_self)).1
      obtain ⟨node, member, thickest⟩ := List.mem_map.mp attained
      rw [places, placeLayers]
      obtain ⟨place, placed, rfl⟩ := node_placed 0 (thickness direction sizes layer)
        ((widest direction sizes (layer :: rest) - span direction sizes layer) / 2) member
      refine ⟨place, List.mem_append_left _ placed, ?_⟩
      rw [main_of_placeLayer placed, thickest]
      omega

end Places

def exactAt (direction : Direction) (main cross : Rat) : Rat × Rat :=
  match direction with
  | .topToBottom => (cross, main)
  | .leftToRight => (main, cross)

def exactLayer (direction : Direction) (sizes : List Size) (main thick : Rat) :
    (cross : Rat) → List Nat → List (Nat × Rat × Rat)
  | _, [] => []
  | cross, node :: rest =>
      let size := sizeAt sizes node
      (node, exactAt direction (main + (thick - size.along direction) / 2) cross)
        :: exactLayer direction sizes main thick (cross + size.across direction + nodeGap) rest

def exactLayers (direction : Direction) (sizes : List Size) (broadest : Rat) :
    (main : Rat) → List (List Nat) → List (Nat × Rat × Rat)
  | _, [] => []
  | main, layer :: rest =>
      let thick := thickness direction sizes layer
      exactLayer direction sizes main thick ((broadest - span direction sizes layer) / 2) layer
        ++ exactLayers direction sizes broadest (main + thick + rankGap) rest

/-- The places as fractions, with every half taken exactly. -/
def exactPlaces (direction : Direction) (sizes : List Size) (layers : List (List Nat)) :
    List (Nat × Rat × Rat) :=
  exactLayers direction sizes (widest direction sizes layers) 0 layers

def Point.exact (point : Point) : Rat × Rat :=
  (point.x, point.y)

theorem exact_at (direction : Direction) (main cross : Nat) :
    (Point.at direction main cross).exact = exactAt direction main cross := by
  cases direction <;> rfl

theorem exact_half {whole part : Nat} (fits : part ≤ whole) (evenWhole : 2 ∣ whole)
    (evenPart : 2 ∣ part) : (((whole - part) / 2 : Nat) : Rat) = ((whole : Rat) - part) / 2 := by
  rw [Nat.cast_div (Nat.dvd_sub evenWhole evenPart) (by norm_num), Nat.cast_sub fits, Nat.cast_ofNat]

def AllEven (sizes : List Size) : Prop :=
  ∀ size ∈ sizes, 2 ∣ size.width ∧ 2 ∣ size.height

theorem dvd_total {numbers : List Nat} (even : ∀ number ∈ numbers, 2 ∣ number) :
    2 ∣ total numbers := by
  induction numbers with
  | nil => exact Nat.dvd_zero 2
  | cons first rest ih =>
      exact Nat.dvd_add (even first List.mem_cons_self)
        (ih fun number member => even number (List.mem_cons_of_mem first member))

theorem dvd_foldl_max {numbers : List Nat} (even : ∀ number ∈ numbers, 2 ∣ number) :
    2 ∣ numbers.foldl max 0 := by
  by_cases empty : numbers = []
  · rw [empty]
    exact Nat.dvd_zero 2
  · exact even _ (isGreatest_foldl_max empty).1

section Exact

variable (even : AllEven sizes)

include even

theorem even_sizeAt (node : Nat) :
    2 ∣ (sizeAt sizes node).width ∧ 2 ∣ (sizeAt sizes node).height := by
  rw [sizeAt, List.getD_eq_getElem?_getD]
  cases found : sizes[node]? with
  | none => decide
  | some size => exact even size (List.mem_of_getElem? found)

theorem even_along (direction : Direction) (node : Nat) :
    2 ∣ (sizeAt sizes node).along direction := by
  cases direction with
  | topToBottom => exact (even_sizeAt even node).2
  | leftToRight => exact (even_sizeAt even node).1

theorem even_across (direction : Direction) (node : Nat) :
    2 ∣ (sizeAt sizes node).across direction := by
  cases direction with
  | topToBottom => exact (even_sizeAt even node).1
  | leftToRight => exact (even_sizeAt even node).2

theorem even_thickness (direction : Direction) (layer : List Nat) :
    2 ∣ thickness direction sizes layer :=
  dvd_foldl_max (List.forall_mem_map.mpr fun node _ => even_along even direction node)

theorem even_span (direction : Direction) (layer : List Nat) : 2 ∣ span direction sizes layer :=
  Nat.dvd_add (dvd_total (List.forall_mem_map.mpr fun node _ => even_across even direction node))
    (Nat.dvd_mul_left_of_dvd (by decide : 2 ∣ nodeGap) _)

theorem even_widest (direction : Direction) (layers : List (List Nat)) :
    2 ∣ widest direction sizes layers :=
  dvd_foldl_max (List.forall_mem_map.mpr fun layer _ => even_span even direction layer)

theorem exact_placeLayer (main cross : Nat) {thick : Nat} (evenThick : 2 ∣ thick)
    {layer : List Nat} (fits : ∀ node ∈ layer, (sizeAt sizes node).along direction ≤ thick) :
    (placeLayer direction sizes main thick cross layer).map
        (fun place => (place.node, place.point.exact)) =
      exactLayer direction sizes main thick cross layer := by
  induction layer generalizing cross with
  | nil => rfl
  | cons node rest ih =>
      have half := exact_half (fits node List.mem_cons_self) evenThick
        (even_along even direction node)
      have later := ih (cross + (sizeAt sizes node).across direction + nodeGap)
        fun other member => fits other (List.mem_cons_of_mem node member)
      rw [placeLayer, List.map_cons, later, exactLayer, exact_at]
      push_cast [half]
      rfl

theorem exact_placeLayers (broadest main : Nat) (evenBroadest : 2 ∣ broadest)
    {layers : List (List Nat)} (fits : ∀ layer ∈ layers, span direction sizes layer ≤ broadest) :
    (placeLayers direction sizes broadest main layers).map
        (fun place => (place.node, place.point.exact)) =
      exactLayers direction sizes broadest main layers := by
  induction layers generalizing main with
  | nil => rfl
  | cons layer rest ih =>
      have half := exact_half (fits layer List.mem_cons_self) evenBroadest
        (even_span even direction layer)
      have later := ih (main + thickness direction sizes layer + rankGap)
        fun other member => fits other (List.mem_cons_of_mem layer member)
      rw [placeLayers, List.map_append, later, exactLayers,
        exact_placeLayer even _ _ (even_thickness even direction layer)
          fun node member => along_le_thickness member]
      push_cast [half]
      rfl

theorem exact_places (direction : Direction) (layers : List (List Nat)) :
    (places direction sizes layers).map (fun place => (place.node, place.point.exact)) =
      exactPlaces direction sizes layers := by
  have placed := exact_placeLayers even (widest direction sizes layers) 0
    (even_widest even direction layers) fun layer member => span_le_widest member
  rw [Nat.cast_zero] at placed
  exact placed

end Exact

end Chartbook.Layout
