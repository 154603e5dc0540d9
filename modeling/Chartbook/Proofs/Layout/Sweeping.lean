import Chartbook.Proofs.Layout.Arrangement
import Mathlib.Algebra.Order.Field.Basic
import Mathlib.Algebra.Order.Field.Rat
import Mathlib.Data.Nat.Cast.Order.Field

/-!
The sweeps turn by turn. Main statement: after every turn the layers hold the nodes of their ranks and
every node's slot is its index in its layer, and a turn sorts its layer by the exact mean slot of the
neighbours, without changing the order of nodes whose means agree.
-/

namespace Chartbook.Layout

section Slots

variable {slots layer : List Nat} {layers : List (List Nat)} {place node : Nat}

theorem length_enterSlots : (enterSlots place slots layer).length = slots.length := by
  induction layer generalizing place slots with
  | nil => rfl
  | cons first rest ih => rw [enterSlots, ih, List.length_set]

theorem length_foldl_enterSlots : (layers.foldl (enterSlots 0) slots).length = slots.length := by
  induction layers generalizing slots with
  | nil => rfl
  | cons first rest ih => rw [List.foldl_cons, ih, length_enterSlots]

theorem slotOf_set_self (bounded : node < slots.length) :
    slotOf (slots.set node place) node = place := by
  simp [slotOf, bounded]

theorem slotOf_set_of_ne {other : Nat} (apart : other ≠ node) :
    slotOf (slots.set node place) other = slotOf slots other := by
  rw [slotOf, List.getD_eq_getElem?_getD, List.getElem?_set_ne apart.symm,
    ← List.getD_eq_getElem?_getD, slotOf]

theorem slotOf_enterSlots_of_not_mem (absent : node ∉ layer) :
    slotOf (enterSlots place slots layer) node = slotOf slots node := by
  induction layer generalizing place slots with
  | nil => rfl
  | cons first rest ih =>
      rw [List.mem_cons, not_or] at absent
      rw [enterSlots, ih absent.2, slotOf_set_of_ne absent.1]

theorem slotOf_enterSlots_of_mem (unique : layer.Nodup)
    (bounded : ∀ node ∈ layer, node < slots.length) (member : node ∈ layer) :
    slotOf (enterSlots place slots layer) node = place + layer.idxOf node := by
  induction layer generalizing place slots with
  | nil => cases member
  | cons first rest ih =>
      obtain ⟨new, later⟩ := List.nodup_cons.mp unique
      rw [enterSlots]
      by_cases same : node = first
      · subst same
        rw [slotOf_enterSlots_of_not_mem new, slotOf_set_self (bounded node List.mem_cons_self),
          List.idxOf_cons_self, Nat.add_zero]
      · have behind := (List.mem_cons.mp member).resolve_left same
        have inside : ∀ other ∈ rest, other < (slots.set first place).length := by
          intro other known
          rw [List.length_set]
          exact bounded other (List.mem_cons_of_mem first known)
        rw [ih later inside behind, List.idxOf_cons_ne _ (Ne.symm same)]
        omega

theorem slotOf_foldl_enterSlots_of_not_mem (absent : node ∉ layers.flatten) :
    slotOf (layers.foldl (enterSlots 0) slots) node = slotOf slots node := by
  induction layers generalizing slots with
  | nil => rfl
  | cons first rest ih =>
      rw [List.flatten_cons, List.mem_append, not_or] at absent
      rw [List.foldl_cons, ih absent.2, slotOf_enterSlots_of_not_mem absent.1]

theorem slotOf_foldl_enterSlots_of_mem (unique : layers.flatten.Nodup)
    (bounded : ∀ node ∈ layers.flatten, node < slots.length) (member : layer ∈ layers)
    (inside : node ∈ layer) :
    slotOf (layers.foldl (enterSlots 0) slots) node = layer.idxOf node := by
  induction layers generalizing slots with
  | nil => cases member
  | cons first rest ih =>
      rw [List.flatten_cons] at unique bounded
      obtain ⟨own, others, apart⟩ := List.nodup_append.mp unique
      rw [List.foldl_cons]
      obtain rfl | later := List.mem_cons.mp member
      · have absent : node ∉ rest.flatten := fun again => apart node inside node again rfl
        have known : ∀ other ∈ layer, other < slots.length :=
          fun other present => bounded other (List.mem_append_left _ present)
        rw [slotOf_foldl_enterSlots_of_not_mem absent, slotOf_enterSlots_of_mem own known inside,
          Nat.zero_add]
      · refine ih others ?_ later
        intro other present
        rw [length_enterSlots]
        exact bounded other (List.mem_append_right first present)

end Slots

def Arrangement.layer (held : Arrangement) (rank : Nat) : List Nat :=
  held.layers.getD rank []

/-- Every layer holds the nodes of its rank, and the slot of every node is its index there. -/
structure Arranged (ranks : List Nat) (held : Arrangement) : Prop where
  layered : Layered ranks held.layers
  sized : held.slots.length = ranks.length
  placed : ∀ node < ranks.length,
    slotOf held.slots node = (held.layer (rankOf ranks node)).idxOf node

section Arranged

variable {ranks : List Nat} {held : Arrangement} {links : List Link} {sweep : Sweep} {rank node : Nat}

theorem layer_perm (layered : Layered ranks held.layers) (rank : Nat) :
    (held.layer rank).Perm (layerOf ranks rank) := by
  by_cases bounded : rank < held.layers.length
  · rw [Arrangement.layer, List.getD_eq_getElem _ _ bounded]
    exact layered.holds rank bounded
  · have empty : layerOf ranks rank = [] := by
      rw [List.eq_nil_iff_forall_not_mem]
      intro node member
      obtain ⟨known, rfl⟩ := mem_layerOf.mp member
      rw [layered.length] at bounded
      exact bounded (rankOf_lt_depth known)
    rw [Arrangement.layer, List.getD_eq_default _ _ (Nat.le_of_not_lt bounded), empty]

theorem mem_layer_iff (layered : Layered ranks held.layers) :
    node ∈ held.layer rank ↔ node < ranks.length ∧ rankOf ranks node = rank := by
  rw [(layer_perm layered rank).mem_iff, mem_layerOf]

theorem nodup_layer (layered : Layered ranks held.layers) (rank : Nat) : (held.layer rank).Nodup := by
  rw [(layer_perm layered rank).nodup_iff]
  exact List.nodup_range.filter _

theorem layer_mem_layers (layered : Layered ranks held.layers) (known : node < ranks.length) :
    held.layer (rankOf ranks node) ∈ held.layers := by
  have bounded : rankOf ranks node < held.layers.length := by
    rw [layered.length]
    exact rankOf_lt_depth known
  rw [Arrangement.layer, List.getD_eq_getElem _ _ bounded]
  exact List.getElem_mem bounded

theorem arranged_initial (ranks : List Nat) : Arranged ranks (initialArrangement ranks) where
  layered := layered_initial ranks
  sized := length_foldl_enterSlots.trans List.length_replicate
  placed := by
    intro node known
    have layered := layered_initial ranks
    have inside := (mem_layer_iff layered).mpr ⟨known, rfl⟩
    refine slotOf_foldl_enterSlots_of_mem layered.nodup_flatten ?_
      (layer_mem_layers layered known) inside
    intro other present
    rw [List.length_replicate]
    exact layered.mem_flatten_iff.mp present

theorem layer_sortLayer_of_ne {other : Nat} (apart : other ≠ rank) :
    (sortLayer ranks links sweep held rank).layer other = held.layer other := by
  rw [sortLayer, Arrangement.layer, List.getD_eq_getElem?_getD, List.getElem?_set_ne apart.symm,
    ← List.getD_eq_getElem?_getD, Arrangement.layer]

theorem layer_sortLayer_self :
    (sortLayer ranks links sweep held rank).layer rank =
      (held.layer rank).mergeSort fun left right =>
        (barycenter ranks links held.slots sweep rank left).atMost
          (barycenter ranks links held.slots sweep rank right) := by
  by_cases bounded : rank < held.layers.length <;> simp [sortLayer, Arrangement.layer, bounded]

theorem slots_sortLayer :
    (sortLayer ranks links sweep held rank).slots =
      enterSlots 0 held.slots ((sortLayer ranks links sweep held rank).layer rank) := by
  rw [layer_sortLayer_self]
  rfl

theorem Arranged.sortLayer (arranged : Arranged ranks held) (links : List Link) (sweep : Sweep)
    (rank : Nat) : Arranged ranks (Layout.sortLayer ranks links sweep held rank) where
  layered := arranged.layered.sortLayer links sweep rank
  sized := length_enterSlots.trans arranged.sized
  placed := by
    intro node known
    have layered := arranged.layered.sortLayer links sweep rank
    rw [slots_sortLayer]
    by_cases own : rankOf ranks node = rank
    · subst own
      have inside := (mem_layer_iff layered).mpr ⟨known, rfl⟩
      rw [slotOf_enterSlots_of_mem (nodup_layer layered _) ?_ inside, Nat.zero_add]
      intro other present
      rw [arranged.sized]
      exact ((mem_layer_iff layered).mp present).1
    · rw [slotOf_enterSlots_of_not_mem fun present => own ((mem_layer_iff layered).mp present).2,
        layer_sortLayer_of_ne own]
      exact arranged.placed node known

end Arranged

/-- One layer is sorted in the course of a sweep. -/
structure Turn where
  sweep : Sweep
  rank : Nat
  deriving DecidableEq, Repr

/-- The mean slot of the fixed neighbours as a fraction. A node without any has its own slot. -/
def meanSlot (ranks : List Nat) (links : List Link) (slots : List Nat) (turn : Turn) (node : Nat) :
    Rat :=
  match fixedNeighbours ranks links turn.sweep turn.rank node with
  | [] => slotOf slots node
  | others => (total (others.map (slotOf slots)) : Rat) / (others.length : Rat)

section Means

variable {ranks slots : List Nat} {links : List Link} {turn : Turn}

theorem count_barycenter_pos (node : Nat) :
    0 < (barycenter ranks links slots turn.sweep turn.rank node).count := by
  rw [barycenter]
  split
  · exact Nat.one_pos
  · rename_i nonempty
    exact List.length_pos_of_ne_nil nonempty

theorem meanSlot_eq (node : Nat) :
    meanSlot ranks links slots turn node =
      ((barycenter ranks links slots turn.sweep turn.rank node).total : Rat) /
        (barycenter ranks links slots turn.sweep turn.rank node).count := by
  rw [meanSlot, barycenter]
  cases fixedNeighbours ranks links turn.sweep turn.rank node with
  | nil => simp
  | cons first rest => rfl

theorem atMost_barycenter (left right : Nat) :
    (barycenter ranks links slots turn.sweep turn.rank left).atMost
        (barycenter ranks links slots turn.sweep turn.rank right) =
      decide (meanSlot ranks links slots turn left ≤ meanSlot ranks links slots turn right) := by
  have first : (0 : Rat) < (barycenter ranks links slots turn.sweep turn.rank left).count :=
    Nat.cast_pos.mpr (count_barycenter_pos left)
  have second : (0 : Rat) < (barycenter ranks links slots turn.sweep turn.rank right).count :=
    Nat.cast_pos.mpr (count_barycenter_pos right)
  rw [meanSlot_eq, meanSlot_eq, Mean.atMost, decide_eq_decide, div_le_div_iff₀ first second]
  exact_mod_cast Iff.rfl

end Means

section Sorting

variable {Entry Key : Type} [LinearOrder Key] (key : Entry → Key) (entries : List Entry)

def sortedBy : List Entry :=
  entries.mergeSort fun left right => decide (key left ≤ key right)

theorem sortedBy_perm : (sortedBy key entries).Perm entries :=
  List.mergeSort_perm _ _

theorem noMore_trans (first second third : Entry) (below : decide (key first ≤ key second) = true)
    (above : decide (key second ≤ key third) = true) : decide (key first ≤ key third) = true :=
  decide_eq_true (le_trans (of_decide_eq_true below) (of_decide_eq_true above))

theorem noMore_total (first second : Entry) :
    (decide (key first ≤ key second) || decide (key second ≤ key first)) = true := by
  simpa using le_total (key first) (key second)

theorem pairwise_sortedBy :
    (sortedBy key entries).Pairwise fun left right => key left ≤ key right :=
  (List.pairwise_mergeSort (noMore_trans key) (noMore_total key) entries).imp of_decide_eq_true

theorem filter_sortedBy (value : Key) :
    (sortedBy key entries).filter (key · = value) = entries.filter (key · = value) := by
  have alike : (entries.filter (key · = value)).Pairwise fun left right =>
      decide (key left ≤ key right) = true := by
    refine List.pairwise_of_forall_mem_list fun left first right second => ?_
    have one := of_decide_eq_true (List.mem_filter.mp first).2
    have other := of_decide_eq_true (List.mem_filter.mp second).2
    exact decide_eq_true (le_of_eq (one.trans other.symm))
  have kept : (entries.filter (key · = value)).Sublist (sortedBy key entries) :=
    List.sublist_mergeSort (noMore_trans key) (noMore_total key) alike List.filter_sublist
  have again := kept.filter (key · = value)
  simp only [List.filter_filter, Bool.and_self] at again
  have size := ((sortedBy_perm key entries).filter (key · = value)).length_eq
  exact (again.eq_of_length size.symm).symm

end Sorting

/-! The sweeps, one turn after another. -/

/-- All turns in order: down, up, down and up the ranks. -/
def turns (ranks : List Nat) : List Turn :=
  [Sweep.down, .up, .down, .up].flatMap fun sweep =>
    (visited ranks sweep).map fun rank => { sweep, rank }

def arrangedAfter (ranks : List Nat) (links : List Link) (taken : List Turn) : Arrangement :=
  taken.foldl (fun held turn => sortLayer ranks links turn.sweep held turn.rank)
    (initialArrangement ranks)

/-- The layer of a turn is sorted by the means that the slots gave before it; the others stay. -/
structure Resorted (ranks : List Nat) (links : List Link) (turn : Turn)
    (before after : Arrangement) : Prop where
  others : ∀ rank, rank ≠ turn.rank → after.layer rank = before.layer rank
  rising : (after.layer turn.rank).Pairwise fun left right =>
    meanSlot ranks links before.slots turn left ≤ meanSlot ranks links before.slots turn right
  steady : ∀ mean : Rat,
    (after.layer turn.rank).filter (meanSlot ranks links before.slots turn · = mean) =
      (before.layer turn.rank).filter (meanSlot ranks links before.slots turn · = mean)

section Turns

variable (ranks : List Nat) (links : List Link)

theorem arrange_eq_arrangedAfter : arrange ranks links = arrangedAfter ranks links (turns ranks) := by
  simp [arrange, arrangedAfter, turns, runSweep, List.foldl_map]

theorem arrangedAfter_concat (taken : List Turn) (turn : Turn) :
    arrangedAfter ranks links (taken ++ [turn]) =
      sortLayer ranks links turn.sweep (arrangedAfter ranks links taken) turn.rank := by
  rw [arrangedAfter, List.foldl_append]
  rfl

theorem arranged_after (taken : List Turn) : Arranged ranks (arrangedAfter ranks links taken) := by
  rw [arrangedAfter]
  exact List.foldlRecOn (motive := Arranged ranks) _ _ (arranged_initial ranks)
    fun held arranged turn _ => arranged.sortLayer links turn.sweep turn.rank

theorem resorted_sortLayer (held : Arrangement) (turn : Turn) :
    Resorted ranks links turn held (sortLayer ranks links turn.sweep held turn.rank) := by
  have sorted : (sortLayer ranks links turn.sweep held turn.rank).layer turn.rank =
      sortedBy (meanSlot ranks links held.slots turn) (held.layer turn.rank) := by
    rw [layer_sortLayer_self, sortedBy]
    simp only [atMost_barycenter]
  refine ⟨fun rank apart => layer_sortLayer_of_ne apart, ?_, ?_⟩
  · rw [sorted]
    exact pairwise_sortedBy _ _
  · rw [sorted]
    exact filter_sortedBy _ _

end Turns

/-- Whatever turns were taken, each layer is a permutation of the nodes of its rank, and the slot of
each node is its index in its layer. Each turn sorts one layer by the mean slots of the neighbours on
the side its sweep comes from, and nodes whose means agree keep their order. -/
theorem sweeps_only_permute (ranks : List Nat) (links : List Link) :
    arrange ranks links = arrangedAfter ranks links (turns ranks) ∧
    ∀ taken : List Turn,
      Arranged ranks (arrangedAfter ranks links taken) ∧
      ∀ turn, Resorted ranks links turn (arrangedAfter ranks links taken)
        (arrangedAfter ranks links (taken ++ [turn])) := by
  refine ⟨arrange_eq_arrangedAfter ranks links, fun taken => ⟨arranged_after ranks links taken, ?_⟩⟩
  intro turn
  rw [arrangedAfter_concat]
  exact resorted_sortLayer ranks links _ turn

example : (arrange [0, 0, 1, 1] [⟨0, 3⟩, ⟨1, 2⟩]).layers = [[0, 1], [3, 2]] := by
  cbv

end Chartbook.Layout
