import Chartbook.Layout.Arrangement
import Mathlib.Data.List.GetD
import Mathlib.Data.List.Nodup
import Mathlib.Data.List.Perm.Basic
import Mathlib.Order.Bounds.Defs

/-!
The sweeps move nodes only within their ranks. Main statement: in an arrangement every node stands in
exactly one layer, that of its rank.
-/

namespace Chartbook.Layout

variable {ranks : List Nat}

theorem mem_layerOf {rank node : Nat} :
    node ∈ layerOf ranks rank ↔ node < ranks.length ∧ rankOf ranks node = rank := by
  simp [layerOf]

theorem isGreatest_foldl_max {numbers : List Nat} (nonempty : numbers ≠ []) :
    IsGreatest {number | number ∈ numbers} (numbers.foldl max 0) := by
  cases numbers with
  | nil => exact absurd rfl nonempty
  | cons first rest =>
      have greatest : (first :: rest).max? = some ((first :: rest).foldl max 0) := by
        rw [List.max?_cons', List.foldl_cons, Nat.zero_max]
      exact List.max?_eq_some_iff.mp greatest

theorem le_foldl_max {numbers : List Nat} {number : Nat} (member : number ∈ numbers) :
    number ≤ numbers.foldl max 0 :=
  (isGreatest_foldl_max (List.ne_nil_of_mem member)).2 member

theorem rankOf_lt_depth {node : Nat} (known : node < ranks.length) :
    rankOf ranks node < depth ranks := by
  have found : rankOf ranks node = ranks[node] := by
    rw [rankOf, List.getD_eq_getElem _ _ known]
  rw [found, depth]
  exact Nat.lt_succ_of_le (le_foldl_max (List.getElem_mem known))

/-- Layer by layer, the nodes are those of the rank. -/
structure Layered (ranks : List Nat) (layers : List (List Nat)) : Prop where
  length : layers.length = depth ranks
  holds : ∀ rank (bounded : rank < layers.length), layers[rank].Perm (layerOf ranks rank)

theorem layered_initial (ranks : List Nat) : Layered ranks (initialArrangement ranks).layers where
  length := by simp [initialArrangement]
  holds := by simp [initialArrangement]

theorem Layered.sortLayer {arrangement : Arrangement} (layered : Layered ranks arrangement.layers)
    (links : List Link) (sweep : Sweep) (rank : Nat) :
    Layered ranks (Layout.sortLayer ranks links sweep arrangement rank).layers where
  length := by
    rw [Layout.sortLayer, List.length_set]
    exact layered.length
  holds := by
    intro other bounded
    simp only [Layout.sortLayer, List.length_set] at bounded ⊢
    rw [List.getElem_set]
    split
    · rename_i same
      subst same
      rw [List.getD_eq_getElem _ _ bounded]
      exact (List.mergeSort_perm _ _).trans (layered.holds rank bounded)
    · exact layered.holds other bounded

theorem layered_arrange (ranks : List Nat) (links : List Link) :
    Layered ranks (arrange ranks links).layers := by
  rw [arrange]
  refine List.foldlRecOn (motive := fun held : Arrangement => Layered ranks held.layers) _ _
    (layered_initial ranks) fun arrangement layered sweep _ => ?_
  exact List.foldlRecOn (motive := fun held : Arrangement => Layered ranks held.layers) _ _
    layered fun arrangement layered rank _ => layered.sortLayer links sweep rank

namespace Layered

variable {layers : List (List Nat)} (layered : Layered ranks layers)

include layered

theorem mem_layer_iff {rank : Nat} (bounded : rank < layers.length) {node : Nat} :
    node ∈ layers[rank] ↔ node < ranks.length ∧ rankOf ranks node = rank := by
  rw [(layered.holds rank bounded).mem_iff, mem_layerOf]

theorem mem_flatten_iff {node : Nat} : node ∈ layers.flatten ↔ node < ranks.length := by
  rw [List.mem_flatten]
  constructor
  · rintro ⟨layer, member, inside⟩
    obtain ⟨rank, bounded, rfl⟩ := List.getElem_of_mem member
    exact ((layered.mem_layer_iff bounded).mp inside).1
  · intro known
    have bounded : rankOf ranks node < layers.length := by
      rw [layered.length]
      exact rankOf_lt_depth known
    exact ⟨_, List.getElem_mem bounded, (layered.mem_layer_iff bounded).mpr ⟨known, rfl⟩⟩

theorem nodup_flatten : layers.flatten.Nodup := by
  rw [List.nodup_flatten]
  constructor
  · intro layer member
    obtain ⟨rank, bounded, rfl⟩ := List.getElem_of_mem member
    rw [(layered.holds rank bounded).nodup_iff]
    exact List.nodup_range.filter _
  · rw [List.pairwise_iff_getElem]
    intro upper lower upperBound lowerBound above node first second
    have one := ((layered.mem_layer_iff upperBound).mp first).2
    have other := ((layered.mem_layer_iff lowerBound).mp second).2
    omega

theorem perm_range : layers.flatten.Perm (List.range ranks.length) := by
  rw [List.perm_ext_iff_of_nodup layered.nodup_flatten List.nodup_range]
  intro node
  rw [layered.mem_flatten_iff, List.mem_range]

end Layered

end Chartbook.Layout
