import Mathlib.Order.Bounds.Defs

/-!
Walks of a given number of steps, and the longest walk that ends in a place.
-/

namespace Chartbook.Layout

variable {Place : Type}

inductive Walk (step : Place → Place → Prop) : Nat → Place → Place → Prop
  | start {place} : Walk step 0 place place
  | extend {length first middle last} : Walk step length first middle → step middle last →
      Walk step (length + 1) first last

def Reaches (step : Place → Place → Prop) (first last : Place) : Prop :=
  ∃ length, Walk step length first last

/-- No walk leads back to where it started. -/
def Acyclic (step : Place → Place → Prop) : Prop :=
  ∀ length place, ¬ Walk step (length + 1) place place

variable {step : Place → Place → Prop} {first middle last : Place} {length : Nat}

namespace Walk

theorem map {Other : Type} {follow : Other → Other → Prop} (image : Place → Other)
    (kept : ∀ source target, step source target → follow (image source) (image target))
    (walk : Walk step length first last) : Walk follow length (image first) (image last) := by
  induction walk with
  | start => exact .start
  | extend _ joined ih => exact .extend ih (kept _ _ joined)

theorem mono {follow : Place → Place → Prop} (kept : ∀ source target, step source target →
    follow source target) (walk : Walk step length first last) : Walk follow length first last :=
  walk.map id kept

theorem climbs {height : Place → Nat}
    (rises : ∀ source target, step source target → height source < height target)
    (walk : Walk step length first last) : height first + length ≤ height last := by
  induction walk with
  | start => exact Nat.le_refl _
  | extend _ joined ih =>
      have higher := rises _ _ joined
      omega

end Walk

namespace Reaches

theorem here : Reaches step first first :=
  ⟨0, .start⟩

theorem extend (reached : Reaches step first middle) (joined : step middle last) :
    Reaches step first last := by
  obtain ⟨length, walk⟩ := reached
  exact ⟨length + 1, .extend walk joined⟩

theorem mono {follow : Place → Place → Prop} (kept : ∀ source target, step source target →
    follow source target) (reached : Reaches step first last) : Reaches follow first last := by
  obtain ⟨length, walk⟩ := reached
  exact ⟨length, walk.mono kept⟩

end Reaches

theorem acyclic_of_rises (height : Place → Nat)
    (rises : ∀ source target, step source target → height source < height target) :
    Acyclic step := by
  intro length place walk
  have higher := walk.climbs rises
  omega

theorem Acyclic.not_reaches (acyclic : Acyclic step) (joined : step first last) :
    ¬ Reaches step last first := by
  rintro ⟨length, walk⟩
  exact acyclic length last (.extend walk joined)

section Ranks

variable {rank : Place → Nat}

theorem exists_walk_of_rank
    (reached : ∀ target, rank target ≠ 0 → ∃ source, step source target ∧
      rank source + 1 = rank target) (place : Place) :
    ∃ first, Walk step (rank place) first place := by
  cases known : rank place with
  | zero => exact ⟨place, .start⟩
  | succ lower =>
      obtain ⟨source, joined, below⟩ := reached place (by omega)
      obtain ⟨first, walk⟩ := exists_walk_of_rank reached source
      rw [show rank source = lower by omega] at walk
      exact ⟨first, .extend walk joined⟩
  termination_by rank place

theorem isGreatest_rank
    (rises : ∀ source target, step source target → rank source < rank target)
    (reached : ∀ target, rank target ≠ 0 → ∃ source, step source target ∧
      rank source + 1 = rank target) (place : Place) :
    IsGreatest {length | ∃ first, Walk step length first place} (rank place) := by
  refine ⟨exists_walk_of_rank reached place, ?_⟩
  rintro length ⟨first, walk⟩
  have higher := walk.climbs rises
  omega

theorem exists_rank_below
    (reached : ∀ target, rank target ≠ 0 → ∃ source, step source target ∧
      rank source + 1 = rank target) (place : Place) {lower : Nat} (below : lower < rank place) :
    ∃ source target, step source target ∧ rank source = lower := by
  obtain ⟨source, joined, next⟩ := reached place (by omega)
  by_cases same : rank source = lower
  · exact ⟨source, place, joined, same⟩
  · exact exists_rank_below reached source (by omega)
  termination_by rank place

end Ranks

end Chartbook.Layout
