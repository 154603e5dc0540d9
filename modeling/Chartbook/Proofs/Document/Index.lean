import Chartbook.Document.Basic
import Chartbook.Proofs.Document.Stamp

/-!
The order of the index: any two summaries stand in it one way or the other, and sorting brings them
into it. Main statement: the index is newest first exactly if no stamp in it overtakes another.
-/

namespace Chartbook.DocumentSummary

theorem comesBefore_iff {left right : DocumentSummary} :
    left.comesBefore right ↔ right.updatedAt < left.updatedAt ∨
      left.updatedAt = right.updatedAt ∧ left.id ≤ right.id := by
  rw [comesBefore]
  split
  · rename_i same
    simp [same]
  · rename_i differ
    simp [differ]

theorem comesBefore_trans (left middle right : DocumentSummary) (first : left.comesBefore middle)
    (second : middle.comesBefore right) : left.comesBefore right := by
  rw [comesBefore_iff] at first second ⊢
  rcases first with later | ⟨same, least⟩
  · rcases second with further | ⟨again, _⟩
    · exact .inl (String.lt_trans further later)
    · exact .inl (again ▸ later)
  · rw [same]
    exact second.imp_right fun ⟨again, less⟩ => ⟨again, String.le_trans least less⟩

theorem comesBefore_total (left right : DocumentSummary) :
    left.comesBefore right || right.comesBefore left := by
  rw [Bool.or_eq_true, comesBefore_iff, comesBefore_iff]
  by_cases later : right.updatedAt < left.updatedAt
  · exact .inl (.inl later)
  by_cases earlier : left.updatedAt < right.updatedAt
  · exact .inr (.inl earlier)
  have same : left.updatedAt = right.updatedAt :=
    String.le_antisymm (String.not_lt.mp later) (String.not_lt.mp earlier)
  exact (String.le_total left.id right.id).imp (fun least => .inr ⟨same, least⟩)
    fun least => .inr ⟨same.symm, least⟩

theorem newestFirst_perm (index : List DocumentSummary) : (newestFirst index).Perm index :=
  List.mergeSort_perm index comesBefore

theorem ordered_newestFirst (index : List DocumentSummary) :
    (newestFirst index).Pairwise fun left right => left.comesBefore right :=
  List.pairwise_mergeSort comesBefore_trans comesBefore_total index

theorem updatedAt_le_of_comesBefore {left right : DocumentSummary}
    (comes : left.comesBefore right) : right.updatedAt ≤ left.updatedAt := by
  rcases comesBefore_iff.mp comes with later | ⟨same, _⟩
  · exact String.not_lt.mp (String.lt_asymm later)
  · exact same ▸ String.le_refl _

/-- An index that is sorted by the texts of its stamps has the newest first, unless one of the stamps
overtakes another. Nothing is lost or added. -/
theorem newest_first_iff (index : List DocumentSummary) (stampOf : DocumentSummary → Stamp)
    (stamped : ∀ summary ∈ index, summary.updatedAt = (stampOf summary).text) :
    (newestFirst index).Perm index ∧
    ((newestFirst index).Pairwise
        (fun former latter => ¬(stampOf former).instant < (stampOf latter).instant) ↔
      ∀ earlier ∈ index, ∀ later ∈ index, ¬(stampOf earlier).Overtakes (stampOf later)) := by
  have perm := newestFirst_perm index
  have sorted : (newestFirst index).Pairwise fun former latter =>
      ¬(stampOf former).text < (stampOf latter).text := by
    refine (ordered_newestFirst index).imp_of_mem fun {former latter} first second comes => ?_
    rw [← stamped former (perm.mem_iff.mp first), ← stamped latter (perm.mem_iff.mp second)]
    exact String.not_lt.mpr (updatedAt_le_of_comesBefore comes)
  refine ⟨perm, fun newest earlier member later memberAlso overtakes => ?_, fun even => ?_⟩
  · have apart : (newestFirst index).Pairwise fun former latter =>
        ¬(stampOf former).Overtakes (stampOf latter) ∧
          ¬(stampOf latter).Overtakes (stampOf former) :=
      (newest.and sorted).imp fun ⟨newer, greater⟩ =>
        ⟨fun overtaken => newer ((Stamp.overtakes_iff _ _).mp overtaken).1,
          fun overtaken => greater ((Stamp.overtakes_iff _ _).mp overtaken).2⟩
    have symmetric : Std.Symm fun former latter =>
        ¬(stampOf former).Overtakes (stampOf latter) ∧
          ¬(stampOf latter).Overtakes (stampOf former) :=
      ⟨fun _ _ => And.symm⟩
    have differ : earlier ≠ later := by
      rintro rfl
      exact lt_irrefl _ ((Stamp.overtakes_iff _ _).mp overtakes).1
    exact (apart.forall (perm.mem_iff.mpr member) (perm.mem_iff.mpr memberAlso) differ).1 overtakes
  · refine sorted.imp_of_mem fun {former latter} first second greater earlier => ?_
    rcases Stamp.text_lt_or_overtakes _ _ earlier with less | overtakes
    · exact greater less
    · exact even former (perm.mem_iff.mp first) latter (perm.mem_iff.mp second) overtakes

def newYear (fraction : List (Fin 10)) : Stamp where
  year := 2019
  month := 1
  day := 1
  hour := 0
  minute := 0
  second := 0
  fraction := fraction
  mark := 'T'
  year_lt := by decide
  month_mem := by decide
  day_mem := by decide
  hour_lt := by decide
  minute_lt := by decide
  second_mem := by decide
  mark_mem := by decide

theorem hundredths_newest_first :
    let quarter : DocumentSummary :=
      { id := "a", title := "", tags := [], updatedAt := "2019-01-01T00:00:00.25Z" }
    let half : DocumentSummary :=
      { id := "b", title := "", tags := [], updatedAt := "2019-01-01T00:00:00.50Z" }
    let stampOf (summary : DocumentSummary) : Stamp :=
      if summary = half then newYear [5, 0] else newYear [2, 5]
    (∀ summary ∈ [quarter, half], summary.updatedAt = (stampOf summary).text) ∧
    (newestFirst [quarter, half]).Pairwise fun former latter =>
      ¬(stampOf former).instant < (stampOf latter).instant := by
  intro quarter half stampOf
  have stamped : ∀ summary ∈ [quarter, half], summary.updatedAt = (stampOf summary).text := by
    decide +kernel
  have hundredths (summary : DocumentSummary) :
      (stampOf summary).mark = 'T' ∧ (stampOf summary).fraction.length = 2 := by
    by_cases last : summary = half <;> simp [stampOf, last, newYear]
  refine ⟨stamped, (newest_first_iff _ stampOf stamped).2.mpr fun earlier _ later _ => ?_⟩
  exact Stamp.not_overtakes_of_length _ _
    ((hundredths earlier).1.trans (hundredths later).1.symm)
    ((hundredths earlier).2.trans (hundredths later).2.symm)

/-- Half a second later a document was saved, and yet it comes last. -/
theorem whole_second_comes_first :
    let whole : DocumentSummary :=
      { id := "a", title := "", tags := [], updatedAt := "2019-01-01T00:00:00Z" }
    let half : DocumentSummary :=
      { id := "b", title := "", tags := [], updatedAt := "2019-01-01T00:00:00.5Z" }
    newestFirst [whole, half] = [whole, half] ∧
    whole.updatedAt = (newYear []).text ∧ half.updatedAt = (newYear [5]).text ∧
    (newYear []).instant < (newYear [5]).instant := by
  intro whole half
  have cut : Stamp.CutShort [] [5] := by simp [Stamp.CutShort]
  have overtakes : (newYear []).Overtakes (newYear [5]) :=
    ⟨Stamp.dayNumber_congr _ _ rfl rfl rfl, .inl ⟨rfl, rfl, cut⟩⟩
  exact ⟨List.mergeSort_of_pairwise (by decide +kernel), by decide +kernel, by decide +kernel,
    ((Stamp.overtakes_iff _ _).mp overtakes).1⟩

end Chartbook.DocumentSummary
