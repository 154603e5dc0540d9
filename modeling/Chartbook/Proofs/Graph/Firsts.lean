import Mathlib.Data.List.Induction
import Mathlib.Data.List.Nodup

/-!
Lists in which the first entry with a key stays and later ones with the same key are left out. More
entries at the end change nothing of what is there, and entries in between take the place of later ones.
-/

namespace Chartbook

variable {Entry Key : Type} [BEq Key] [LawfulBEq Key] (key : Entry → Key)

def keepFirst (kept : List Entry) (entry : Entry) : List Entry :=
  if kept.any (key · == key entry) then kept else kept ++ [entry]

def firsts (all : List Entry) : List Entry :=
  all.foldl (keepFirst key) []

theorem mem_foldl_keepFirst (kept all : List Entry) (entry : Entry) :
    entry ∈ all.foldl (keepFirst key) kept ↔ entry ∈ kept ∨
      (∀ other ∈ kept, key other ≠ key entry) ∧
        all.find? (key · == key entry) = some entry := by
  induction all generalizing kept with
  | nil => simp
  | cons first rest ih =>
      rw [List.foldl_cons, ih, keepFirst]
      by_cases taken : kept.any (key · == key first)
      · rw [if_pos taken]
        refine or_congr_right (and_congr_right fun fresh => ?_)
        obtain ⟨other, member, same⟩ := List.any_eq_true.mp taken
        have apart : key first ≠ key entry := by
          rw [← eq_of_beq same]
          exact fresh other member
        rw [List.find?_cons_of_neg (by simpa using apart)]
      · rw [if_neg taken]
        have new : ∀ other ∈ kept, key other ≠ key first := by simpa using taken
        by_cases same : key first = key entry
        · rw [List.find?_cons_of_pos (by simpa using same), Option.some.injEq, List.mem_append,
            List.mem_singleton]
          constructor
          · rintro ((member | rfl) | ⟨fresh, _⟩)
            · exact .inl member
            · exact .inr ⟨new, rfl⟩
            · exact absurd same (fresh first (by simp))
          · rintro (member | ⟨_, rfl⟩)
            · exact .inl (.inl member)
            · exact .inl (.inr rfl)
        · have other : entry ≠ first := by
            rintro rfl
            exact same rfl
          rw [List.find?_cons_of_neg (by simpa using same)]
          simp [other, or_imp, forall_and, same]

theorem mem_firsts_iff (all : List Entry) (entry : Entry) :
    entry ∈ firsts key all ↔ all.find? (key · == key entry) = some entry := by
  simp [firsts, mem_foldl_keepFirst]

theorem mem_of_mem_firsts {all : List Entry} {entry : Entry} (member : entry ∈ firsts key all) :
    entry ∈ all :=
  List.mem_of_find?_eq_some ((mem_firsts_iff key all entry).mp member)

theorem exists_first {all : List Entry} {entry : Entry} (member : entry ∈ all) :
    ∃ first ∈ firsts key all, key first = key entry := by
  have found : (all.find? (key · == key entry)).isSome :=
    List.find?_isSome.mpr ⟨entry, member, beq_self_eq_true _⟩
  obtain ⟨first, here⟩ := Option.isSome_iff_exists.mp found
  have same : key first = key entry := by simpa using List.find?_some here
  refine ⟨first, (mem_firsts_iff key all first).mpr ?_, same⟩
  rw [same]
  exact here

theorem nodup_foldl_keepFirst {kept : List Entry} (all : List Entry)
    (distinct : (kept.map key).Nodup) : ((all.foldl (keepFirst key) kept).map key).Nodup := by
  induction all generalizing kept with
  | nil => exact distinct
  | cons first rest ih =>
      apply ih
      rw [keepFirst]
      split
      · exact distinct
      · rename_i new
        have absent : key first ∉ kept.map key := by simpa using new
        rw [List.map_append, List.nodup_append]
        refine ⟨distinct, by simp, ?_⟩
        intro one member two last
        rw [List.map_singleton, List.mem_singleton] at last
        rintro rfl
        exact absent (last ▸ member)

theorem nodup_firsts (all : List Entry) : ((firsts key all).map key).Nodup :=
  nodup_foldl_keepFirst key all List.nodup_nil

theorem foldl_keepFirst_of_nodup {kept all : List Entry}
    (distinct : ((kept ++ all).map key).Nodup) : all.foldl (keepFirst key) kept = kept ++ all := by
  induction all generalizing kept with
  | nil => simp
  | cons first rest ih =>
      have new : ¬ kept.any (key · == key first) := by
        intro taken
        obtain ⟨other, member, same⟩ := List.any_eq_true.mp taken
        rw [List.map_append, List.nodup_append] at distinct
        exact distinct.2.2 _ (List.mem_map_of_mem member) _
          (List.mem_map_of_mem List.mem_cons_self) (eq_of_beq same)
      rw [List.append_cons] at distinct ⊢
      rw [List.foldl_cons, keepFirst, if_neg new, ih distinct]

theorem firsts_of_nodup {all : List Entry} (distinct : (all.map key).Nodup) :
    firsts key all = all :=
  foldl_keepFirst_of_nodup key distinct

theorem find?_iff_of_nodup {all : List Entry} (distinct : (all.map key).Nodup) (entry : Entry) :
    all.find? (key · == key entry) = some entry ↔ entry ∈ all := by
  rw [← mem_firsts_iff, firsts_of_nodup key distinct]

def untaken (taken all : List Entry) : List Entry :=
  all.filter fun entry => !taken.any (key · == key entry)

omit [LawfulBEq Key] in
theorem untaken_append (taken more all : List Entry) :
    untaken key (taken ++ more) all = untaken key more (untaken key taken all) := by
  rw [untaken, untaken, untaken, List.filter_filter]
  refine List.filter_congr fun entry _ => ?_
  rw [List.any_append, Bool.not_or, Bool.and_comm]

omit [LawfulBEq Key] in
theorem untaken_concat (taken all : List Entry) (last : Entry) :
    untaken key taken (all ++ [last]) =
      untaken key taken all ++ if taken.any (key · == key last) then [] else [last] := by
  rw [untaken, List.filter_append, ← untaken]
  cases known : taken.any (key · == key last) <;> simp [known]

theorem any_untaken {taken : List Entry} (all : List Entry) {entry : Entry}
    (free : taken.any (key · == key entry) = false) :
    (untaken key taken all).any (key · == key entry) = all.any (key · == key entry) := by
  rw [Bool.eq_iff_iff, List.any_eq_true, List.any_eq_true]
  refine exists_congr fun other => and_congr_left fun same => ?_
  rw [untaken, List.mem_filter, eq_of_beq same, free]
  simp

theorem foldl_keepFirst_append (kept all : List Entry) :
    all.foldl (keepFirst key) kept = kept ++ untaken key kept (firsts key all) := by
  induction all using List.reverseRecOn with
  | nil => simp [firsts, untaken]
  | append_singleton all last ih =>
      have step : firsts key (all ++ [last]) = keepFirst key (firsts key all) last := by
        rw [firsts, List.foldl_append, ← firsts]
        rfl
      rw [List.foldl_append, ih, step, List.foldl_cons, List.foldl_nil, keepFirst, keepFirst,
        List.any_append]
      cases known : kept.any (key · == key last) with
      | true =>
          rw [Bool.true_or, if_pos rfl]
          split
          · rfl
          · rw [untaken_concat, known, if_pos rfl, List.append_nil]
      | false =>
          rw [Bool.false_or, any_untaken key _ known]
          split
          · rfl
          · rw [untaken_concat, known, List.append_assoc]
            rfl

theorem exists_foldl_keepFirst (kept all : List Entry) :
    ∃ more, (∀ entry ∈ more, entry ∈ all) ∧ all.foldl (keepFirst key) kept = kept ++ more := by
  refine ⟨_, ?_, foldl_keepFirst_append key kept all⟩
  intro entry member
  exact mem_of_mem_firsts key (List.mem_filter.mp member).1

theorem firsts_append (all more : List Entry) :
    firsts key (all ++ more) = firsts key all ++ untaken key (firsts key all) (firsts key more) := by
  rw [firsts, List.foldl_append, foldl_keepFirst_append, ← firsts]

/-- What becomes of a list when more entries are read behind the first ones: `read` stays in front,
new entries follow it, and those that were read later stay if their keys are not taken now. -/
def InsertedBehind (read old new : List Entry) : Prop :=
  ∃ added behind, old = read ++ behind ∧ new = read ++ added ++ untaken key added behind

theorem insertedBehind_firsts (read more later : List Entry) :
    InsertedBehind key (firsts key read) (firsts key (read ++ later))
      (firsts key (read ++ more ++ later)) := by
  refine ⟨untaken key (firsts key read) (firsts key more),
    untaken key (firsts key read) (firsts key later), firsts_append key read later, ?_⟩
  rw [firsts_append, firsts_append, untaken_append]

def sameKey (one two : Entry) : Bool :=
  key one == key two

theorem foldl_keepFirst_eq (kept all : List Entry) :
    all.foldl (keepFirst key) kept = kept ++ (untaken key kept all).eraseDupsBy (sameKey key) := by
  induction all generalizing kept with
  | nil => simp [untaken]
  | cons first rest ih =>
      rw [List.foldl_cons, ih, keepFirst]
      by_cases taken : kept.any (key · == key first)
      · rw [if_pos taken, untaken, untaken, List.filter_cons_of_neg (by simp [taken])]
      · have later : (untaken key kept rest).filter
            (fun entry => decide (sameKey key entry first = false)) =
            untaken key (kept ++ [first]) rest := by
          rw [untaken_append, untaken]
          refine List.filter_congr fun entry _ => ?_
          rw [sameKey, BEq.comm]
          cases same : key first == key entry <;> simp [same]
        rw [if_neg taken, ← later, untaken, untaken, List.filter_cons_of_pos (by simpa using taken),
          List.eraseDupsBy_cons, List.append_assoc, List.singleton_append]

theorem firsts_eq_eraseDupsBy (all : List Entry) :
    firsts key all = all.eraseDupsBy (sameKey key) := by
  have every : untaken key [] all = all := List.filter_eq_self.mpr fun _ _ => rfl
  rw [firsts, foldl_keepFirst_eq, every, List.nil_append]

end Chartbook
