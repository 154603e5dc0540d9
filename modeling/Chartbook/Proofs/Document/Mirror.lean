import Chartbook.Proofs.Document.Index
import Chartbook.Proofs.Document.Shelf
import Mathlib.Data.List.Nodup

/-!
The index as a mirror of the storage: one summary for every document, in an order that leaves nothing
open. Main statements: the shelf lists such an index, and no other is one.
-/

namespace Chartbook

/-- The order of an index in which no two summaries have the same id. -/
def DocumentSummary.Precedes (left right : DocumentSummary) : Prop :=
  right.updatedAt < left.updatedAt ∨ left.updatedAt = right.updatedAt ∧ left.id < right.id

theorem DocumentSummary.Precedes.asymm {left right : DocumentSummary}
    (precedes : left.Precedes right) : ¬right.Precedes left := by
  rintro (later | ⟨same, less⟩)
  · rcases precedes with earlier | ⟨same, _⟩
    · exact String.lt_asymm later earlier
    · exact String.lt_irrefl _ (same ▸ later)
  · rcases precedes with earlier | ⟨_, more⟩
    · exact String.lt_irrefl _ (same ▸ earlier)
    · exact String.lt_asymm less more

theorem DocumentSummary.precedes_of_comesBefore {left right : DocumentSummary}
    (comes : left.comesBefore right) (differ : left.id ≠ right.id) : left.Precedes right := by
  refine (comesBefore_iff.mp comes).imp_right fun ⟨same, least⟩ => ⟨same, ?_⟩
  exact String.not_le.mp fun most => differ (String.le_antisymm least most)

namespace Shelf

/-- The index has one summary for every document that is stored. -/
structure Mirrors (shelf : Shelf) (index : List DocumentSummary) : Prop where
  distinct : (index.map (·.id)).Nodup
  mem_iff : ∀ summary, summary ∈ index ↔
    ∃ document, shelf.find? document.id = some document ∧ document.summary = summary
  ordered : index.Pairwise DocumentSummary.Precedes

theorem Mirrors.unique {shelf other : Shelf} {index otherIndex : List DocumentSummary}
    (mirrors : shelf.Mirrors index) (otherMirrors : other.Mirrors otherIndex)
    (same : ∀ id, shelf.find? id = other.find? id) : index = otherIndex := by
  have members (summary : DocumentSummary) : summary ∈ index ↔ summary ∈ otherIndex := by
    rw [mirrors.mem_iff, otherMirrors.mem_iff]
    simp only [same]
  have perm : index.Perm otherIndex :=
    (List.perm_ext_iff_of_nodup (mirrors.distinct.of_map _) (otherMirrors.distinct.of_map _)).mpr
      members
  exact perm.eq_of_pairwise (fun left right _ _ first second => absurd second first.asymm)
    mirrors.ordered otherMirrors.ordered

/-- Every document stands under its own id, and no id has two. -/
structure Orderly (shelf : Shelf) : Prop where
  keyed : shelf.Keyed
  distinct : (shelf.entries.map (·.1)).Nodup

variable {shelf : Shelf}

theorem Orderly.remove (orderly : shelf.Orderly) (id : String) : (shelf.remove id).Orderly where
  keyed := orderly.keyed.remove id
  distinct := orderly.distinct.sublist (List.filter_sublist.map _)

theorem Orderly.insert (orderly : shelf.Orderly) (document : Document) :
    (shelf.insert document.id document).Orderly where
  keyed := orderly.keyed.insert document
  distinct := by
    rw [Shelf.insert, List.map_append, List.nodup_append]
    refine ⟨(orderly.remove document.id).distinct, List.nodup_singleton _, ?_⟩
    simp [Shelf.remove]

theorem Orderly.written (orderly : shelf.Orderly) (writes : List Write) :
    (shelf.written writes).Orderly := by
  rw [Shelf.written]
  induction writes generalizing shelf with
  | nil => exact orderly
  | cons write rest ih =>
      refine ih ?_
      cases write with
      | saved document => exact orderly.insert document
      | removed id => exact orderly.remove id

theorem orderly_ofDocuments (documents : List Document) : (ofDocuments documents).Orderly := by
  rw [ofDocuments_eq_written]
  exact Orderly.written { keyed := keyed_empty, distinct := List.nodup_nil } _

theorem Orderly.mem_entries_iff (orderly : shelf.Orderly) {id : String} {document : Document} :
    (id, document) ∈ shelf.entries ↔ shelf.find? id = some document := by
  constructor
  · intro member
    cases first : shelf.entries.find? (·.1 == id) with
    | none => simpa using List.find?_eq_none.mp first _ member
    | some entry =>
        have named : entry.1 = id := by simpa using List.find?_some first
        have one : entry = (id, document) :=
          List.inj_on_of_nodup_map orderly.distinct (List.mem_of_find?_eq_some first) member named
        rw [find?, first, one]
        rfl
  · intro found
    obtain ⟨entry, first, rfl⟩ := Option.map_eq_some_iff.mp found
    have named : entry.1 = id := by simpa using List.find?_some first
    rw [← named]
    exact List.mem_of_find?_eq_some first

theorem Orderly.find?_of_perm {other : Shelf} (orderly : shelf.Orderly) (otherOrderly : other.Orderly)
    (perm : shelf.entries.Perm other.entries) (id : String) : shelf.find? id = other.find? id := by
  ext document
  rw [← orderly.mem_entries_iff, ← otherOrderly.mem_entries_iff, perm.mem_iff]

theorem Orderly.mirrors (orderly : shelf.Orderly) : shelf.Mirrors shelf.index := by
  have perm : shelf.index.Perm (shelf.entries.map (·.2.summary)) :=
    DocumentSummary.newestFirst_perm _
  have named : (shelf.entries.map (·.2.summary)).map (·.id) = shelf.entries.map (·.1) := by
    rw [List.map_map]
    exact List.map_congr_left fun entry member => (orderly.keyed entry member).symm
  have distinct : (shelf.index.map (·.id)).Nodup := by
    rw [(perm.map _).nodup_iff, named]
    exact orderly.distinct
  refine { distinct, mem_iff := fun summary => ?_, ordered := ?_ }
  · rw [perm.mem_iff, List.mem_map]
    constructor
    · rintro ⟨⟨id, document⟩, member, rfl⟩
      obtain rfl : id = document.id := orderly.keyed _ member
      exact ⟨document, orderly.mem_entries_iff.mp member, rfl⟩
    · rintro ⟨document, found, rfl⟩
      exact ⟨(document.id, document), orderly.mem_entries_iff.mpr found, rfl⟩
  · refine ((DocumentSummary.ordered_newestFirst _).and (List.pairwise_map.mp distinct)).imp ?_
    exact fun ⟨comes, differ⟩ => DocumentSummary.precedes_of_comesBefore comes differ

end Shelf

end Chartbook
