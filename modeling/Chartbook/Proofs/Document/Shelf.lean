import Chartbook.Document.Shelf

/-!
What storage in memory holds after any writes: a write to one id leaves the others alone, and every
document stands under its own id.
-/

namespace Chartbook.Shelf

inductive Write where
  | saved (document : Document)
  | removed (id : String)
  deriving DecidableEq

def Write.id : Write → String
  | saved document => document.id
  | removed id => id

def write (shelf : Shelf) : Write → Shelf
  | .saved document => shelf.insert document.id document
  | .removed id => shelf.remove id

def written (shelf : Shelf) (writes : List Write) : Shelf :=
  writes.foldl write shelf

variable (shelf : Shelf) {id other : String} {document : Document}

theorem find?_remove_of_ne (differ : other ≠ id) :
    (shelf.remove other).find? id = shelf.find? id := by
  have asked (entry : String × Document) :
      decide ((entry.1 != other) = true ∧ (entry.1 == id) = true) = (entry.1 == id) := by
    by_cases same : entry.1 = id
    · simp [same, differ.symm]
    · simp [same]
  rw [find?, find?, remove, List.find?_filter, funext asked]

theorem find?_insert_self : (shelf.insert id document).find? id = some document := by
  have removed : (shelf.remove id).entries.find? (·.1 == id) = none := by
    simp [remove]
  rw [find?, insert, List.find?_append, removed]
  simp

theorem find?_insert_of_ne (differ : other ≠ id) :
    (shelf.insert other document).find? id = shelf.find? id := by
  have last : [(other, document)].find? (·.1 == id) = none := by
    simp [differ]
  rw [← find?_remove_of_ne shelf differ, find?, insert, List.find?_append, last, Option.or_none]
  rfl

theorem find?_write_of_ne {write : Write} (differ : write.id ≠ id) :
    (shelf.write write).find? id = shelf.find? id := by
  cases write with
  | saved document => exact find?_insert_of_ne shelf differ
  | removed other => exact find?_remove_of_ne shelf differ

theorem find?_written_of_ne {writes : List Write} (differ : ∀ write ∈ writes, write.id ≠ id) :
    (shelf.written writes).find? id = shelf.find? id := by
  induction writes generalizing shelf with
  | nil => rfl
  | cons write rest ih =>
      rw [written, List.foldl_cons]
      have others : ∀ write ∈ rest, write.id ≠ id :=
        fun write member => differ write (List.mem_cons_of_mem _ member)
      exact (ih (shelf.write write) others).trans
        (find?_write_of_ne shelf (differ write List.mem_cons_self))

def Keyed (shelf : Shelf) : Prop :=
  ∀ entry ∈ shelf.entries, entry.1 = entry.2.id

variable {shelf}

theorem Keyed.id_eq (keyed : shelf.Keyed) (found : shelf.find? id = some document) :
    document.id = id := by
  obtain ⟨entry, first, rfl⟩ := Option.map_eq_some_iff.mp found
  have named : entry.1 = id := by
    simpa using List.find?_some first
  exact (keyed entry (List.mem_of_find?_eq_some first)).symm.trans named

theorem keyed_empty : empty.Keyed := by
  simp [Keyed, empty]

theorem Keyed.remove (keyed : shelf.Keyed) (id : String) : (shelf.remove id).Keyed :=
  fun entry member => keyed entry (List.mem_filter.mp member).1

theorem Keyed.insert (keyed : shelf.Keyed) (document : Document) :
    (shelf.insert document.id document).Keyed := by
  intro entry member
  rcases List.mem_append.mp member with old | new
  · exact keyed.remove document.id entry old
  · rw [List.mem_singleton.mp new]

theorem Keyed.written (keyed : shelf.Keyed) (writes : List Write) : (shelf.written writes).Keyed := by
  rw [Shelf.written]
  induction writes generalizing shelf with
  | nil => exact keyed
  | cons write rest ih =>
      refine ih ?_
      cases write with
      | saved document => exact keyed.insert document
      | removed id => exact keyed.remove id

theorem ofDocuments_eq_written (documents : List Document) :
    ofDocuments documents = empty.written (documents.map .saved) := by
  rw [Shelf.written, List.foldl_map]
  rfl

theorem keyed_ofDocuments (documents : List Document) : (ofDocuments documents).Keyed := by
  rw [ofDocuments_eq_written]
  exact keyed_empty.written _

end Chartbook.Shelf
