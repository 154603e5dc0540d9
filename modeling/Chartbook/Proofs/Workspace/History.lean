import Chartbook.Proofs.Graph.Firsts
import Chartbook.Workspace.History
import Mathlib.Data.List.DropRight

/-!
The history as a log that is cut off. Main statement: after any pushes and clearings a history holds
the last entries of all that were pushed since it was cleared, as many as it has room for.
-/

namespace Chartbook.History

variable (history : History)

/-- Takes off the oldest entry, again and again, until there is room for one more. -/
def evict (cap : Nat) : List VersionEntry → List VersionEntry
  | [] => []
  | oldest :: rest => if cap ≤ rest.length + 1 then evict cap rest else oldest :: rest

theorem lastOf_eq_rtake (count : Nat) (entries : List VersionEntry) :
    lastOf count entries = entries.rtake count := rfl

theorem evict_eq_rtake {cap : Nat} (room : 0 < cap) (entries : List VersionEntry) :
    evict cap entries = entries.rtake (cap - 1) := by
  induction entries with
  | nil => rw [evict, List.rtake_nil]
  | cons oldest rest ih =>
      rw [evict]
      split
      · rename_i full
        have more : (oldest :: rest).length - (cap - 1) = rest.length - (cap - 1) + 1 := by
          rw [List.length_cons]
          omega
        rw [ih, List.rtake, List.rtake, more, List.drop_succ_cons]
      · rename_i free
        have none : (oldest :: rest).length - (cap - 1) = 0 := by
          rw [List.length_cons]
          omega
        rw [List.rtake, none, List.drop_zero]

theorem push_eq_evict (entry : VersionEntry) :
    (history.push entry).entries = evict history.cap history.entries ++ [entry] := by
  rw [evict_eq_rtake history.cap_pos, push, lastOf_eq_rtake]

theorem entries_push (entry : VersionEntry) :
    (history.push entry).entries = lastOf history.cap (history.entries ++ [entry]) := by
  have room : history.cap = history.cap - 1 + 1 := by
    have positive := history.cap_pos
    omega
  rw [lastOf_eq_rtake]
  conv_rhs => rw [room, List.rtake_concat_succ]
  rfl

theorem mem_push (entry : VersionEntry) : entry ∈ (history.push entry).entries := by
  simp [push]

theorem mem_push_push (room : 2 ≤ history.cap) (first second : VersionEntry) :
    first ∈ ((history.push first).push second).entries := by
  let kept := lastOf (history.cap - 1) history.entries
  have shape : ((history.push first).push second).entries =
      lastOf (history.cap - 1) (kept ++ [first]) ++ [second] := rfl
  have later : (kept ++ [first]).length - (history.cap - 1) ≤ kept.length := by
    rw [List.length_append, List.length_singleton]
    omega
  rw [shape, lastOf, List.drop_append_of_le_length later]
  simp

theorem entries_push_of_cap_one (full : history.cap = 1) (entry : VersionEntry) :
    (history.push entry).entries = [entry] := by
  simp [push, lastOf, full]

theorem latest?_push (entry : VersionEntry) : (history.push entry).latest? = some entry := by
  simp [push, latest?]

theorem find?_isSome_iff (id : String) :
    (history.find? id).isSome ↔ ∃ entry ∈ history.entries, entry.id = id := by
  simp [find?, List.find?_isSome]

theorem find?_eq_some_iff (distinct : (history.entries.map (·.id)).Nodup) (id : String)
    (entry : VersionEntry) :
    history.find? id = some entry ↔ entry ∈ history.entries ∧ entry.id = id := by
  constructor
  · intro found
    exact ⟨List.mem_of_find?_eq_some found, by simpa using List.find?_some found⟩
  · rintro ⟨member, rfl⟩
    exact (find?_iff_of_nodup VersionEntry.id distinct entry).mpr member

inductive Operation where
  | push (id label timestamp text : String)
  | clear

namespace Operation

def pushed? : Operation → Option VersionEntry
  | push id label timestamp text => some (VersionEntry.take id label timestamp text)
  | clear => none

/-- All that was pushed since the last clearing, oldest first. -/
def log (operations : List Operation) : List VersionEntry :=
  (operations.rtakeWhile (·.pushed?.isSome)).filterMap pushed?

theorem log_concat_push (operations : List Operation) (id label timestamp text : String) :
    log (operations ++ [push id label timestamp text]) =
      log operations ++ [VersionEntry.take id label timestamp text] := by
  rw [log, List.rtakeWhile_concat_pos _ _ _ rfl, List.filterMap_append]
  rfl

theorem log_concat_clear (operations : List Operation) : log (operations ++ [clear]) = [] := by
  rw [log, List.rtakeWhile_concat_neg _ _ _ (by simp [pushed?])]
  rfl

end Operation

open Operation

def perform (history : History) : Operation → History
  | .push id label timestamp text => history.push (VersionEntry.take id label timestamp text)
  | .clear => history.clear

def after (history : History) (operations : List Operation) : History :=
  operations.foldl perform history

theorem rtake_rtake {Item : Type} (few many : Nat) (items : List Item) :
    (items.rtake many).rtake few = items.rtake (min few many) := by
  simp [List.rtake_eq_reverse_take_reverse, List.take_take]

structure Follows (history : History) (room : Nat) (log : List VersionEntry) : Prop where
  cap : history.cap = room
  entries : history.entries = log.rtake room

namespace Follows

variable {history} {room : Nat} {log : List VersionEntry}

theorem push (follows : history.Follows room log) (entry : VersionEntry) :
    (history.push entry).Follows room (log ++ [entry]) where
  cap := follows.cap
  entries := by
    have more : room = room - 1 + 1 := by
      have positive := history.cap_pos
      have same := follows.cap
      omega
    calc (history.push entry).entries
      _ = (log.rtake room).rtake (room - 1) ++ [entry] := by
          rw [← follows.entries, ← follows.cap]
          rfl
      _ = log.rtake (room - 1) ++ [entry] := by
          rw [rtake_rtake, Nat.min_eq_left (Nat.sub_le room 1)]
      _ = (log ++ [entry]).rtake room := by
          conv_rhs => rw [more, List.rtake_concat_succ]

theorem clear (follows : history.Follows room log) : history.clear.Follows room [] where
  cap := follows.cap
  entries := by rw [List.rtake_nil, History.clear]

end Follows

theorem follows_after (cap : Nat) (operations : List Operation) :
    ((withCap cap).after operations).Follows (max cap 1) (log operations) := by
  induction operations using List.reverseRecOn with
  | nil => exact ⟨rfl, (List.rtake_nil _).symm⟩
  | append_singleton earlier operation follows =>
      rw [after, List.foldl_concat]
      cases operation with
      | push id label timestamp text =>
          rw [log_concat_push]
          exact follows.push _
      | clear =>
          rw [log_concat_clear]
          exact follows.clear

theorem counted_of_mem_log {operations : List Operation} {entry : VersionEntry}
    (member : entry ∈ log operations) :
    entry.nodeCount = (Graph.ofText entry.text).nodes.length ∧
      entry.edgeCount = (Graph.ofText entry.text).edges.length := by
  obtain ⟨operation, _, pushed⟩ := List.mem_filterMap.mp member
  cases operation with
  | push id label timestamp text =>
      cases pushed
      exact ⟨rfl, rfl⟩
  | clear => cases pushed

/-- Whatever was pushed and cleared, a history holds the last entries of those pushed since it was
cleared, as many as it has room for, and with the size of the chart in each. The latest is the one
pushed last. An id is known exactly if an entry that is held has it; and if no two entries were
pushed under one id, what is found is the entry with that id. -/
theorem bounded_log (cap : Nat) (operations : List Operation) :
    let history := (withCap cap).after operations
    history.entries = (log operations).rtake (max cap 1) ∧
    history.latest? = (log operations).getLast? ∧
    (∀ entry ∈ history.entries,
      entry.nodeCount = (Graph.ofText entry.text).nodes.length ∧
      entry.edgeCount = (Graph.ofText entry.text).edges.length) ∧
    (∀ id, (history.find? id).isSome ↔ ∃ entry ∈ history.entries, entry.id = id) ∧
    (((log operations).map (·.id)).Nodup → ∀ id entry,
      history.find? id = some entry ↔ entry ∈ history.entries ∧ entry.id = id) ∧
    ∀ entry, (history.push entry).entries = evict history.cap history.entries ++ [entry] := by
  intro history
  have follows : history.Follows (max cap 1) (log operations) := follows_after cap operations
  have kept : history.entries.Sublist (log operations) := by
    rw [follows.entries]
    exact List.drop_sublist _ _
  refine ⟨follows.entries, ?_, ?_, history.find?_isSome_iff, ?_, history.push_eq_evict⟩
  · have room : 0 < max cap 1 := by omega
    rw [latest?, follows.entries, List.rtake, List.getLast?_drop]
    split
    · rename_i short
      rw [List.length_eq_zero_iff.mp (by omega : (log operations).length = 0)]
      rfl
    · rfl
  · exact fun entry member => counted_of_mem_log (kept.subset member)
  · intro distinct id entry
    exact history.find?_eq_some_iff (distinct.sublist (kept.map (·.id))) id entry

theorem two_of_three_held :
    let operations : List Operation :=
      [.push "1" "first" "" "a", .clear, .push "2" "second" "" "b", .push "3" "third" "" "c",
        .push "4" "fourth" "" "```flow\n[x] -> [y]\n```"]
    let history := (withCap 2).after operations
    ((log operations).map (·.id)).Nodup ∧
    history.find? "2" = none ∧
    history.find? "3" = some (VersionEntry.take "3" "third" "" "c") := by
  intro operations history
  have distinct : ((log operations).map (·.id)).Nodup := by decide
  obtain ⟨_, _, _, known, found, _⟩ := bounded_log 2 operations
  refine ⟨distinct, ?_, ?_⟩
  · rw [← Option.not_isSome_iff_eq_none, known]
    decide +kernel
  · exact (found distinct "3" _).mpr (by decide +kernel)

end Chartbook.History
