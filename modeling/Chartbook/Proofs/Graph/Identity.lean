import Chartbook.Proofs.Graph.WellFormed
import Chartbook.Proofs.Text.Search

/-!
The id of an edge names one ordered pair of nodes, whatever characters their ids hold: the size in
front tells where the source ends.
-/

namespace Chartbook

namespace Edge

theorem toList_idOf (source target : String) :
    (idOf source target).toList =
      ('e' :: Nat.toDigits 10 source.utf8ByteSize) ++ '-' :: (source.toList ++ '-' :: target.toList) := by
  simp [idOf]

theorem dash_not_mem_size (size : Nat) : '-' ∉ 'e' :: Nat.toDigits 10 size := by
  rw [List.mem_cons, not_or]
  refine ⟨by decide, ?_⟩
  intro digit
  have numeric := Nat.isDigit_of_mem_toDigits (by decide) (by decide) digit
  exact absurd numeric (by decide)

theorem cut?_idOf (source target : String) :
    Text.cut? ['-'] (idOf source target).toList =
      some ('e' :: Nat.toDigits 10 source.utf8ByteSize, source.toList ++ '-' :: target.toList) :=
  (Text.cut?_single_eq_some_iff _ _ _ _).mpr ⟨toList_idOf source target, dash_not_mem_size _⟩

theorem eq_of_toDigits {first second : Nat}
    (same : Nat.toDigits 10 first = Nat.toDigits 10 second) : first = second := by
  have read := congrArg (fun digits => Nat.ofDigitChars 10 digits 0) same
  simpa using read

theorem eq_of_begins {short long : String} {rest : List Char}
    (begins : long.toList = short.toList ++ rest) (sized : short.utf8ByteSize = long.utf8ByteSize) :
    short = long := by
  have whole : long = short ++ String.ofList rest := by
    rw [← String.toList_inj, begins, String.toList_append, String.toList_ofList]
  have size := congrArg String.utf8ByteSize whole
  rw [String.utf8ByteSize_append] at size
  have nothing : String.ofList rest = "" := String.utf8ByteSize_eq_zero_iff.mp (by omega)
  rw [whole, nothing, String.append_empty]

theorem pair_of_idOf {one two : String × String} (same : idOf one.1 one.2 = idOf two.1 two.2) :
    one = two := by
  have cuts := (cut?_idOf one.1 one.2).symm.trans (same ▸ cut?_idOf two.1 two.2)
  obtain ⟨sizes, pairs⟩ := Prod.mk.inj (Option.some.inj cuts)
  have sized : one.1.utf8ByteSize = two.1.utf8ByteSize := eq_of_toDigits (List.cons.inj sizes).2
  have source : one.1 = two.1 := by
    obtain ⟨rest, begins, _⟩ | ⟨rest, begins, _⟩ := List.append_eq_append_iff.mp pairs
    · exact eq_of_begins begins sized
    · exact (eq_of_begins begins sized.symm).symm
  rw [source] at pairs
  have target : one.2 = two.2 := String.toList_inj.mp (List.cons.inj (List.append_cancel_left pairs)).2
  exact Prod.ext source target

/-- Two ids agree exactly where the pairs of nodes do, whatever characters stand in the ids of the
nodes. The number in front is the size of the source in bytes of UTF-8. -/
theorem ids_tell_pairs_apart (source target source' target' : String) :
    (idOf source target = idOf source' target' ↔ source = source' ∧ target = target') ∧
    idOf source target = "e" ++ toString source.toUTF8.size ++ "-" ++ source ++ "-" ++ target ∧
    ∀ label, (between source target label).id = idOf source target := by
  refine ⟨⟨?_, ?_⟩, rfl, fun _ => rfl⟩
  · intro same
    exact Prod.mk.inj (@pair_of_idOf (source, target) (source', target') same)
  · rintro ⟨rfl, rfl⟩
    rfl

example : idOf "a-b" "c" ≠ idOf "a" "b-c" := by
  decide

end Edge

namespace Graph.WellFormed

theorem nodup_edge_ids {graph : Graph} (wellFormed : graph.WellFormed) :
    (graph.edges.map Edge.id).Nodup := by
  have named : graph.edges.map Edge.id =
      (graph.edges.map Edge.pair).map fun pair => Edge.idOf pair.1 pair.2 := by
    rw [List.map_map]
    exact List.map_congr_left fun edge member => congrArg Edge.id (wellFormed.identified edge member)
  rw [named]
  exact wellFormed.single.map fun _ _ => Edge.pair_of_idOf

end Graph.WellFormed

end Chartbook
