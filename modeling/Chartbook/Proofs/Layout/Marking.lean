import Chartbook.Proofs.Layout.Search

/-!
Breaking cycles where links may be doubled. A search that judges every copy of a link on its own, when
it follows it, marks all copies or none. Main statement: what is kept contains no cycle, and a link is
left out only if it closes a cycle with links that are kept.
-/

namespace Chartbook.Layout

/-- A node on the stack with its links not yet followed, each with its position among all links. -/
structure Station where
  node : Nat
  left : List (Link × Nat)
  deriving DecidableEq, Repr

def Station.frame (station : Station) : Frame :=
  { node := station.node, left := station.left.map Prod.fst }

def leaving (links : List Link) (node : Nat) : List (Link × Nat) :=
  links.zipIdx.filter (·.1.source == node)

/-- The search for closing links, with its marks at positions. -/
def marks (links : List Link) :
    (fresh : List Nat) → (stack : List Station) → (marked : List (Link × Nat)) → List (Link × Nat)
  | [], [], marked => marked
  | root :: fresh, [], marked =>
      marks links fresh [{ node := root, left := leaving links root }] marked
  | fresh, { left := [], .. } :: below, marked => marks links fresh below marked
  | fresh, { node, left := copy :: left } :: below, marked =>
      if copy.1.target ∈ fresh then
        marks links (fresh.erase copy.1.target)
          ({ node := copy.1.target, left := leaving links copy.1.target } :: { node, left } :: below)
          marked
      else if copy.1.target ∈ node :: below.map Station.node then
        marks links fresh ({ node, left } :: below) (copy :: marked)
      else
        marks links fresh ({ node, left } :: below) marked
  termination_by fresh stack => (fresh.length, work (stack.map Station.frame))
  decreasing_by
    · simp [Prod.lex_def]
    · simp [Prod.lex_def, work]
    · rename_i entered
      have shorter := List.length_erase_of_mem entered
      have positive := List.length_pos_of_mem entered
      simp only [Prod.lex_def]
      omega
    · simp [Prod.lex_def, work, Station.frame]
    · simp [Prod.lex_def, work, Station.frame]

def keptByPosition (count : Nat) (links : List Link) : List Link :=
  let marked := marks links (List.range count) [] []
  (links.zipIdx.filter fun copy => !marked.contains copy).map Prod.fst

section Forgetting

variable {links : List Link}

theorem map_fst_filter_zipIdx (keep : Link → Bool) :
    (links.zipIdx.filter fun copy => keep copy.1).map Prod.fst = links.filter keep := by
  have all := List.filter_map (p := keep) (f := Prod.fst) (l := links.zipIdx)
  rw [List.zipIdx_map_fst] at all
  exact all.symm

theorem map_fst_leaving (node : Nat) : (leaving links node).map Prod.fst = outgoing links node :=
  map_fst_filter_zipIdx fun link => link.source == node

theorem map_node_frame (stack : List Station) :
    (stack.map Station.frame).map Frame.node = stack.map Station.node := by
  rw [List.map_map]
  rfl

theorem map_fst_marks (fresh : List Nat) (stack : List Station) (marked : List (Link × Nat)) :
    (marks links fresh stack marked).map Prod.fst =
      closingLinks links fresh (stack.map Station.frame) (marked.map Prod.fst) := by
  fun_induction marks links fresh stack marked with
  | case1 marked => simp [closingLinks]
  | case2 root fresh marked ih =>
      rw [ih, List.map_nil, closingLinks]
      simp [Station.frame, map_fst_leaving]
  | case3 fresh node below marked ih =>
      rw [ih]
      simp [Station.frame, closingLinks]
  | case4 fresh node copy left below marked new ih =>
      rw [ih]
      simp [Station.frame, closingLinks, map_fst_leaving, new]
  | case5 fresh node copy left below marked known onStack ih =>
      have there : copy.1.target ∈ node :: (below.map Station.frame).map Frame.node := by
        rwa [map_node_frame]
      rw [ih]
      simp only [List.map_cons, Station.frame]
      rw [closingLinks, if_neg known, if_pos there]
  | case6 fresh node copy left below marked known offStack ih =>
      have away : copy.1.target ∉ node :: (below.map Station.frame).map Frame.node := by
        rwa [map_node_frame]
      rw [ih]
      simp only [List.map_cons, Station.frame]
      rw [closingLinks, if_neg known, if_neg away]

end Forgetting

/-! All copies of a link are judged alike. -/

/-- Of the links of a node on the stack, those already followed are marked exactly where they lead to
the stack. -/
def Judged (links : List Link) (marked : List (Link × Nat)) : (stack : List Station) → Prop
  | [] => True
  | station :: below =>
      station.left.Nodup ∧
      (∀ copy ∈ station.left, copy ∈ leaving links station.node ∧ copy ∉ marked) ∧
      (∀ copy ∈ leaving links station.node, copy ∈ station.left ∨
        (copy ∈ marked ↔ copy.1.target ∈ station.node :: below.map Station.node)) ∧
      Judged links marked below

structure Alike (links : List Link) (fresh : List Nat) (stack : List Station)
    (marked : List (Link × Nat)) : Prop where
  apart : (fresh ++ stack.map Station.node).Nodup
  judged : Judged links marked stack
  known : ∀ copy ∈ marked, copy ∈ links.zipIdx ∧ copy.1.source ∉ fresh
  settled : ∀ copy ∈ links.zipIdx, ∀ other ∈ links.zipIdx, copy.1 = other.1 →
    copy.1.source ∉ fresh ++ stack.map Station.node → (copy ∈ marked ↔ other ∈ marked)

section Judging

variable {links : List Link} {fresh : List Nat} {stack below : List Station}
  {marked left : List (Link × Nat)} {copy : Link × Nat} {node : Nat}

theorem mem_leaving : copy ∈ leaving links node ↔ copy ∈ links.zipIdx ∧ copy.1.source = node := by
  simp [leaving]

theorem nodup_leaving : (leaving links node).Nodup := by
  have positions : (links.zipIdx.map Prod.snd).Nodup := by
    rw [List.zipIdx_map_snd]
    exact List.nodup_range'
  exact positions.of_map.filter _

theorem Judged.mark (judged : Judged links marked stack)
    (elsewhere : copy.1.source ∉ stack.map Station.node) : Judged links (copy :: marked) stack := by
  induction stack with
  | nil => trivial
  | cons station below ih =>
      obtain ⟨unique, own, followed, rest⟩ := judged
      rw [List.map_cons, List.mem_cons, not_or] at elsewhere
      have different : ∀ other ∈ leaving links station.node, other ≠ copy := by
        rintro other member rfl
        exact elsewhere.1 (mem_leaving.mp member).2
      refine ⟨unique, ?_, ?_, ih rest elsewhere.2⟩
      · intro other member
        obtain ⟨leaves, unmarked⟩ := own other member
        exact ⟨leaves, List.not_mem_cons_of_ne_of_not_mem (different other leaves) unmarked⟩
      · intro other leaves
        rw [List.mem_cons, or_iff_right (different other leaves)]
        exact followed other leaves

theorem Judged.pass (judged : Judged links marked ({ node, left := copy :: left } :: below))
    (offStack : copy.1.target ∉ node :: below.map Station.node) :
    Judged links marked ({ node, left } :: below) := by
  obtain ⟨unique, own, followed, rest⟩ := judged
  refine ⟨(List.nodup_cons.mp unique).2,
    fun other member => own other (List.mem_cons_of_mem copy member), ?_, rest⟩
  intro other leaves
  obtain waiting | judged := followed other leaves
  · obtain rfl | later := List.mem_cons.mp waiting
    · exact .inr (iff_of_false (own other List.mem_cons_self).2 offStack)
    · exact .inl later
  · exact .inr judged

theorem Judged.close (judged : Judged links marked ({ node, left := copy :: left } :: below))
    (elsewhere : copy.1.source ∉ below.map Station.node)
    (onStack : copy.1.target ∈ node :: below.map Station.node) :
    Judged links (copy :: marked) ({ node, left } :: below) := by
  obtain ⟨unique, own, followed, rest⟩ := judged
  obtain ⟨once, later⟩ := List.nodup_cons.mp unique
  refine ⟨later, ?_, ?_, rest.mark elsewhere⟩
  · intro other member
    obtain ⟨leaves, unmarked⟩ := own other (List.mem_cons_of_mem copy member)
    have different : other ≠ copy := fun same => once (same ▸ member)
    exact ⟨leaves, List.not_mem_cons_of_ne_of_not_mem different unmarked⟩
  · intro other leaves
    by_cases same : other = copy
    · subst same
      exact .inr (iff_of_true List.mem_cons_self onStack)
    · rw [List.mem_cons, or_iff_right same]
      exact (followed other leaves).imp_left fun ahead => (List.mem_cons.mp ahead).resolve_left same

namespace Alike

theorem begin (links : List Link) (count : Nat) : Alike links (List.range count) [] [] where
  apart := by
    rw [List.map_nil, List.append_nil]
    exact List.nodup_range
  judged := trivial
  known := by simp
  settled := by simp

theorem push (alike : Alike links fresh stack marked) (new : node ∈ fresh)
    (same : below.map Station.node = stack.map Station.node) (judged : Judged links marked below) :
    Alike links (fresh.erase node) ({ node, left := leaving links node } :: below) marked where
  apart := by
    rw [List.map_cons, same]
    refine (List.perm_middle.trans ?_).nodup_iff.mpr alike.apart
    exact (List.perm_cons_erase new).symm.append_right _
  judged := by
    refine ⟨nodup_leaving, fun copy leaves => ⟨leaves, fun early => ?_⟩,
      fun copy leaves => .inl leaves, judged⟩
    refine (alike.known copy early).2 ?_
    rwa [(mem_leaving.mp leaves).2]
  known := by
    intro copy member
    obtain ⟨known, old⟩ := alike.known copy member
    exact ⟨known, fun fresh => old (List.mem_of_mem_erase fresh)⟩
  settled := by
    intro copy first other second link finished
    refine alike.settled copy first other second link fun waiting => finished ?_
    rw [List.map_cons, same]
    refine (List.perm_middle.trans ?_).mem_iff.mpr waiting
    exact (List.perm_cons_erase new).symm.append_right _

theorem enterRoot {root : Nat} (alike : Alike links (root :: fresh) [] marked) :
    Alike links fresh [{ node := root, left := leaving links root }] marked := by
  have pushed := alike.push List.mem_cons_self rfl trivial
  rwa [List.erase_cons_head] at pushed

theorem leave (alike : Alike links fresh ({ node, left := [] } :: stack) marked) :
    Alike links fresh stack marked where
  apart := alike.apart.sublist ((List.sublist_cons_self _ _).append_left _)
  judged := alike.judged.2.2.2
  known := alike.known
  settled := by
    intro copy first other second link finished
    by_cases own : copy.1.source = node
    · have judged := fun copy leaves =>
        (alike.judged.2.2.1 copy leaves).resolve_left List.not_mem_nil
      rw [judged copy (mem_leaving.mpr ⟨first, own⟩),
        judged other (mem_leaving.mpr ⟨second, link ▸ own⟩), link]
    · refine alike.settled copy first other second link fun waiting => finished ?_
      simpa [own] using waiting

section Follow

variable (alike : Alike links fresh ({ node, left := copy :: left } :: below) marked)

include alike

theorem next_leaves : copy ∈ leaving links node :=
  (alike.judged.2.1 copy List.mem_cons_self).1

theorem skip (offStack : copy.1.target ∉ node :: below.map Station.node) :
    Alike links fresh ({ node, left } :: below) marked where
  apart := alike.apart
  judged := alike.judged.pass offStack
  known := alike.known
  settled := alike.settled

theorem enter (new : copy.1.target ∈ fresh) :
    Alike links (fresh.erase copy.1.target)
      ({ node := copy.1.target, left := leaving links copy.1.target } :: { node, left } :: below)
      marked := by
  refine alike.push new rfl (alike.judged.pass fun onStack => ?_)
  exact (List.nodup_append.mp alike.apart).2.2 _ new _ onStack rfl

theorem mark (onStack : copy.1.target ∈ node :: below.map Station.node) :
    Alike links fresh ({ node, left } :: below) (copy :: marked) where
  apart := alike.apart
  judged := by
    refine alike.judged.close ?_ onStack
    rw [(mem_leaving.mp alike.next_leaves).2]
    exact (List.nodup_cons.mp (List.nodup_append.mp alike.apart).2.1).1
  known := by
    intro other member
    obtain rfl | earlier := List.mem_cons.mp member
    · obtain ⟨present, own⟩ := mem_leaving.mp alike.next_leaves
      refine ⟨present, fun new => (List.nodup_append.mp alike.apart).2.2 _ new node ?_ own⟩
      exact List.mem_cons_self
    · exact alike.known other earlier
  settled := by
    intro first one second two link finished
    have different : ∀ other : Link × Nat, first.1 = other.1 → other ≠ copy := by
      rintro other same rfl
      refine finished (List.mem_append_right _ ?_)
      rw [same, (mem_leaving.mp alike.next_leaves).2]
      exact List.mem_cons_self
    rw [List.mem_cons, List.mem_cons, or_iff_right (different first rfl),
      or_iff_right (different second link)]
    exact alike.settled first one second two link finished

end Follow

theorem run (alike : Alike links fresh stack marked) :
    Alike links [] [] (marks links fresh stack marked) := by
  fun_induction marks links fresh stack marked with
  | case1 marked => exact alike
  | case2 root fresh marked ih => exact ih alike.enterRoot
  | case3 fresh node below marked ih => exact ih alike.leave
  | case4 fresh node copy left below marked new ih => exact ih (alike.enter new)
  | case5 fresh node copy left below marked known onStack ih => exact ih (alike.mark onStack)
  | case6 fresh node copy left below marked known offStack ih => exact ih (alike.skip offStack)

end Alike

end Judging

theorem keptByPosition_eq (count : Nat) (links : List Link) :
    keptByPosition count links = acyclicLinks count links := by
  have alike := (Alike.begin links count).run
  have closing : closingLinks links (List.range count) [] [] =
      (marks links (List.range count) [] []).map Prod.fst :=
    (map_fst_marks (List.range count) [] []).symm
  rw [keptByPosition, acyclicLinks, closing, ← map_fst_filter_zipIdx]
  refine congrArg (List.map Prod.fst) (List.filter_congr fun copy present => ?_)
  have marked : copy ∈ marks links (List.range count) [] [] ↔
      copy.1 ∈ (marks links (List.range count) [] []).map Prod.fst := by
    refine ⟨List.mem_map_of_mem, fun sharing => ?_⟩
    obtain ⟨other, member, link⟩ := List.mem_map.mp sharing
    exact (alike.settled other (alike.known other member).1 copy present link (by simp)).mp member
  simp [marked]

theorem acyclicLinks_sublist (count : Nat) (links : List Link) :
    (acyclicLinks count links).Sublist links :=
  List.filter_sublist

theorem dropped_of_count_lt {count : Nat} {links : List Link} {link : Link}
    (fewer : (acyclicLinks count links).count link < links.count link) :
    link ∈ links ∧ link ∉ acyclicLinks count links := by
  refine ⟨List.count_pos_iff.mp (Nat.zero_lt_of_lt fewer), fun kept => Nat.ne_of_lt fewer ?_⟩
  exact List.count_filter (List.mem_filter.mp kept).2

/-- The links that are kept stand in their old order and contain no cycle. Where a copy of a link is
dropped, the links that are kept lead from its target back to its source. So links without a cycle are
all kept. Marking each copy on its own keeps the same links. -/
theorem only_cycles_broken (count : Nat) (links : List Link)
    (bounded : ∀ link ∈ links, link.source < count ∧ link.target < count) :
    let kept := acyclicLinks count links
    keptByPosition count links = kept ∧ kept.Sublist links ∧ Acyclic (Linked kept) ∧
    (∀ link, kept.count link < links.count link → Reaches (Linked kept) link.target link.source) ∧
    (Acyclic (Linked links) → kept = links) := by
  refine ⟨keptByPosition_eq count links, acyclicLinks_sublist count links,
    acyclic_acyclicLinks bounded, ?_, acyclicLinks_of_acyclic bounded⟩
  intro link fewer
  obtain ⟨present, dropped⟩ := dropped_of_count_lt fewer
  exact reaches_back bounded present dropped

def doubledCycle : List Link :=
  [⟨0, 1⟩, ⟨1, 2⟩, ⟨2, 0⟩, ⟨1, 2⟩, ⟨2, 0⟩]

theorem doubledCycle_broken :
    (∀ link ∈ doubledCycle, link.source < 3 ∧ link.target < 3) ∧
    acyclicLinks 3 doubledCycle = [⟨0, 1⟩, ⟨1, 2⟩, ⟨1, 2⟩] ∧
    keptByPosition 3 doubledCycle = acyclicLinks 3 doubledCycle ∧
    Reaches (Linked [⟨0, 1⟩, ⟨1, 2⟩, ⟨1, 2⟩]) 0 2 := by
  have bounded : ∀ link ∈ doubledCycle, link.source < 3 ∧ link.target < 3 := by decide
  have kept : acyclicLinks 3 doubledCycle = [⟨0, 1⟩, ⟨1, 2⟩, ⟨1, 2⟩] := by cbv
  obtain ⟨same, _, _, back, _⟩ := only_cycles_broken 3 doubledCycle bounded
  have reached := back ⟨2, 0⟩
  rw [kept] at reached
  exact ⟨bounded, kept, same, reached (by decide)⟩

end Chartbook.Layout
