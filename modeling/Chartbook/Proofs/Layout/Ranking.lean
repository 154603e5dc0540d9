import Chartbook.Layout.Rank
import Chartbook.Proofs.Layout.Search

/-!
Ranking by longest path. Main statement: of links without a cycle every one raises the rank, and a
node above the lowest rank has a link from the rank just below it.
-/

namespace Chartbook.Layout

theorem mem_leftOver {waiting : List Link} {node : Nat} {link : Link} :
    link ∈ leftOver waiting node ↔ link ∈ waiting ∧ link.source ≠ node := by
  simp [leftOver]

def Free (waiting : List Link) (node : Nat) : Prop :=
  ∀ link ∈ waiting, link.target ≠ node

theorem isEmpty_incoming_iff {waiting : List Link} {node : Nat} :
    (incoming waiting node).isEmpty = true ↔ Free waiting node := by
  simp [incoming, Free]

theorem mem_released {later followed : List Link} {node : Nat} :
    node ∈ released later followed ↔ node ∈ followed.map Link.target ∧ Free later node := by
  induction followed with
  | nil => simp [released]
  | cons link rest ih =>
      rw [released, List.map_cons, List.mem_cons]
      by_cases last : (incoming (rest ++ later) link.target).isEmpty = true
      · rw [if_pos last, List.mem_cons, ih]
        rw [isEmpty_incoming_iff] at last
        constructor
        · rintro (rfl | ⟨member, free⟩)
          · exact ⟨.inl rfl, fun other member => last other (List.mem_append_right rest member)⟩
          · exact ⟨.inr member, free⟩
        · rintro ⟨same | member, free⟩
          · exact .inl same
          · exact .inr ⟨member, free⟩
      · rw [if_neg last, ih]
        constructor
        · rintro ⟨member, free⟩
          exact ⟨.inr member, free⟩
        · rintro ⟨same | member, free⟩
          · refine ⟨?_, free⟩
            subst same
            apply Classical.byContradiction
            intro absent
            refine last (isEmpty_incoming_iff.mpr fun other member into => ?_)
            obtain here | there := List.mem_append.mp member
            · exact absent (into ▸ List.mem_map_of_mem here)
            · exact free other there into
          · exact ⟨member, free⟩

theorem nodup_released (later followed : List Link) : (released later followed).Nodup := by
  induction followed with
  | nil => exact .nil
  | cons link rest ih =>
      rw [released]
      by_cases last : (incoming (rest ++ later) link.target).isEmpty = true
      · rw [if_pos last]
        refine List.nodup_cons.mpr ⟨?_, ih⟩
        intro again
        obtain ⟨other, member, into⟩ := List.mem_map.mp (mem_released.mp again).1
        exact isEmpty_incoming_iff.mp last other (List.mem_append_left later member) into
      · rwa [if_neg last]

theorem length_foldl_follow (followed : List Link) (ranks : List Nat) :
    (followed.foldl follow ranks).length = ranks.length := by
  induction followed generalizing ranks with
  | nil => rfl
  | cons link rest ih => rw [List.foldl_cons, ih, follow, List.length_set]

theorem rankOf_follow {ranks : List Nat} {link : Link} (bounded : link.target < ranks.length)
    (node : Nat) :
    rankOf (follow ranks link) node =
      if node = link.target then max (rankOf ranks node) (rankOf ranks link.source + 1)
      else rankOf ranks node := by
  rw [follow, rankOf, List.getD_eq_getElem?_getD, List.getElem?_set]
  by_cases same : link.target = node
  · subst same
    simp [bounded]
  · rw [if_neg same, if_neg (Ne.symm same), ← List.getD_eq_getElem?_getD, rankOf]

theorem rankOf_foldl_follow {source : Nat} {followed : List Link} {ranks : List Nat}
    (leave : ∀ link ∈ followed, link.source = source ∧ link.target ≠ source)
    (bounded : ∀ link ∈ followed, link.target < ranks.length) (node : Nat) :
    rankOf (followed.foldl follow ranks) node =
      if node ∈ followed.map Link.target then max (rankOf ranks node) (rankOf ranks source + 1)
      else rankOf ranks node := by
  induction followed generalizing ranks with
  | nil => simp
  | cons link rest ih =>
      obtain ⟨rfl, away⟩ := leave link List.mem_cons_self
      have first := rankOf_follow (bounded link List.mem_cons_self)
      have kept : rankOf (follow ranks link) link.source = rankOf ranks link.source := by
        rw [first, if_neg (Ne.symm away)]
      have bounded' : ∀ other ∈ rest, other.target < (follow ranks link).length := by
        intro other member
        rw [follow, List.length_set]
        exact bounded other (List.mem_cons_of_mem link member)
      have later := ih (fun other member => leave other (List.mem_cons_of_mem link member)) bounded'
      rw [List.foldl_cons, later, kept, first]
      by_cases target : node = link.target <;> by_cases more : node ∈ rest.map Link.target <;>
        simp [target, more]

structure Ranked (links : List Link) (count : Nat) (waiting : List Link)
    (ranks order queue : List Nat) : Prop where
  waits : ∀ link, link ∈ waiting ↔ link ∈ links ∧ link.source ∉ order
  length : ranks.length = count
  distinct : (order ++ queue).Nodup
  ready : ∀ node, node ∈ order ++ queue ↔ node < count ∧ Free waiting node
  rises : ∀ link ∈ links, link.source ∈ order →
    rankOf ranks link.source < rankOf ranks link.target
  reached : ∀ node, rankOf ranks node ≠ 0 → ∃ link ∈ links, link.source ∈ order ∧
    link.target = node ∧ rankOf ranks link.source + 1 = rankOf ranks node

namespace Ranked

variable {links waiting : List Link} {count node : Nat} {ranks order queue : List Nat}

theorem begin (links : List Link) (count : Nat) :
    Ranked links count links (List.replicate count 0) []
      ((List.range count).filter fun node => (incoming links node).isEmpty) where
  waits := by simp
  length := List.length_replicate
  distinct := List.nodup_range.filter _
  ready := by
    intro node
    rw [List.nil_append, List.mem_filter, List.mem_range, isEmpty_incoming_iff]
  rises := by simp
  reached := by
    intro node ranked
    refine absurd ?_ ranked
    rw [rankOf, List.getD_eq_getElem?_getD, List.getElem?_replicate]
    split <;> rfl

variable (ranked : Ranked links count waiting ranks order (node :: queue))
  (bounded : ∀ link ∈ links, link.target < count)

include ranked

theorem next_free : Free waiting node :=
  ((ranked.ready node).mp (List.mem_append_right order List.mem_cons_self)).2

theorem next_new : node ∉ order :=
  fun taken => (List.nodup_append.mp ranked.distinct).2.2 node taken node List.mem_cons_self rfl

include bounded in
theorem rankOf_step (other : Nat) :
    rankOf ((outgoing waiting node).foldl follow ranks) other =
      if other ∈ (outgoing waiting node).map Link.target then
        max (rankOf ranks other) (rankOf ranks node + 1)
      else rankOf ranks other := by
  apply rankOf_foldl_follow
  · intro link member
    obtain ⟨waits, source⟩ := mem_outgoing.mp member
    exact ⟨source, ranked.next_free link waits⟩
  · intro link member
    rw [ranked.length]
    exact bounded link ((ranked.waits link).mp (mem_outgoing.mp member).1).1

theorem not_target (taken : other ∈ order ++ node :: queue) :
    other ∉ (outgoing waiting node).map Link.target := by
  intro target
  obtain ⟨link, member, into⟩ := List.mem_map.mp target
  exact ((ranked.ready other).mp taken).2 link (mem_outgoing.mp member).1 into

theorem mem_outgoing_of_source {link : Link} (member : link ∈ links) (source : link.source = node) :
    link ∈ outgoing waiting node := by
  refine mem_outgoing.mpr ⟨(ranked.waits link).mpr ⟨member, ?_⟩, source⟩
  rw [source]
  exact ranked.next_new

include bounded in
theorem step :
    Ranked links count (leftOver waiting node) ((outgoing waiting node).foldl follow ranks)
      (order ++ [node])
      (queue ++ released (leftOver waiting node) (outgoing waiting node)) where
  waits := by
    intro link
    rw [mem_leftOver, ranked.waits, List.mem_append, List.mem_singleton, not_or, and_assoc]
  length := (length_foldl_follow _ _).trans ranked.length
  distinct := by
    have regrouped : order ++ [node] ++ (queue ++ released (leftOver waiting node)
        (outgoing waiting node)) = (order ++ node :: queue) ++ released (leftOver waiting node)
        (outgoing waiting node) := by simp
    rw [regrouped, List.nodup_append]
    refine ⟨ranked.distinct, nodup_released _ _, ?_⟩
    rintro other taken _ again rfl
    exact ranked.not_target taken (mem_released.mp again).1
  ready := by
    intro other
    have regrouped : other ∈ order ++ [node] ++ (queue ++ released (leftOver waiting node)
        (outgoing waiting node)) ↔ other ∈ order ++ node :: queue ∨ other ∈ released
        (leftOver waiting node) (outgoing waiting node) := by simp [or_assoc]
    rw [regrouped, ranked.ready, mem_released]
    constructor
    · rintro (⟨known, free⟩ | ⟨target, free⟩)
      · exact ⟨known, fun link member => free link (mem_leftOver.mp member).1⟩
      · obtain ⟨link, member, rfl⟩ := List.mem_map.mp target
        exact ⟨bounded link ((ranked.waits link).mp (mem_outgoing.mp member).1).1, free⟩
    · rintro ⟨known, free⟩
      by_cases target : other ∈ (outgoing waiting node).map Link.target
      · exact .inr ⟨target, free⟩
      · refine .inl ⟨known, fun link member into => ?_⟩
        by_cases source : link.source = node
        · exact target (List.mem_map.mpr ⟨link, mem_outgoing.mpr ⟨member, source⟩, into⟩)
        · exact free link (mem_leftOver.mpr ⟨member, source⟩) into
  rises := by
    intro link member taken
    rw [List.mem_append, List.mem_singleton] at taken
    have kept : rankOf ((outgoing waiting node).foldl follow ranks) link.source =
        rankOf ranks link.source := by
      rw [ranked.rankOf_step bounded, if_neg (ranked.not_target ?_)]
      simp only [List.mem_append, List.mem_cons]
      exact taken.imp_right .inl
    rw [kept, ranked.rankOf_step bounded]
    obtain before | now := taken
    · have below := ranked.rises link member before
      split
      · exact Nat.lt_of_lt_of_le below (Nat.le_max_left _ _)
      · exact below
    · have followed := ranked.mem_outgoing_of_source member now
      rw [if_pos (List.mem_map_of_mem followed), now]
      exact Nat.lt_of_lt_of_le (Nat.lt_succ_self _) (Nat.le_max_right _ _)
  reached := by
    intro other raised
    have own : rankOf ((outgoing waiting node).foldl follow ranks) node = rankOf ranks node := by
      rw [ranked.rankOf_step bounded, if_neg (ranked.not_target (by simp))]
    by_cases same : rankOf ((outgoing waiting node).foldl follow ranks) other = rankOf ranks other
    · rw [same] at raised ⊢
      obtain ⟨link, member, taken, into, next⟩ := ranked.reached other raised
      refine ⟨link, member, List.mem_append_left _ taken, into, ?_⟩
      rw [ranked.rankOf_step bounded, if_neg (ranked.not_target (List.mem_append_left _ taken))]
      exact next
    · have step := ranked.rankOf_step bounded other
      by_cases target : other ∈ (outgoing waiting node).map Link.target
      · rw [if_pos target] at step
        obtain ⟨link, member, into⟩ := List.mem_map.mp target
        obtain ⟨waits, source⟩ := mem_outgoing.mp member
        refine ⟨link, ((ranked.waits link).mp waits).1, by simp [source], into, ?_⟩
        rw [source, own]
        omega
      · rw [if_neg target] at step
        exact absurd step same

omit ranked

theorem run (bounded : ∀ link ∈ links, link.target < count)
    (ranked : Ranked links count waiting ranks order queue) :
    ∃ later, Ranked links count later (rankFrom waiting ranks order queue).ranks
      (rankFrom waiting ranks order queue).order [] := by
  fun_induction rankFrom waiting ranks order queue with
  | case1 waiting ranks order => exact ⟨waiting, ranked⟩
  | case2 waiting ranks order node queue ih => exact ih (ranked.step bounded)

/-- Of links that climb, none waits for ever: the lowest source among them would be free. -/
theorem all_taken {height : Nat → Nat} (rises : ∀ source target, Linked links source target →
      height source < height target) (bounded : ∀ link ∈ links, link.source < count)
    (ranked : Ranked links count waiting ranks order []) {node : Nat} (known : node < count) :
    node ∈ order := by
  induction climbed : height node using Nat.strongRecOn generalizing node with
  | ind climbed ih =>
      have ready := (ranked.ready node).mpr
      rw [List.append_nil] at ready
      refine ready ⟨known, ?_⟩
      rintro link waits rfl
      obtain ⟨member, untaken⟩ := (ranked.waits link).mp waits
      have lower := rises _ _ (linked_of_mem member)
      exact untaken (ih _ (by omega) (bounded link member) rfl)

end Ranked

section Ranks

variable {links : List Link} {count : Nat}
  (bounded : ∀ link ∈ links, link.source < count ∧ link.target < count)

include bounded

theorem exists_ranked :
    ∃ later, Ranked links count later (ranking count links).ranks (ranking count links).order [] :=
  (Ranked.begin links count).run fun link member => (bounded link member).2

theorem rank_reached (target : Nat) (raised : rankOf (longestPathRanks count links) target ≠ 0) :
    ∃ source, Linked links source target ∧
      rankOf (longestPathRanks count links) source + 1 =
        rankOf (longestPathRanks count links) target := by
  obtain ⟨waiting, ranked⟩ := exists_ranked bounded
  obtain ⟨link, member, _, rfl, next⟩ := ranked.reached target raised
  exact ⟨link.source, linked_of_mem member, next⟩

theorem rank_rises {height : Nat → Nat} (rises : ∀ source target, Linked links source target →
      height source < height target) (source target : Nat) (linked : Linked links source target) :
    rankOf (longestPathRanks count links) source < rankOf (longestPathRanks count links) target := by
  obtain ⟨waiting, ranked⟩ := exists_ranked bounded
  have taken := ranked.all_taken rises (fun link member => (bounded link member).1)
    (bounded _ linked).1
  exact ranked.rises _ linked taken

end Ranks

end Chartbook.Layout
