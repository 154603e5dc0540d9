import Chartbook.Proofs.Layout.Ranking

/-!
Ranking with a count of the links that still lead into each node. Taking one off a count of zero is
refused. Main statement: without a cycle no count is refused, every node is taken up exactly once, and
its rank is the length of the longest walk that ends in it.
-/

namespace Chartbook.Layout

theorem total_set {counts : List Nat} {index left : Nat}
    (counted : counts[index]? = some (left + 1)) : total (counts.set index left) + 1 = total counts := by
  induction counts generalizing index with
  | nil => simp at counted
  | cons first rest ih =>
      cases index with
      | zero =>
          obtain rfl : first = left + 1 := by simpa using counted
          simp only [List.set_cons_zero, total]
          omega
      | succ index =>
          have behind := ih (by simpa using counted)
          simp only [List.set_cons_succ, total]
          omega

/-- For every node the number of links into it that were not followed yet, and its rank so far; and
the nodes that no such link leads into. -/
structure Tally where
  counts : List Nat
  ranks : List Nat
  queue : List Nat
  deriving DecidableEq, Repr

namespace Tally

def follow? (tally : Tally) (link : Link) : Option Tally :=
  match tally.counts[link.target]? with
  | some (left + 1) =>
      some {
        counts := tally.counts.set link.target left
        ranks := follow tally.ranks link
        queue := if left = 0 then tally.queue ++ [link.target] else tally.queue }
  | _ => none

def work (tally : Tally) : Nat :=
  2 * total tally.counts + tally.queue.length

theorem work_of_follow? {tally later : Tally} {link : Link}
    (followed : tally.follow? link = some later) : later.work < tally.work := by
  rw [follow?] at followed
  split at followed
  · rename_i left counted
    have less := total_set counted
    obtain rfl := Option.some.inj followed
    simp only [work]
    split
    · rw [List.length_append, List.length_singleton]
      omega
    · omega
  · cases followed

theorem work_of_foldlM {links : List Link} {tally later : Tally}
    (followed : links.foldlM follow? tally = some later) : later.work ≤ tally.work := by
  induction links generalizing tally with
  | nil =>
      obtain rfl : tally = later := by simpa using followed
      exact Nat.le_refl _
  | cons link rest ih =>
      rw [List.foldlM_cons] at followed
      obtain ⟨next, first, others⟩ := Option.bind_eq_some_iff.mp followed
      exact Nat.le_trans (ih others) (Nat.le_of_lt (work_of_follow? first))

def run? (links : List Link) (order : List Nat) : Tally → Option Ranking
  | { queue := [], ranks, .. } => some { order, ranks }
  | { counts, ranks, queue := node :: queue } =>
      match _ : (outgoing links node).foldlM follow? { counts, ranks, queue } with
      | none => none
      | some later => run? links (order ++ [node]) later
  termination_by tally => tally.work
  decreasing_by
    rename_i followed
    have less := work_of_foldlM followed
    simp only [work, List.length_cons] at less ⊢
    omega

end Tally

def countIn (counts : List Nat) (link : Link) : List Nat :=
  counts.modify link.target (· + 1)

/-- The ranking of the nodes below `count` when the links into each of them are counted first. -/
def countedRanking? (count : Nat) (links : List Link) : Option Ranking :=
  let counts := links.foldl countIn (List.replicate count 0)
  Tally.run? links []
    { counts, ranks := List.replicate count 0
      queue := (List.range count).filter fun node => counts.getD node 0 == 0 }

def waitingInto (count : Nat) (waiting : List Link) : List Nat :=
  (List.range count).map fun node => (incoming waiting node).length

section Counts

variable {count node : Nat} {waiting earlier : List Link} {link : Link}

theorem getElem?_waitingInto (bounded : node < count) :
    (waitingInto count waiting)[node]? = some (incoming waiting node).length := by
  simp [waitingInto, bounded]

theorem waitingInto_perm {other : List Link} (same : waiting.Perm other) :
    waitingInto count waiting = waitingInto count other :=
  List.map_congr_left fun _ _ => (same.filter _).length_eq

theorem countIn_waitingInto :
    countIn (waitingInto count waiting) link = waitingInto count (waiting ++ [link]) := by
  apply List.ext_getElem
  · simp [countIn, waitingInto]
  · intro node _ bounded
    by_cases into : link.target = node <;> simp [countIn, waitingInto, incoming, into]

theorem foldl_countIn (links : List Link) :
    links.foldl countIn (waitingInto count earlier) = waitingInto count (earlier ++ links) := by
  induction links generalizing earlier with
  | nil => simp
  | cons link rest ih =>
      rw [List.foldl_cons, countIn_waitingInto, ih, List.append_assoc, List.singleton_append]

theorem set_waitingInto :
    (waitingInto count (link :: waiting)).set link.target (incoming waiting link.target).length =
      waitingInto count waiting := by
  apply List.ext_getElem
  · simp [waitingInto]
  · intro node _ bounded
    by_cases into : link.target = node <;> simp [waitingInto, incoming, into]

end Counts

section Following

variable {links waiting later followed : List Link} {count : Nat} {ranks order queue : List Nat}

theorem follow?_waitingInto {link : Link} (bounded : link.target < count) :
    Tally.follow? { counts := waitingInto count (link :: waiting), ranks, queue } link =
      some { counts := waitingInto count waiting, ranks := follow ranks link
             queue := if (incoming waiting link.target).isEmpty then queue ++ [link.target]
               else queue } := by
  have counted : (waitingInto count (link :: waiting))[link.target]? =
      some ((incoming waiting link.target).length + 1) := by
    rw [getElem?_waitingInto bounded]
    simp [incoming]
  simp [Tally.follow?, counted, set_waitingInto]

theorem foldlM_follow?_waitingInto (bounded : ∀ link ∈ followed, link.target < count) :
    followed.foldlM Tally.follow? { counts := waitingInto count (followed ++ later), ranks, queue } =
      some { counts := waitingInto count later, ranks := followed.foldl follow ranks
             queue := queue ++ released later followed } := by
  induction followed generalizing ranks queue with
  | nil => simp [released]
  | cons link rest ih =>
      have first := bounded link List.mem_cons_self
      have others := fun other member => bounded other (List.mem_cons_of_mem link member)
      rw [List.foldlM_cons, List.cons_append, follow?_waitingInto first, Option.bind_eq_bind,
        Option.bind_some, ih others, List.foldl_cons, released]
      split
      · rw [List.append_assoc, List.singleton_append]
      · rfl

theorem perm_outgoing_leftOver (waiting : List Link) (node : Nat) :
    waiting.Perm (outgoing waiting node ++ leftOver waiting node) :=
  (List.filter_append_perm _ waiting).symm

def unfollowed (links : List Link) (order : List Nat) : List Link :=
  links.filter fun link => !order.contains link.source

theorem outgoing_unfollowed {node : Nat} (new : node ∉ order) :
    outgoing (unfollowed links order) node = outgoing links node := by
  rw [outgoing, unfollowed, List.filter_filter]
  refine List.filter_congr fun link _ => ?_
  by_cases source : link.source = node <;> simp [source, new]

theorem leftOver_unfollowed (node : Nat) :
    leftOver (unfollowed links order) node = unfollowed links (order ++ [node]) := by
  rw [leftOver, unfollowed, unfollowed, List.filter_filter]
  refine List.filter_congr fun link _ => ?_
  by_cases source : link.source = node <;> simp [source]

theorem run?_waitingInto (bounded : ∀ link ∈ links, link.target < count)
    (ranked : Ranked links count waiting ranks order queue)
    (left : waiting = unfollowed links order) :
    Tally.run? links order { counts := waitingInto count waiting, ranks, queue } =
      some (rankFrom waiting ranks order queue) := by
  fun_induction rankFrom waiting ranks order queue with
  | case1 waiting ranks order => rw [Tally.run?]
  | case2 waiting ranks order node queue ih =>
      have next := ih (ranked.step bounded) (left ▸ leftOver_unfollowed node)
      have own : outgoing links node = outgoing waiting node := by
        rw [left, outgoing_unfollowed ranked.next_new]
      have counted : (outgoing links node).foldlM Tally.follow?
          { counts := waitingInto count waiting, ranks, queue } =
          some { counts := waitingInto count (leftOver waiting node)
                 ranks := (outgoing waiting node).foldl follow ranks
                 queue := queue ++ released (leftOver waiting node) (outgoing waiting node) } := by
        rw [own, waitingInto_perm (perm_outgoing_leftOver waiting node)]
        refine foldlM_follow?_waitingInto fun link member => bounded link ?_
        exact ((ranked.waits link).mp (mem_outgoing.mp member).1).1
      rw [Tally.run?]
      split
      · rename_i refused
        cases counted.symm.trans refused
      · rename_i later followed
        obtain rfl := Option.some.inj (counted.symm.trans followed)
        exact next

end Following

theorem countedRanking?_eq {count : Nat} {links : List Link}
    (bounded : ∀ link ∈ links, link.target < count) :
    countedRanking? count links = some (ranking count links) := by
  have counts : links.foldl countIn (List.replicate count 0) = waitingInto count links := by
    have start : List.replicate count 0 = waitingInto count [] := by
      simp [waitingInto, incoming]
    rw [start, foldl_countIn, List.nil_append]
  have free : ((List.range count).filter fun node => (waitingInto count links).getD node 0 == 0) =
      (List.range count).filter fun node => (incoming links node).isEmpty := by
    refine List.filter_congr fun node below => ?_
    rw [List.getD_eq_getElem?_getD, getElem?_waitingInto (List.mem_range.mp below), Option.getD_some,
      Bool.eq_iff_iff, beq_iff_eq, List.isEmpty_iff_length_eq_zero]
  rw [countedRanking?, counts, free, ranking]
  exact run?_waitingInto bounded (Ranked.begin links count) (by simp [unfollowed])

/-! Links without a cycle. -/

section Acyclic

variable {count : Nat} {links : List Link}
  (bounded : ∀ link ∈ links, link.source < count ∧ link.target < count)
  (acyclic : Acyclic (Linked links))

include bounded acyclic

theorem exists_height_of_acyclic :
    ∃ height : Nat → Nat, ∀ source target, Linked links source target →
      height source < height target := by
  obtain ⟨height, rises⟩ := exists_height bounded
  rw [acyclicLinks_of_acyclic bounded acyclic] at rises
  exact ⟨height, rises⟩

theorem order_perm_range : (ranking count links).order.Perm (List.range count) := by
  obtain ⟨waiting, ranked⟩ := exists_ranked bounded
  obtain ⟨height, rises⟩ := exists_height_of_acyclic bounded acyclic
  have once := ranked.distinct
  rw [List.append_nil] at once
  rw [List.perm_ext_iff_of_nodup once List.nodup_range]
  intro node
  rw [List.mem_range]
  constructor
  · intro taken
    exact ((ranked.ready node).mp (List.mem_append_left [] taken)).1
  · intro below
    exact ranked.all_taken rises (fun link member => (bounded link member).1) below

theorem isGreatest_longestPathRanks (node : Nat) :
    IsGreatest {length | ∃ first, Walk (Linked links) length first node}
      (rankOf (longestPathRanks count links) node) := by
  obtain ⟨height, rises⟩ := exists_height_of_acyclic bounded acyclic
  exact isGreatest_rank (rank_rises bounded rises) (rank_reached bounded) node

end Acyclic

/-- Ranking links without a cycle takes up every node exactly once and never counts below zero. The
rank of a node is the number of links on the longest walk that ends in it. So every link raises the
rank, and above rank zero there is always a link from the rank just below. -/
theorem ranked_by_longest_walk (count : Nat) (links : List Link)
    (bounded : ∀ link ∈ links, link.source < count ∧ link.target < count)
    (acyclic : Acyclic (Linked links)) :
    let rank := rankOf (longestPathRanks count links)
    countedRanking? count links = some (ranking count links) ∧
    (ranking count links).order.Perm (List.range count) ∧
    (longestPathRanks count links).length = count ∧
    (∀ node, IsGreatest {length | ∃ first, Walk (Linked links) length first node} (rank node)) ∧
    (∀ link ∈ links, rank link.source + 1 ≤ rank link.target) ∧
    ∀ node, 0 < rank node →
      ∃ link ∈ links, link.target = node ∧ rank link.source + 1 = rank node := by
  intro rank
  obtain ⟨waiting, ranked⟩ := exists_ranked bounded
  obtain ⟨height, rises⟩ := exists_height_of_acyclic bounded acyclic
  refine ⟨countedRanking?_eq fun link member => (bounded link member).2,
    order_perm_range bounded acyclic, ranked.length,
    isGreatest_longestPathRanks bounded acyclic,
    fun link member => rank_rises bounded rises _ _ (linked_of_mem member), ?_⟩
  intro node raised
  obtain ⟨source, linked, next⟩ := rank_reached bounded node (Nat.ne_of_gt raised)
  exact ⟨_, linked, rfl, next⟩

def detour : List Link :=
  [⟨3, 0⟩, ⟨3, 1⟩, ⟨3, 1⟩, ⟨1, 0⟩]

theorem detour_ranks :
    (∀ link ∈ detour, link.source < 4 ∧ link.target < 4) ∧ Acyclic (Linked detour) ∧
    (ranking 4 detour).order = [2, 3, 1, 0] ∧ longestPathRanks 4 detour = [2, 1, 0, 0] ∧
    countedRanking? 4 detour = some (ranking 4 detour) ∧
    IsGreatest {length | ∃ first, Walk (Linked detour) length first 0} 2 := by
  have bounded : ∀ link ∈ detour, link.source < 4 ∧ link.target < 4 := by decide
  have acyclic : Acyclic (Linked detour) := by
    have rises : ∀ link ∈ detour, 3 - link.source < 3 - link.target := by decide
    exact acyclic_of_rises (fun node => 3 - node) fun _ _ linked => rises _ linked
  have ranks : longestPathRanks 4 detour = [2, 1, 0, 0] := by cbv
  obtain ⟨counted, _, _, greatest, _⟩ := ranked_by_longest_walk 4 detour bounded acyclic
  refine ⟨bounded, acyclic, by cbv, ranks, counted, ?_⟩
  have longest := greatest 0
  rwa [ranks] at longest

end Chartbook.Layout
