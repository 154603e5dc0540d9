import Chartbook.Layout.Link
import Chartbook.Proofs.Layout.Walk
import Mathlib.Data.List.Nodup
import Mathlib.Data.List.Perm.Basic

/-!
The depth-first search for links that close a cycle. Main statements: what is left contains no cycle,
and every link left out leads back along links that are kept.
-/

namespace Chartbook.Layout

def Linked (links : List Link) (source target : Nat) : Prop :=
  { source, target } ∈ links

theorem linked_of_mem {links : List Link} {link : Link} (member : link ∈ links) :
    Linked links link.source link.target := member

theorem mem_outgoing {links : List Link} {node : Nat} {link : Link} :
    link ∈ outgoing links node ↔ link ∈ links ∧ link.source = node := by
  simp [outgoing]

def Before (order : List Nat) (first second : Nat) : Prop :=
  order.idxOf first < order.idxOf second

namespace Before

variable {order : List Nat} {first second : Nat}

theorem mem (before : Before order first second) : first ∈ order :=
  List.idxOf_lt_length_iff.mp (Nat.lt_of_lt_of_le before List.idxOf_le_length)

theorem of_not_mem (present : first ∈ order) (absent : second ∉ order) :
    Before order first second := by
  rw [Before, List.idxOf_of_notMem absent]
  exact List.idxOf_lt_length_iff.mpr present

theorem concat (before : Before order first second) (node : Nat) :
    Before (order ++ [node]) first second := by
  have present := before.mem
  rw [Before, List.idxOf_append_of_mem present]
  by_cases known : second ∈ order
  · rw [List.idxOf_append_of_mem known]
    exact before
  · rw [List.idxOf_append_of_notMem known]
    exact Nat.lt_add_right _ (List.idxOf_lt_length_iff.mpr present)

end Before

/-- A link from a node to one that was entered after it. -/
def Onward (links : List Link) (entered : List Nat) (source target : Nat) : Prop :=
  Linked links source target ∧ Before entered source target

/-- Of the links of a node on the stack, those already followed close a cycle, or lead to nodes that
were passed: left for good, or further up the stack. -/
def Pending (links closing : List Link) : (passed : List Nat) → (stack : List Frame) → Prop
  | _, [] => True
  | passed, frame :: below =>
      (∀ link ∈ frame.left, link ∈ links ∧ link.source = frame.node) ∧
      (∀ link ∈ links, link.source = frame.node →
        link ∈ frame.left ∨ link ∈ closing ∨ link.target ∈ passed) ∧
      Pending links closing (frame.node :: passed) below

theorem Pending.mono {links closing closing' : List Link} {passed passed' : List Nat}
    {stack : List Frame} (pending : Pending links closing passed stack)
    (closed : closing ⊆ closing') (left : passed ⊆ passed') :
    Pending links closing' passed' stack := by
  induction stack generalizing passed passed' with
  | nil => trivial
  | cons frame below ih =>
      obtain ⟨own, followed, rest⟩ := pending
      refine ⟨own, ?_, ih rest (List.cons_subset_cons frame.node left)⟩
      intro link member source
      obtain waiting | closes | past := followed link member source
      · exact .inl waiting
      · exact .inr (.inl (closed closes))
      · exact .inr (.inr (left past))

variable {links closing : List Link} {count : Nat} {fresh : List Nat} {stack : List Frame}
  {entered finished : List Nat}

/-- What holds at every step of the search, for the order in which nodes were entered so far and the
order in which they were left. -/
structure Search (links : List Link) (count : Nat) (fresh : List Nat) (stack : List Frame)
    (closing : List Link) (entered finished : List Nat) : Prop where
  nodes : (fresh ++ (stack.map Frame.node ++ finished)).Perm (List.range count)
  seen : ∀ node, node ∈ entered ↔ node ∈ stack.map Frame.node ∨ node ∈ finished
  pending : Pending links closing finished stack
  nested : (stack.map Frame.node).Pairwise fun upper lower => Reaches (Onward links entered) lower upper
  settled : ∀ link ∈ links, link.source ∈ finished →
    link ∈ closing ∨ Before finished link.target link.source
  back : ∀ link ∈ closing, Reaches (Onward links entered) link.target link.source

theorem Onward.concat {source target : Nat} (onward : Onward links entered source target)
    (node : Nat) : Onward links (entered ++ [node]) source target :=
  ⟨onward.1, onward.2.concat node⟩

theorem Reaches.concat {source target : Nat} (reached : Reaches (Onward links entered) source target)
    (node : Nat) : Reaches (Onward links (entered ++ [node])) source target :=
  reached.mono fun _ _ onward => onward.concat node

namespace Search

theorem begin (links : List Link) (count : Nat) :
    Search links count (List.range count) [] [] [] [] where
  nodes := by simp
  seen := by simp
  pending := trivial
  nested := .nil
  settled := by simp
  back := by simp

theorem nodup (search : Search links count fresh stack closing entered finished) :
    (fresh ++ (stack.map Frame.node ++ finished)).Nodup :=
  search.nodes.nodup_iff.mpr List.nodup_range

theorem fresh_not_seen (search : Search links count fresh stack closing entered finished)
    {node : Nat} (member : node ∈ fresh) : node ∉ entered := by
  intro known
  have apart := (List.nodup_append.mp search.nodup).2.2 node member
  rw [search.seen, ← List.mem_append] at known
  exact apart node known rfl

theorem push (search : Search links count fresh stack closing entered finished) {node : Nat}
    (member : node ∈ fresh) {below : List Frame}
    (same : below.map Frame.node = stack.map Frame.node)
    (pending : Pending links closing (node :: finished) below)
    (reached : ∀ lower ∈ stack.map Frame.node,
      Reaches (Onward links (entered ++ [node])) lower node) :
    Search links count (fresh.erase node) ({ node, left := outgoing links node } :: below) closing
      (entered ++ [node]) finished where
  nodes := by
    refine List.Perm.trans ?_ search.nodes
    rw [List.map_cons, same, List.cons_append]
    refine List.perm_middle.trans ?_
    rw [← List.cons_append]
    exact (List.perm_cons_erase member).symm.append_right _
  seen := by
    intro other
    rw [List.mem_append, search.seen, List.mem_singleton, List.map_cons, same, List.mem_cons]
    constructor
    · rintro ((above | past) | same)
      · exact .inl (.inr above)
      · exact .inr past
      · exact .inl (.inl same)
    · rintro ((same | above) | past)
      · exact .inr same
      · exact .inl (.inl above)
      · exact .inl (.inr past)
  pending := by
    refine ⟨fun link left => mem_outgoing.mp left, ?_, pending⟩
    intro link known source
    exact .inl (mem_outgoing.mpr ⟨known, source⟩)
  nested := by
    rw [List.map_cons, same]
    refine .cons reached (search.nested.imp ?_)
    intro upper lower reached
    exact reached.concat node
  settled := search.settled
  back := fun link closes => (search.back link closes).concat node

theorem enterRoot {root : Nat}
    (search : Search links count (root :: fresh) [] closing entered finished) :
    Search links count fresh [{ node := root, left := outgoing links root }] closing
      (entered ++ [root]) finished := by
  have pushed := search.push List.mem_cons_self rfl trivial (by simp)
  rwa [List.erase_cons_head] at pushed

theorem leave {node : Nat}
    (search : Search links count fresh ({ node, left := [] } :: stack) closing entered finished) :
    Search links count fresh stack closing entered (finished ++ [node]) where
  nodes := by
    refine List.Perm.trans (List.Perm.append_left _ ?_) search.nodes
    rw [List.map_cons, ← List.append_assoc]
    exact List.perm_append_singleton _ _
  seen := by
    intro other
    rw [search.seen, List.map_cons, List.mem_cons, List.mem_append, List.mem_singleton]
    constructor
    · rintro ((same | above) | past)
      · exact .inr (.inr same)
      · exact .inl above
      · exact .inr (.inl past)
    · rintro (above | past | same)
      · exact .inl (.inr above)
      · exact .inr past
      · exact .inl (.inl same)
  pending := by
    obtain ⟨_, _, rest⟩ := search.pending
    exact rest.mono (List.Subset.refl _) (by simp)
  nested := (List.pairwise_cons.mp search.nested).2
  settled := by
    have parts := (List.nodup_append.mp search.nodup).2.1
    have new : node ∉ finished := by
      intro past
      rw [List.map_cons, List.cons_append, List.nodup_cons, List.mem_append] at parts
      exact parts.1 (.inr past)
    intro link member source
    rw [List.mem_append, List.mem_singleton] at source
    obtain past | same := source
    · exact (search.settled link member past).imp_right fun before => before.concat node
    · obtain ⟨_, followed, _⟩ := search.pending
      obtain waiting | closes | past := followed link member same
      · cases waiting
      · exact .inl closes
      · refine .inr (Before.concat (Before.of_not_mem past ?_) node)
        rw [same]
        exact new
  back := search.back

section Follow

variable {node : Nat} {link : Link} {left : List Link}

theorem next_link
    (search : Search links count fresh ({ node, left := link :: left } :: stack) closing entered
      finished) : link ∈ links ∧ link.source = node :=
  search.pending.1 link List.mem_cons_self

theorem pending_follow
    (search : Search links count fresh ({ node, left := link :: left } :: stack) closing entered
      finished) {closing' : List Link} {passed : List Nat}
    (closed : closing ⊆ closing') (past : finished ⊆ passed)
    (accounted : link ∈ closing' ∨ link.target ∈ passed) :
    Pending links closing' passed ({ node, left } :: stack) := by
  obtain ⟨own, followed, rest⟩ := search.pending
  refine ⟨fun other member => own other (List.mem_cons_of_mem link member), ?_,
    rest.mono closed (List.cons_subset_cons node past)⟩
  intro other member source
  obtain waiting | closes | done := followed other member source
  · obtain rfl | later := List.mem_cons.mp waiting
    · exact .inr accounted
    · exact .inl later
  · exact .inr (.inl (closed closes))
  · exact .inr (.inr (past done))

theorem enter
    (search : Search links count fresh ({ node, left := link :: left } :: stack) closing entered
      finished) (new : link.target ∈ fresh) :
    Search links count (fresh.erase link.target)
      ({ node := link.target, left := outgoing links link.target } :: { node, left } :: stack)
      closing (entered ++ [link.target]) finished := by
  obtain ⟨known, rfl⟩ := search.next_link
  have here : link.source ∈ entered := (search.seen _).mpr (.inl List.mem_cons_self)
  have onward : Onward links (entered ++ [link.target]) link.source link.target :=
    ⟨known, (Before.of_not_mem here (search.fresh_not_seen new)).concat _⟩
  refine search.push new rfl ?_ ?_
  · exact search.pending_follow (List.Subset.refl _) (List.subset_cons_self _ _)
      (.inr List.mem_cons_self)
  · intro lower member
    obtain rfl | below := List.mem_cons.mp member
    · exact Reaches.here.extend onward
    · have reached := (List.pairwise_cons.mp search.nested).1 lower below
      exact (reached.concat _).extend onward

theorem close
    (search : Search links count fresh ({ node, left := link :: left } :: stack) closing entered
      finished) (onStack : link.target ∈ node :: stack.map Frame.node) :
    Search links count fresh ({ node, left } :: stack) (link :: closing) entered finished where
  nodes := search.nodes
  seen := search.seen
  pending := search.pending_follow (List.subset_cons_self _ _) (List.Subset.refl _)
    (.inl List.mem_cons_self)
  nested := search.nested
  settled := fun other member past =>
    (search.settled other member past).imp_left (List.mem_cons_of_mem link)
  back := by
    obtain ⟨_, rfl⟩ := search.next_link
    intro other member
    obtain rfl | older := List.mem_cons.mp member
    · obtain same | below := List.mem_cons.mp onStack
      · rw [same]
        exact .here
      · exact (List.pairwise_cons.mp search.nested).1 _ below
    · exact search.back other older

theorem skip
    (search : Search links count fresh ({ node, left := link :: left } :: stack) closing entered
      finished) (bounded : link.target < count) (known : link.target ∉ fresh)
    (offStack : link.target ∉ node :: stack.map Frame.node) :
    Search links count fresh ({ node, left } :: stack) closing entered finished where
  nodes := search.nodes
  seen := search.seen
  pending := by
    have present := search.nodes.mem_iff.mpr (List.mem_range.mpr bounded)
    rw [List.mem_append, List.mem_append] at present
    have past := (present.resolve_left known).resolve_left offStack
    exact search.pending_follow (List.Subset.refl _) (List.Subset.refl _) (.inr past)
  nested := search.nested
  settled := search.settled
  back := search.back

end Follow

theorem run (bounded : ∀ link ∈ links, link.target < count)
    (search : Search links count fresh stack closing entered finished) :
    ∃ entered finished,
      Search links count [] [] (closingLinks links fresh stack closing) entered finished := by
  fun_induction closingLinks links fresh stack closing generalizing entered finished with
  | case1 closing => exact ⟨entered, finished, search⟩
  | case2 root fresh closing ih => exact ih search.enterRoot
  | case3 fresh node below closing ih => exact ih search.leave
  | case4 fresh node link left below closing new ih => exact ih (search.enter new)
  | case5 fresh node link left below closing known onStack ih => exact ih (search.close onStack)
  | case6 fresh node link left below closing known offStack ih =>
      exact ih (search.skip (bounded link search.next_link.1) known offStack)

end Search

theorem mem_acyclicLinks {count : Nat} {links : List Link} {link : Link} :
    link ∈ acyclicLinks count links ↔
      link ∈ links ∧ link ∉ closingLinks links (List.range count) [] [] := by
  simp [acyclicLinks]

section Kept

variable (bounded : ∀ link ∈ links, link.source < count ∧ link.target < count)

include bounded

theorem exists_search : ∃ entered finished, Search links count [] []
    (closingLinks links (List.range count) [] []) entered finished :=
  (Search.begin links count).run fun link member => (bounded link member).2

/-- Every link that is kept leads from a node to one that the search had left before. -/
theorem exists_height :
    ∃ height : Nat → Nat, ∀ source target, Linked (acyclicLinks count links) source target →
      height source < height target := by
  obtain ⟨entered, finished, search⟩ := exists_search bounded
  refine ⟨fun node => finished.length - finished.idxOf node, ?_⟩
  intro source target linked
  obtain ⟨member, kept⟩ := mem_acyclicLinks.mp linked
  have left : source ∈ finished := by
    have nodes := search.nodes
    rw [List.map_nil, List.nil_append, List.nil_append] at nodes
    exact nodes.mem_iff.mpr (List.mem_range.mpr (bounded _ member).1)
  have before : finished.idxOf target < finished.idxOf source :=
    (search.settled _ member left).resolve_left kept
  have inside := List.idxOf_lt_length_of_mem left
  change finished.length - finished.idxOf source < finished.length - finished.idxOf target
  omega

theorem acyclic_acyclicLinks : Acyclic (Linked (acyclicLinks count links)) := by
  obtain ⟨height, rises⟩ := exists_height bounded
  exact acyclic_of_rises _ rises

theorem reaches_back {link : Link} (member : link ∈ links)
    (dropped : link ∉ acyclicLinks count links) :
    Reaches (Linked (acyclicLinks count links)) link.target link.source := by
  obtain ⟨entered, finished, search⟩ := exists_search bounded
  have closes : link ∈ closingLinks links (List.range count) [] [] := by
    rw [mem_acyclicLinks, not_and, Classical.not_not] at dropped
    exact dropped member
  refine (search.back link closes).mono ?_
  rintro source target ⟨linked, before⟩
  refine mem_acyclicLinks.mpr ⟨linked, fun back => ?_⟩
  obtain ⟨length, walk⟩ := search.back _ back
  have climbed : entered.idxOf target + length ≤ entered.idxOf source :=
    walk.climbs fun _ _ onward => onward.2
  rw [Before] at before
  omega

theorem acyclicLinks_of_acyclic (acyclic : Acyclic (Linked links)) :
    acyclicLinks count links = links := by
  rw [acyclicLinks, List.filter_eq_self]
  intro link member
  apply Classical.byContradiction
  intro dropped
  have reached := reaches_back bounded member
    (fun kept => dropped (by simpa using (mem_acyclicLinks.mp kept).2))
  refine acyclic.not_reaches (linked_of_mem member) (reached.mono ?_)
  exact fun _ _ kept => (mem_acyclicLinks.mp kept).1

end Kept

end Chartbook.Layout
