import Chartbook.Layout.Link

/-!
Ranks by longest path: a node is ranked once every link into it has been followed.
-/

namespace Chartbook.Layout

/-- The nodes in the order in which they were taken up, and the rank of every node. -/
structure Ranking where
  order : List Nat
  ranks : List Nat
  deriving DecidableEq, Repr

def rankOf (ranks : List Nat) (node : Nat) : Nat :=
  ranks.getD node 0

def follow (ranks : List Nat) (link : Link) : List Nat :=
  ranks.set link.target (max (rankOf ranks link.target) (rankOf ranks link.source + 1))

def released (later : List Link) : (followed : List Link) → List Nat
  | [] => []
  | link :: rest =>
      if (incoming (rest ++ later) link.target).isEmpty then
        link.target :: released later rest
      else
        released later rest

theorem length_released_le (later followed : List Link) :
    (released later followed).length ≤ followed.length := by
  induction followed with
  | nil => simp [released]
  | cons link rest ih =>
      simp only [released]
      split
      · simpa using ih
      · simpa using Nat.le_succ_of_le ih

def leftOver (waiting : List Link) (node : Nat) : List Link :=
  waiting.filter fun link => !(link.source == node)

theorem length_outgoing_add_leftOver (waiting : List Link) (node : Nat) :
    (outgoing waiting node).length + (leftOver waiting node).length = waiting.length := by
  induction waiting with
  | nil => simp [outgoing, leftOver]
  | cons link rest ih =>
      simp only [outgoing, leftOver, List.filter_cons] at ih ⊢
      by_cases same : (link.source == node) = true
      · simp [same] at ih ⊢
        omega
      · simp [same] at ih ⊢
        omega

def rankFrom (waiting : List Link) (ranks order : List Nat) : (queue : List Nat) → Ranking
  | [] => { order, ranks }
  | node :: queue =>
      rankFrom (leftOver waiting node) ((outgoing waiting node).foldl follow ranks)
        (order ++ [node])
        (queue ++ released (leftOver waiting node) (outgoing waiting node))
  termination_by queue => 2 * waiting.length + queue.length
  decreasing_by
    have parts := length_outgoing_add_leftOver waiting node
    have freed := length_released_le (leftOver waiting node) (outgoing waiting node)
    simp only [List.length_append, List.length_cons]
    omega

def ranking (count : Nat) (links : List Link) : Ranking :=
  rankFrom links (List.replicate count 0) []
    ((List.range count).filter fun node => (incoming links node).isEmpty)

def longestPathRanks (count : Nat) (links : List Link) : List Nat :=
  (ranking count links).ranks

end Chartbook.Layout
