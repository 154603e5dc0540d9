/-!
Links between numbered nodes, and a choice of links without a cycle.
-/

namespace Chartbook.Layout

def total : List Nat → Nat
  | [] => 0
  | number :: rest => number + total rest

structure Link where
  source : Nat
  target : Nat
  deriving DecidableEq, Repr, Inhabited

def outgoing (links : List Link) (node : Nat) : List Link :=
  links.filter (·.source == node)

def incoming (links : List Link) (node : Nat) : List Link :=
  links.filter (·.target == node)

/-- A node that the search has entered and not left, with its links not yet followed. -/
structure Frame where
  node : Nat
  left : List Link
  deriving DecidableEq, Repr

def work : (stack : List Frame) → Nat
  | [] => 0
  | frame :: below => frame.left.length + 1 + work below

/-- Depth-first search from the fresh nodes in order. It collects the links that lead back to a node
on the stack. Every step enters a fresh node, follows a link or leaves a node. -/
def closingLinks (links : List Link) :
    (fresh : List Nat) → (stack : List Frame) → (closing : List Link) → List Link
  | [], [], closing => closing
  | root :: fresh, [], closing =>
      closingLinks links fresh [{ node := root, left := outgoing links root }] closing
  | fresh, { left := [], .. } :: below, closing => closingLinks links fresh below closing
  | fresh, { node, left := link :: left } :: below, closing =>
      if link.target ∈ fresh then
        closingLinks links (fresh.erase link.target)
          ({ node := link.target, left := outgoing links link.target } :: { node, left } :: below)
          closing
      else if link.target ∈ node :: below.map Frame.node then
        closingLinks links fresh ({ node, left } :: below) (link :: closing)
      else
        closingLinks links fresh ({ node, left } :: below) closing
  termination_by fresh stack => (fresh.length, work stack)
  decreasing_by
    · simp [Prod.lex_def]
    · simp [Prod.lex_def, work]
    · rename_i entered
      have shorter := List.length_erase_of_mem entered
      have positive := List.length_pos_of_mem entered
      simp only [Prod.lex_def]
      omega
    · simp [Prod.lex_def, work]
    · simp [Prod.lex_def, work]

def acyclicLinks (count : Nat) (links : List Link) : List Link :=
  let closing := closingLinks links (List.range count) [] []
  links.filter fun link => !closing.contains link

end Chartbook.Layout
