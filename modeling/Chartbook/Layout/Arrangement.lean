import Chartbook.Layout.Rank

/-!
The order of the nodes within each rank. Sweeps down and up the ranks move every node towards the
mean place of its neighbours, to have fewer crossings.
-/

namespace Chartbook.Layout

/-- The nodes of every rank in order, and for every node its place within its rank. -/
structure Arrangement where
  layers : List (List Nat)
  slots : List Nat
  deriving DecidableEq, Repr

def slotOf (slots : List Nat) (node : Nat) : Nat :=
  slots.getD node 0

def enterSlots (place : Nat) (slots : List Nat) : List Nat → List Nat
  | [] => slots
  | node :: rest => enterSlots (place + 1) (slots.set node place) rest

def layerOf (ranks : List Nat) (rank : Nat) : List Nat :=
  (List.range ranks.length).filter fun node => rankOf ranks node == rank

def depth (ranks : List Nat) : Nat :=
  ranks.foldl max 0 + 1

def initialArrangement (ranks : List Nat) : Arrangement :=
  let layers := (List.range (depth ranks)).map (layerOf ranks)
  { layers
    slots := layers.foldl (enterSlots 0) (List.replicate ranks.length 0) }

inductive Sweep where
  | down
  | up
  deriving DecidableEq, Repr

def neighbours (links : List Link) (node : Nat) : List Nat :=
  links.flatMap fun link =>
    (if link.source = node then [link.target] else [])
      ++ (if link.target = node then [link.source] else [])

def fixedNeighbours (ranks : List Nat) (links : List Link) (sweep : Sweep) (rank node : Nat) :
    List Nat :=
  (neighbours links node).filter fun other =>
    match sweep with
    | .down => rankOf ranks other < rank
    | .up => rank < rankOf ranks other

structure Mean where
  total : Nat
  count : Nat
  deriving DecidableEq, Repr

namespace Mean

def atMost (left right : Mean) : Bool :=
  left.total * right.count ≤ right.total * left.count

end Mean

/-- The mean place of the fixed neighbours; a node without any stays where it is. -/
def barycenter (ranks : List Nat) (links : List Link) (slots : List Nat) (sweep : Sweep)
    (rank node : Nat) : Mean :=
  match fixedNeighbours ranks links sweep rank node with
  | [] => { total := slotOf slots node, count := 1 }
  | others => { total := Layout.total (others.map (slotOf slots)), count := others.length }

/-- Sorts one layer by barycenter. Nodes with equal barycenters keep their order. -/
def sortLayer (ranks : List Nat) (links : List Link) (sweep : Sweep) (arrangement : Arrangement)
    (rank : Nat) : Arrangement :=
  let key := barycenter ranks links arrangement.slots sweep rank
  let sorted := (arrangement.layers.getD rank []).mergeSort fun left right =>
    (key left).atMost (key right)
  { layers := arrangement.layers.set rank sorted
    slots := enterSlots 0 arrangement.slots sorted }

def visited (ranks : List Nat) : Sweep → List Nat
  | .down => (List.range (depth ranks)).drop 1
  | .up => (List.range (depth ranks - 1)).reverse

def runSweep (ranks : List Nat) (links : List Link) (arrangement : Arrangement) (sweep : Sweep) :
    Arrangement :=
  (visited ranks sweep).foldl (sortLayer ranks links sweep) arrangement

def arrange (ranks : List Nat) (links : List Link) : Arrangement :=
  [Sweep.down, .up, .down, .up].foldl (runSweep ranks links) (initialArrangement ranks)

end Chartbook.Layout
