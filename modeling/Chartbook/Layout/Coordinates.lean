import Chartbook.Graph.Basic
import Chartbook.Layout.Link

/-!
Coordinates. Ranks follow one another along the main axis, and every rank is centred on the cross
axis. All sizes and distances are even, so that halves are whole numbers.
-/

namespace Chartbook

inductive Direction where
  | topToBottom
  | leftToRight
  deriving DecidableEq, Repr, Inhabited

namespace Layout

structure Size where
  width : Nat
  height : Nat
  deriving DecidableEq, Repr, Inhabited

def sizeOfKind : NodeKind → Size
  | .decision => { width := 180, height := 100 }
  | _ => { width := 172, height := 40 }

def rankGap : Nat :=
  80

def nodeGap : Nat :=
  40

def Size.along (size : Size) : Direction → Nat
  | .topToBottom => size.height
  | .leftToRight => size.width

def Size.across (size : Size) : Direction → Nat
  | .topToBottom => size.width
  | .leftToRight => size.height

structure Point where
  x : Nat
  y : Nat
  deriving DecidableEq, Repr, Inhabited

def Point.at (direction : Direction) (main cross : Nat) : Point :=
  match direction with
  | .topToBottom => { x := cross, y := main }
  | .leftToRight => { x := main, y := cross }

structure Place where
  node : Nat
  point : Point
  deriving DecidableEq, Repr, Inhabited

def sizeAt (sizes : List Size) (node : Nat) : Size :=
  sizes.getD node default

def thickness (direction : Direction) (sizes : List Size) (layer : List Nat) : Nat :=
  (layer.map fun node => (sizeAt sizes node).along direction).foldl max 0

def span (direction : Direction) (sizes : List Size) (layer : List Nat) : Nat :=
  total (layer.map fun node => (sizeAt sizes node).across direction) + (layer.length - 1) * nodeGap

def widest (direction : Direction) (sizes : List Size) (layers : List (List Nat)) : Nat :=
  (layers.map (span direction sizes)).foldl max 0

/-- Places the nodes of one layer from `cross` on. A node thinner than its layer stands in the
middle of it. -/
def placeLayer (direction : Direction) (sizes : List Size) (main thick : Nat) :
    (cross : Nat) → List Nat → List Place
  | _, [] => []
  | cross, node :: rest =>
      let size := sizeAt sizes node
      { node, point := Point.at direction (main + (thick - size.along direction) / 2) cross }
        :: placeLayer direction sizes main thick (cross + size.across direction + nodeGap) rest

def placeLayers (direction : Direction) (sizes : List Size) (broadest : Nat) :
    (main : Nat) → List (List Nat) → List Place
  | _, [] => []
  | main, layer :: rest =>
      let thick := thickness direction sizes layer
      placeLayer direction sizes main thick ((broadest - span direction sizes layer) / 2) layer
        ++ placeLayers direction sizes broadest (main + thick + rankGap) rest

def places (direction : Direction) (sizes : List Size) (layers : List (List Nat)) : List Place :=
  placeLayers direction sizes (widest direction sizes layers) 0 layers

def pointOf (placed : List Place) (node : Nat) : Point :=
  match placed.find? (·.node == node) with
  | some place => place.point
  | none => default

end Layout

end Chartbook
