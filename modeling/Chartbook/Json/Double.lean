/-!
Finite binary64 numbers in exact arithmetic: rounding a fraction to the nearest one, and reading a
decimal significand with a power of ten.
-/

namespace Chartbook

/-- The number `significand * 2 ^ power` with a sign. -/
structure Double where
  negative : Bool
  significand : Nat
  power : Int
  deriving DecidableEq, Repr, Inhabited

namespace Double

def zero (negative : Bool) : Double :=
  { negative, significand := 0, power := -1074 }

def scaleDown (numerator denominator : Nat) (power : Int) : Nat × Nat :=
  (numerator * Nat.pow 2 (-power).toNat, denominator * Nat.pow 2 power.toNat)

def roundHalfEven (numerator denominator : Nat) : Nat :=
  let whole := numerator / denominator
  let twice := 2 * (numerator % denominator)
  if twice < denominator then whole
  else if denominator < twice then whole + 1
  else if whole % 2 = 0 then whole else whole + 1

/-- The power that leaves a whole part of 53 bits, but no power below the least one. -/
def fittingPower (numerator denominator : Nat) : Int :=
  let estimate := max (-1074) ((numerator.log2 : Int) - denominator.log2 - 53)
  let scaled := scaleDown numerator denominator estimate
  if Nat.pow 2 53 ≤ scaled.1 / scaled.2 then estimate + 1 else estimate

def nearest? (negative : Bool) (numerator denominator : Nat) : Option Double :=
  let power := fittingPower numerator denominator
  let scaled := scaleDown numerator denominator power
  let rounded := roundHalfEven scaled.1 scaled.2
  let result : Double :=
    if rounded = Nat.pow 2 53 then { negative, significand := Nat.pow 2 52, power := power + 1 }
    else { negative, significand := rounded, power }
  if numerator = 0 then some (zero negative)
  else if 971 < result.power then none
  else some result

def fraction (number : Double) : Nat × Nat :=
  (number.significand * Nat.pow 2 number.power.toNat, Nat.pow 2 (-number.power).toNat)

def ofNat? (number : Nat) : Option Double :=
  nearest? false number 1

def ofInt? (number : Int) : Option Double :=
  nearest? (decide (number < 0)) number.natAbs 1

def tenTo (exponent : Nat) : Double :=
  (ofNat? (Nat.pow 10 exponent)).getD (zero false)

def times? (left right : Double) : Option Double :=
  nearest? left.negative (left.fraction.1 * right.fraction.1)
    (left.fraction.2 * right.fraction.2)

def over? (left right : Double) : Option Double :=
  nearest? left.negative (left.fraction.1 * right.fraction.2)
    (left.fraction.2 * right.fraction.1)

def largestTen : Nat :=
  308

def shrinkSteps : Nat → Double → Option Double
  | 0, number => some number
  | steps + 1, number =>
      if number.significand = 0 then
        some number
      else
        match number.over? (tenTo largestTen) with
        | some smaller => shrinkSteps steps smaller
        | none => none

def shrink? (number : Double) (exponent : Nat) : Option Double :=
  let steps := (exponent - 1) / largestTen
  match shrinkSteps steps number with
  | some smaller => smaller.over? (tenTo (exponent - steps * largestTen))
  | none => none

/-- A decimal read in two rounded steps: the significand, and its product with the power of ten or
its quotient by it. Nothing when the result is out of range. -/
def ofDecimal? (negative : Bool) (significand : Nat) (exponent : Int) : Option Double := do
  let start ← nearest? negative significand 1
  if exponent < 0 then
    start.shrink? exponent.natAbs
  else if start.significand = 0 then
    some start
  else if (largestTen : Int) < exponent then
    none
  else
    start.times? (tenTo exponent.toNat)

def whole? (number : Double) : Option Int :=
  let (numerator, denominator) := number.fraction
  if numerator % denominator = 0 then
    some (if number.negative then -(numerator / denominator : Nat) else (numerator / denominator : Nat))
  else
    none

end Double

end Chartbook
