import Chartbook.Json.Double

/-!
The shortest decimal text of a binary64 number: the fewest digits that read back, and among those
the nearest to the number.
-/

namespace Chartbook

structure Decimal where
  digits : Nat
  exponent : Int
  deriving DecidableEq, Repr, Inhabited

namespace Decimal

def strip (fuel : Nat) (decimal : Decimal) : Decimal :=
  match fuel with
  | 0 => decimal
  | fuel + 1 =>
      if decimal.digits ≠ 0 && decimal.digits % 10 = 0 then
        strip fuel { digits := decimal.digits / 10, exponent := decimal.exponent + 1 }
      else
        decimal

end Decimal

namespace Double

/-- The bounds of the numbers that round to this one, and the number between them, all three in
quarters of its last binary place. Below a power of two the lower neighbour is nearer. -/
def neighbourhood (number : Double) : Nat × Nat × Nat :=
  let middle := 4 * number.significand
  let below := if number.significand = Nat.pow 2 52 && -1074 < number.power then 1 else 2
  (middle - below, middle, middle + 2)

def magnitude (number : Double) : Int :=
  let (numerator, denominator) := number.fraction
  if denominator ≤ numerator then
    ((toString (numerator / denominator)).length : Int)
  else
    match (List.range 330).find? fun places => denominator ≤ numerator * Nat.pow 10 places with
    | some places => 1 - places
    | none => 0

/-- The nearer of the two decimals with the given number of digits around the number, if one of them
reads back. A tie goes to the even one. -/
def withDigits? (number : Double) (count : Nat) : Option Decimal :=
  let exponent := number.magnitude - count
  let (low, middle, high) := number.neighbourhood
  let binary := number.power - 2
  -- One unit of the decimal grid and one quarter of the binary place, over a common denominator.
  let grid := Nat.pow 10 exponent.toNat * Nat.pow 2 (-binary).toNat
  let quarter := Nat.pow 2 binary.toNat * Nat.pow 10 (-exponent).toNat
  let inside := fun digits =>
    if number.significand % 2 = 0 then
      low * quarter ≤ digits * grid && digits * grid ≤ high * quarter
    else
      low * quarter < digits * grid && digits * grid < high * quarter
  let under := middle * quarter / grid
  let upward := (under + 1) * grid - middle * quarter
  let downward := middle * quarter - under * grid
  let preferUnder := downward < upward || (downward == upward && under % 2 == 0)
  if inside under && (preferUnder || !inside (under + 1)) then some { digits := under, exponent }
  else if inside (under + 1) then some { digits := under + 1, exponent }
  else none

def shortest (number : Double) : Decimal :=
  match (List.range 17).findSome? fun index => number.withDigits? (index + 1) with
  | some decimal => Decimal.strip 20 decimal
  | none => { digits := 0, exponent := 0 }

/-- The digits as text: positional for magnitudes from `1e-5` to below `1e16`, otherwise with an
exponent. A positional text always has a point. -/
def toText (number : Double) : String :=
  let decimal := number.shortest
  let digits := toString decimal.digits
  let length : Int := digits.length
  let places := length + decimal.exponent
  let sign := if number.negative then "-" else ""
  let zeros := fun (count : Int) => String.ofList (List.replicate count.toNat '0')
  let text :=
    if number.significand = 0 then
      "0.0"
    else if 0 ≤ decimal.exponent && places ≤ 16 then
      digits ++ zeros decimal.exponent ++ ".0"
    else if 0 < places && places ≤ 16 then
      String.ofList (digits.toList.take places.toNat) ++ "."
        ++ String.ofList (digits.toList.drop places.toNat)
    else if -5 < places && places ≤ 0 then
      "0." ++ zeros (-places) ++ digits
    else if length = 1 then
      digits ++ "e" ++ toString (places - 1)
    else
      String.ofList (digits.toList.take 1) ++ "." ++ String.ofList (digits.toList.drop 1) ++ "e"
        ++ toString (places - 1)
  sign ++ text

end Double

end Chartbook
