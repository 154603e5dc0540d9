import Chartbook.Json.Printer

/-!
Random identifiers: version 4 of the universally unique ones.
-/

namespace Chartbook.CommandLine

def hexDigits (number : Nat) : (count : Nat) → List Nat
  | 0 => []
  | count + 1 => number / Nat.pow 16 count % 16 :: hexDigits number count

/-- Two digits do not come from the number: the version, and one that has only two bits of it. -/
def identifierDigits (digits : List Nat) : List Nat :=
  digits.zipIdx.map fun (digit, index) =>
    if index = 12 then 4
    else if index = 16 then 8 + digit % 4
    else digit

def identifier (bits : Nat) : String :=
  let digits := (identifierDigits (hexDigits bits 32)).map Json.hexText
  Text.joined "-" ([(0, 8), (8, 4), (12, 4), (16, 4), (20, 12)].map fun group =>
    String.ofList ((digits.drop group.1).take group.2))

end Chartbook.CommandLine
