import Chartbook.Text.Blank

/-!
Environment variables and the numbers in them.
-/

namespace Chartbook

abbrev Environment := String → Option String

namespace Environment

def ofList (settings : List (String × String)) : Environment :=
  fun name => (settings.find? (·.1 == name)).map (·.2)

def variableOf (text : String) : String × String :=
  let characters := text.toList
  (String.ofList (characters.takeWhile (· != '=')),
    String.ofList ((characters.dropWhile (· != '=')).drop 1))

def orElse (first second : Environment) : Environment :=
  fun name => (first name).or (second name)

def value? (environment : Environment) (name : String) : Option String :=
  (environment name).bind Text.nonBlank?

def digitsNumber? : List Char → Option Nat
  | [] => none
  | digits =>
      if digits.all fun digit => '0' ≤ digit && digit ≤ '9' then
        some (digits.foldl (fun number digit => number * 10 + (digit.toNat - '0'.toNat)) 0)
      else
        none

def number? (text : String) : Option Nat :=
  match text.toList with
  | '+' :: digits => digitsNumber? digits
  | digits => digitsNumber? digits

/-- The number in a variable, or the fallback when it is missing, malformed or above the most. -/
def numberOr (environment : Environment) (name : String) (most fallback : Nat) : Nat :=
  (((environment name).bind fun text => number? (Text.trimmed text)).filter (· ≤ most)).getD fallback

def most64 : Nat :=
  18446744073709551615

def most32 : Nat :=
  4294967295

def withoutSlashes (text : String) : String :=
  String.ofList (text.toList.reverse.dropWhile (· == '/')).reverse

end Environment

end Chartbook
