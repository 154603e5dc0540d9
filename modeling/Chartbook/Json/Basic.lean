import Chartbook.Json.Double

/-!
JSON values. Objects keep their fields in the order in which they stand.
-/

namespace Chartbook

inductive Json where
  | null
  | bool (value : Bool)
  | int (value : Int)
  | float (value : Double)
  | string (text : String)
  | array (items : List Json)
  | object (fields : List (String × Json))
  /-- Well-formed text without a value: a number out of range, a string with half a surrogate pair,
  or nesting that is too deep. It does no harm where nobody looks at it. -/
  | unreadable
  deriving Repr, Inhabited

namespace Json

abbrev Fields := List (String × Json)

def nat (value : Nat) : Json :=
  int value

def list (encode : α → Json) (items : List α) : Json :=
  array (items.map encode)

def strings (texts : List String) : Json :=
  list string texts

def string? : Json → Option String
  | string text => some text
  | _ => none

def bool? : Json → Option Bool
  | bool value => some value
  | _ => none

def items? : Json → Option (List Json)
  | array items => some items
  | _ => none

def fields? : Json → Option Fields
  | object fields => some fields
  | _ => none

def intWithin? (least most : Int) : Json → Option Int
  | int value => if least ≤ value && value ≤ most then some value else none
  | _ => none

def nat64? (json : Json) : Option Nat :=
  (json.intWithin? 0 18446744073709551615).map Int.toNat

def int64? (json : Json) : Option Int :=
  json.intWithin? (-9223372036854775808) 9223372036854775807

def double? : Json → Option Double
  | float value => some value
  | int value => Double.ofInt? value
  | _ => none

def listOf? (decode : Json → Option α) (json : Json) : Option (List α) := do
  let items ← json.items?
  items.mapM decode

def strings? (json : Json) : Option (List String) :=
  json.listOf? string?

def nullable? (decode : Json → Option α) : Json → Option (Option α)
  | null => some none
  | json => (decode json).map some

def Fields.get? (fields : Fields) (key : String) : Option Json :=
  (fields.find? (·.1 == key)).map (·.2)

def get? (json : Json) (key : String) : Option Json :=
  json.fields?.bind (·.get? key)

/-- Puts a field at its place in a list that is sorted by key. An earlier value gives way. -/
def Fields.insert (key : String) (value : Json) : Fields → Fields
  | [] => [(key, value)]
  | first :: rest =>
      if key < first.1 then (key, value) :: first :: rest
      else if key = first.1 then (key, value) :: rest
      else first :: Fields.insert key value rest

mutual

/-- The value as free-form data: all of it readable, every object sorted by key, and of several
fields with one key the last. -/
def settle? : Json → Option Json
  | array items => (settleItems? items).map array
  | object fields => (settleFields? fields).map fun settled =>
      object (settled.foldl (fun sorted field => Fields.insert field.1 field.2 sorted) [])
  | unreadable => none
  | json => some json

def settleItems? : List Json → Option (List Json)
  | [] => some []
  | item :: rest => do
      let first ← settle? item
      let later ← settleItems? rest
      some (first :: later)

def settleFields? : List (String × Json) → Option (List (String × Json))
  | [] => some []
  | (key, value) :: rest => do
      let first ← settle? value
      let later ← settleFields? rest
      some ((key, first) :: later)

end

def settledFields? (json : Json) : Option Fields :=
  json.settle?.bind fields?

def isReadable (json : Json) : Bool :=
  json.settle?.isSome

end Json

end Chartbook
