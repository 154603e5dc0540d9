import Chartbook.Json.Basic

/-!
Records with known fields. A record is written as an object; it is read from an object or from an
array of its fields in order.
-/

namespace Chartbook

/-- The fields that were found, under their own names and at most once each. -/
structure Record where
  fields : Json.Fields

structure FieldName where
  name : String
  aliases : List String

namespace FieldName

def goesBy (field : FieldName) (key : String) : Bool :=
  field.name == key || field.aliases.contains key

end FieldName

namespace Record

def plain (name : String) : FieldName :=
  { name, aliases := [] }

def known (names : List FieldName) (fields : Json.Fields) : Json.Fields :=
  fields.filterMap fun field =>
    (names.find? (·.goesBy field.1)).map fun found => (found.name, field.2)

def distinct : List String → Bool
  | [] => true
  | key :: rest => !rest.contains key && distinct rest

/-- An object must not give a known field twice. An array must have the first `least` fields and may
leave out the others, from the end. -/
def read? (names : List FieldName) (least : Nat) : Json → Option Record
  | .object fields =>
      let found := known names fields
      if distinct (found.map (·.1)) then some { fields := found } else none
  | .array items =>
      if least ≤ items.length && items.length ≤ names.length then
        some { fields := (names.map (·.name)).zip items }
      else
        none
  | _ => none

def required? (record : Record) (name : String) (decode : Json → Option α) : Option α :=
  (record.fields.get? name).bind decode

def withDefault? (record : Record) (name : String) (fallback : α) (decode : Json → Option α) :
    Option α :=
  match record.fields.get? name with
  | some json => decode json
  | none => some fallback

def optional? (record : Record) (name : String) (decode : Json → Option α) : Option (Option α) :=
  record.withDefault? name none (Json.nullable? decode)

end Record

namespace Json

def whenSome (name : String) (encode : α → Json) : Option α → Fields
  | some value => [(name, encode value)]
  | none => []

def word? : Json → Option String
  | string text => some text
  | object [(text, null)] => some text
  | _ => none

/-- A word among the fields of a larger record. As a key it may also stand with an empty object. -/
def innerWord? : Json → Option String
  | object [(text, object [])] => some text
  | json => json.word?

/-- A value that says by its field `type` which kind it is, and the rest of it. All of it must be
readable. Where `numbered` says so, the kind may also be given by its place among the kinds. -/
def tagged? (numbered : List String) (json : Json) : Option (String × Json) := do
  let readTag : Json → Option String
    | string text => some text
    | int place => if place < 0 || numbered.isEmpty then none else some ((numbered[place.toNat]?).getD "")
    | _ => none
  if json.isReadable then
    match json with
    | object fields =>
        match fields.filter (·.1 == "type") with
        | [(_, tag)] => (readTag tag).map fun kind => (kind, object (fields.filter (·.1 != "type")))
        | _ => none
    | array (tag :: rest) => (readTag tag).map fun kind => (kind, array rest)
    | _ => none
  else
    none

/-- What is left of a tagged value whose kind has no fields: any fields at all, but no items. -/
def isBare : Json → Bool
  | object _ => true
  | array [] => true
  | _ => false

end Json

end Chartbook
