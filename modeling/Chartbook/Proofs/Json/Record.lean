import Chartbook.Json.Record
import Mathlib.Data.List.Basic
import Mathlib.Data.List.Find

/-!
Reading what was written. Lists and numbers come back as they were, an object whose keys are the own
names of a record's fields is read as it stands, and other names for the same fields change nothing.
-/

namespace Chartbook

namespace Json

theorem listOf?_list {Value : Type} {encode : Value → Json} {decode : Json → Option Value}
    {items : List Value} (inverse : ∀ item ∈ items, decode (encode item) = some item) :
    (list encode items).listOf? decode = some items := by
  have decoded : (items.map encode).mapM decode = some items := by
    induction items with
    | nil => rfl
    | cons item rest ih =>
        have first := inverse item List.mem_cons_self
        have later := ih fun item member => inverse item (List.mem_cons_of_mem _ member)
        simp [first, later]
  simpa [listOf?, list, items?] using decoded

@[simp]
theorem strings?_strings (texts : List String) : (strings texts).strings? = some texts :=
  listOf?_list fun _ _ => rfl

def FitsNat64 (value : Nat) : Prop :=
  value ≤ 18446744073709551615

instance (value : Nat) : Decidable (FitsNat64 value) :=
  inferInstanceAs (Decidable (_ ≤ _))

def FitsInt64 (value : Int) : Prop :=
  -9223372036854775808 ≤ value ∧ value ≤ 9223372036854775807

instance (value : Int) : Decidable (FitsInt64 value) :=
  inferInstanceAs (Decidable (_ ∧ _))

theorem nat64?_nat {value : Nat} (fits : FitsNat64 value) : (nat value).nat64? = some value := by
  have most : (value : Int) ≤ 18446744073709551615 := by
    rw [FitsNat64] at fits
    omega
  simp [nat, nat64?, intWithin?, most]

theorem int64?_int {value : Int} (fits : FitsInt64 value) : (int value).int64? = some value := by
  obtain ⟨least, most⟩ := fits
  simp [int64?, intWithin?, least, most]

variable {fields : Fields} {key name : String} {json : Json}

@[simp]
theorem Fields.get?_nil : Fields.get? [] name = none := rfl

@[simp]
theorem Fields.get?_cons_self : Fields.get? ((name, json) :: fields) name = some json := by
  simp [Fields.get?]

@[simp]
theorem Fields.get?_cons_of_ne (differ : key ≠ name) :
    Fields.get? ((key, json) :: fields) name = fields.get? name := by
  simp [Fields.get?, differ]

end Json

namespace Record

/-- Whether the keys are names of fields, each of which is read as itself, and none stands twice. -/
def owns (names : List FieldName) (keys : List String) : Bool :=
  keys.all (fun key => (names.find? (·.goesBy key)).map (·.name) == some key) && distinct keys

theorem known_own {names : List FieldName} {fields : Json.Fields}
    (own : ∀ field ∈ fields, (names.find? (·.goesBy field.1)).map (·.name) = some field.1) :
    known names fields = fields := by
  induction fields with
  | nil => rfl
  | cons field rest ih =>
      obtain ⟨found, first, named⟩ := Option.map_eq_some_iff.mp (own field List.mem_cons_self)
      have later := ih fun field member => own field (List.mem_cons_of_mem _ member)
      rw [known, List.filterMap_cons, first, Option.map_some, named, ← known, later]

theorem read?_own {names : List FieldName} {fields : Json.Fields}
    (own : owns names (fields.map (·.1))) (least : Nat) :
    read? names least (.object fields) = some { fields } := by
  rw [owns, Bool.and_eq_true, List.all_eq_true] at own
  have known : known names fields = fields := by
    refine known_own fun field member => ?_
    exact beq_iff_eq.mp (own.1 field.1 (List.mem_map_of_mem member))
  rw [read?, known, if_pos own.2]

end Record

namespace Json

def renamed (old new : String) (field : String × Json) : String × Json :=
  if field.1 = old then (new, field.2) else field

def changed (name : String) (change : Json → Json) (field : String × Json) : String × Json :=
  if field.1 = name then (name, change field.2) else field

def mapFields (change : String × Json → String × Json) : Json → Json
  | object fields => object (fields.map change)
  | json => json

def rename (old new : String) : Json → Json :=
  mapFields (renamed old new)

def inField (name : String) (change : Json → Json) : Json → Json :=
  mapFields (changed name change)

def reword (old new : String) : Json → Json
  | string text => string (if text = old then new else text)
  | json => json

theorem renamed_value (old new : String) (field : String × Json) :
    (renamed old new field).2 = field.2 := by
  rw [renamed]
  split <;> rfl

theorem changed_key (name : String) (change : Json → Json) (field : String × Json) :
    (changed name change field).1 = field.1 := by
  rw [changed]
  split
  · rename_i same
    exact same.symm
  · rfl

end Json

namespace Record

variable {names : List FieldName}

theorem read?_rename {old new : String}
    (alike : ∀ field ∈ names, field.goesBy new = field.goesBy old) (least : Nat) (json : Json) :
    read? names least (json.rename old new) = read? names least json := by
  cases json with
  | object fields =>
      have found : known names (fields.map (Json.renamed old new)) = known names fields := by
        rw [known, List.filterMap_map]
        refine List.filterMap_congr fun field _ => ?_
        by_cases same : field.1 = old
        · simp [Json.renamed, same, List.find?_congr alike]
        · simp [Json.renamed, same]
      rw [Json.rename, Json.mapFields, read?, read?, found]
  | _ => rfl

theorem known_cons (field : String × Json) (rest : Json.Fields) :
    known names (field :: rest) =
      ((names.find? (·.goesBy field.1)).map fun found => (found.name, field.2)).toList
        ++ known names rest := by
  rw [known, List.filterMap_cons]
  cases names.find? (·.goesBy field.1) <;> rfl

theorem withDefault?_changed {name owner other : String} {change : Json → Json} {Value : Type}
    (owned : (names.find? (·.goesBy name)).map (·.name) = some owner)
    (decode : Json → Option Value)
    (unseen : owner = other → ∀ json, decode (change json) = decode json) (fallback : Value)
    (fields : Json.Fields) :
    withDefault? { fields := known names (fields.map (Json.changed name change)) } other fallback
        decode =
      withDefault? { fields := known names fields } other fallback decode := by
  induction fields with
  | nil => rfl
  | cons field rest ih =>
      rw [List.map_cons, known_cons, known_cons, Json.changed_key]
      cases first : names.find? (·.goesBy field.1) with
      | none => exact ih
      | some found =>
          rw [withDefault?, withDefault?, Option.map_some, Option.map_some, Option.toList_some,
            Option.toList_some, List.singleton_append, List.singleton_append]
          by_cases asked : found.name = other
          · subst asked
            rw [Json.Fields.get?_cons_self, Json.Fields.get?_cons_self]
            by_cases same : field.1 = name
            · rw [← same, first] at owned
              rw [Json.changed, if_pos same]
              exact unseen (Option.some.inj owned).symm field.2
            · rw [Json.changed, if_neg same]
          · rw [Json.Fields.get?_cons_of_ne asked, Json.Fields.get?_cons_of_ne asked]
            exact ih

theorem bind_read?_inField {name : String} {change : Json → Json} {Value : Type}
    {ofRecord? : Record → Option Value}
    (unseen : ∀ fields, ofRecord? { fields := known names (fields.map (Json.changed name change)) } =
      ofRecord? { fields := known names fields })
    (least : Nat) (json : Json) :
    (read? names least (json.inField name change)).bind ofRecord? =
      (read? names least json).bind ofRecord? := by
  cases json with
  | object fields =>
      have keys : (known names (fields.map (Json.changed name change))).map (·.1) =
          (known names fields).map (·.1) := by
        rw [known, known, List.filterMap_map, List.map_filterMap, List.map_filterMap]
        refine List.filterMap_congr fun field _ => ?_
        simp [Json.changed_key, Function.comp_def]
      rw [Json.inField, Json.mapFields, read?, read?, keys]
      split
      · exact unseen fields
      · rfl
  | _ => rfl

end Record

namespace Json

@[simp]
theorem isReadable_string (text : String) : (string text).isReadable = true := rfl

@[simp]
theorem isReadable_bool (value : Bool) : (bool value).isReadable = true := rfl

theorem isReadable_object (fields : Fields) :
    (object fields).isReadable = fields.all (·.2.isReadable) := by
  have readable : (settleFields? fields).isSome = fields.all (·.2.isReadable) := by
    induction fields with
    | nil => rfl
    | cons field rest ih =>
        rw [List.all_cons, ← ih, isReadable, settleFields?]
        cases field.2.settle? <;> cases settleFields? rest <;> rfl
  rw [isReadable, settle?, Option.isSome_map, readable]

theorem isReadable_array (items : List Json) :
    (array items).isReadable = items.all (·.isReadable) := by
  have readable : (settleItems? items).isSome = items.all (·.isReadable) := by
    induction items with
    | nil => rfl
    | cons item rest ih =>
        rw [List.all_cons, ← ih, isReadable, settleItems?]
        cases item.settle? <;> cases settleItems? rest <;> rfl
  rw [isReadable, settle?, Option.isSome_map, readable]

theorem isReadable_map {change : String × Json → String × Json}
    (kept : ∀ field, (change field).2.isReadable = field.2.isReadable) (fields : Fields) :
    (object (fields.map change)).isReadable = (object fields).isReadable := by
  simp [isReadable_object, List.all_map, Function.comp_def, kept]

theorem isReadable_reword (old new : String) (json : Json) :
    (json.reword old new).isReadable = json.isReadable := by
  cases json <;> rfl

theorem isReadable_of_tagged? {json : Json} {numbered : List String} {tagged : String × Json}
    (found : json.tagged? numbered = some tagged) : json.isReadable := by
  unfold tagged? at found
  by_contra unreadable
  simp [unreadable] at found

theorem tagged?_cons {kind : String} {rest : Fields}
    (readable : ∀ field ∈ rest, field.2.isReadable) (untyped : ∀ field ∈ rest, field.1 ≠ "type")
    (numbered : List String) :
    (object (("type", string kind) :: rest)).tagged? numbered = some (kind, object rest) := by
  have tags : rest.filter (·.1 == "type") = [] := by
    simpa [List.filter_eq_nil_iff] using untyped
  have others : rest.filter (·.1 != "type") = rest := by
    simpa [List.filter_eq_self] using untyped
  have all : (object (("type", string kind) :: rest)).isReadable := by
    rw [isReadable_object, List.all_cons, List.all_eq_true.mpr readable]
    rfl
  simp [tagged?, all, tags, others]

theorem tagged?_rename {old new : String} (oldOther : old ≠ "type") (newOther : new ≠ "type")
    (numbered : List String) (fields : Fields) :
    ((object fields).rename old new).tagged? numbered =
      ((object fields).tagged? numbered).map fun tagged => (tagged.1, tagged.2.rename old new) := by
  have readable := isReadable_map (fun field => by rw [renamed_value old new field]) fields
  have typed (field : String × Json) :
      ((renamed old new field).1 == "type") = (field.1 == "type") := by
    rw [renamed]
    split
    · rename_i same
      simp [same, oldOther, newOther]
    · rfl
  have kept : ∀ field ∈ fields.filter (·.1 == "type"), renamed old new field = field := by
    intro field member
    have tag : field.1 = "type" := beq_iff_eq.mp (List.mem_filter.mp member).2
    rw [renamed, if_neg (tag ▸ oldOther.symm)]
  have tags : (fields.map (renamed old new)).filter (·.1 == "type") =
      fields.filter (·.1 == "type") := by
    simp only [List.filter_map, Function.comp_def, typed]
    exact (List.map_congr_left kept).trans (List.map_id _)
  have others : (fields.map (renamed old new)).filter (·.1 != "type") =
      (fields.filter (·.1 != "type")).map (renamed old new) := by
    simp only [List.filter_map, Function.comp_def, bne, typed]
  simp only [rename, mapFields, tagged?, readable, tags, others]
  split
  · split
    · simp [Function.comp_def]
    · rfl
  · rfl

theorem tagged?_reword (old new : String) (fields : Fields) :
    ((object fields).inField "type" (reword old new)).tagged? [] =
      ((object fields).tagged? []).map fun tagged =>
        (if tagged.1 = old then new else tagged.1, tagged.2) := by
  have value (field : String × Json) :
      (changed "type" (reword old new) field).2.isReadable = field.2.isReadable := by
    rw [changed]
    split
    · exact isReadable_reword old new field.2
    · rfl
  have readable := isReadable_map value fields
  have tags : (fields.map (changed "type" (reword old new))).filter (·.1 == "type") =
      (fields.filter (·.1 == "type")).map fun field => (field.1, field.2.reword old new) := by
    simp only [List.filter_map, Function.comp_def, changed_key]
    refine List.map_congr_left fun field member => ?_
    have tag : field.1 = "type" := beq_iff_eq.mp (List.mem_filter.mp member).2
    rw [changed, if_pos tag, tag]
  have others : (fields.map (changed "type" (reword old new))).filter (·.1 != "type") =
      fields.filter (·.1 != "type") := by
    simp only [List.filter_map, Function.comp_def, changed_key]
    refine (List.map_congr_left fun field member => ?_).trans (List.map_id _)
    have other : field.1 ≠ "type" := bne_iff_ne.mp (List.mem_filter.mp member).2
    rw [changed, if_neg other, id]
  simp only [inField, mapFields, tagged?, readable, tags, others]
  split
  · cases fields.filter (·.1 == "type") with
    | nil => rfl
    | cons field rest =>
        cases rest with
        | nil =>
            obtain ⟨key, tag⟩ := field
            cases tag <;> simp [reword]
        | cons => rfl
  · rfl

end Json

end Chartbook
