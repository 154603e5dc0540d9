import Chartbook.Json.Basic

/-!
Free-form data. Main statement: a value that is readable throughout, with the keys of every object in
order and distinct, is settled as it stands.
-/

namespace Chartbook.Json

def Fields.keys (fields : Fields) : List String :=
  fields.map (·.1)

/-- Free-form data as a program holds it: nothing unreadable, and every object a sorted map. -/
inductive Settled : Json → Prop
  | null : Settled null
  | bool (value : Bool) : Settled (bool value)
  | int (value : Int) : Settled (int value)
  | float (value : Double) : Settled (float value)
  | string (text : String) : Settled (string text)
  | array (items : List Json) (all : ∀ item ∈ items, Settled item) : Settled (array items)
  | object (fields : Fields) (sorted : fields.keys.Pairwise (· < ·))
      (all : ∀ field ∈ fields, Settled field.2) : Settled (object fields)

theorem settleItems?_eq {items : List Json} (all : ∀ item ∈ items, settle? item = some item) :
    settleItems? items = some items := by
  induction items with
  | nil => rfl
  | cons item rest ih =>
      have first := all item List.mem_cons_self
      have later := ih fun item member => all item (List.mem_cons_of_mem _ member)
      simp [settleItems?, first, later]

theorem settleFields?_eq {fields : Fields}
    (all : ∀ field ∈ fields, settle? field.2 = some field.2) :
    settleFields? fields = some fields := by
  induction fields with
  | nil => rfl
  | cons field rest ih =>
      have first := all field List.mem_cons_self
      have later := ih fun field member => all field (List.mem_cons_of_mem _ member)
      simp [settleFields?, first, later]

theorem Fields.insert_last {fields : Fields} {key : String} (value : Json)
    (beyond : ∀ earlier ∈ fields.keys, earlier < key) :
    Fields.insert key value fields = fields ++ [(key, value)] := by
  induction fields with
  | nil => rfl
  | cons first rest ih =>
      have least : first.1 < key := beyond first.1 List.mem_cons_self
      have inserted := ih fun earlier member => beyond earlier (List.mem_cons_of_mem _ member)
      rw [Fields.insert, if_neg (String.lt_asymm least), if_neg (String.ne_of_lt least).symm,
        inserted]
      rfl

theorem foldl_insert_sorted (before : Fields) {fields : Fields}
    (sorted : (before ++ fields).keys.Pairwise (· < ·)) :
    fields.foldl (fun sorted field => Fields.insert field.1 field.2 sorted) before =
      before ++ fields := by
  induction fields generalizing before with
  | nil => simp
  | cons field rest ih =>
      have beyond : ∀ earlier ∈ before.keys, earlier < field.1 := by
        intro earlier member
        rw [Fields.keys, List.map_append] at sorted
        exact (List.pairwise_append.mp sorted).2.2 earlier member field.1 List.mem_cons_self
      have inserted := Fields.insert_last field.2 beyond
      rw [List.foldl_cons, inserted, ih (before ++ [(field.1, field.2)]) (by simpa using sorted)]
      simp

theorem Settled.settle? {json : Json} (settled : json.Settled) : json.settle? = some json := by
  induction settled with
  | array items _ all => rw [Json.settle?, settleItems?_eq all]; rfl
  | object fields sorted _ all =>
      rw [Json.settle?, settleFields?_eq all, Option.map_some, foldl_insert_sorted [] sorted]
      rfl
  | null | bool | int | float | string => rfl

theorem Settled.isReadable {json : Json} (settled : json.Settled) : json.isReadable := by
  rw [Json.isReadable, settled.settle?]
  rfl

end Chartbook.Json
