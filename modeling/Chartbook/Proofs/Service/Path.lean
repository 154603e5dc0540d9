import Chartbook.Json.Reader
import Chartbook.Service.Path
import Chartbook.Text.Utf8

/-!
What a path keeps of an id. Main statement: the path of a document leads along its route to exactly the
ids that are not dots alone and have no character that vanishes, and to each by a path of its own.
-/

namespace Chartbook.Service

/-- The bytes that a segment stands for: a percent sign with two hexadecimal digits is one byte. -/
def octets : List Char → List UInt8
  | '%' :: first :: second :: rest =>
      match Json.hexDigit? first, Json.hexDigit? second with
      | some high, some low => UInt8.ofNat (high * 16 + low) :: octets rest
      | _, _ => String.utf8EncodeChar '%' ++ octets (first :: second :: rest)
  | character :: rest => String.utf8EncodeChar character ++ octets rest
  | [] => []

def decoded? (segment : String) : Option String :=
  String.fromUTF8? (octets segment.toList).toByteArray

def escaped (text : String) : String :=
  String.ofList (text.toList.flatMap escapeCharacter)

def Closed (segment : String) : Prop :=
  ∀ character ∈ segment.toList, character ∉ ['/', '?', '#']

/-- The path leads along the route to the id. -/
def Leads (path route id : String) : Prop :=
  ∃ segment, path = "/" ++ route ++ "/" ++ segment ∧ Closed segment ∧ decoded? segment = some id

/-- Nothing of the id is skipped in a path. -/
def Spelled (id : String) : Prop :=
  id ≠ "." ∧ id ≠ ".." ∧ ¬id.toList.any vanishes
  deriving Decidable

theorem hexDigit?_upperHex : ∀ digit < 16, Json.hexDigit? (upperHex digit) = some digit := by
  decide

theorem upperHex_closed : ∀ digit < 16, upperHex digit ∉ ['/', '?', '#'] := by
  decide

theorem octets_escapeByte (byte : UInt8) (rest : List Char) :
    octets (escapeByte byte ++ rest) = byte :: octets rest := by
  have small : byte.toNat < 256 := byte.toNat_lt
  have high := hexDigit?_upperHex (byte.toNat / 16) (by omega)
  have low := hexDigit?_upperHex (byte.toNat % 16) (by omega)
  have whole : byte.toNat / 16 * 16 + byte.toNat % 16 = byte.toNat := Nat.div_add_mod' _ _
  rw [escapeByte, List.cons_append, List.cons_append, List.cons_append, List.nil_append, octets,
    high, low]
  dsimp only
  rw [whole, UInt8.ofNat_toNat]

theorem octets_escapeBytes (bytes : List UInt8) (rest : List Char) :
    octets (bytes.flatMap escapeByte ++ rest) = bytes ++ octets rest := by
  induction bytes with
  | nil => rfl
  | cons byte bytes ih =>
      rw [List.flatMap_cons, List.append_assoc, octets_escapeByte, ih, List.cons_append]

theorem octets_cons {character : Char} (plain : character ≠ '%') (rest : List Char) :
    octets (character :: rest) = String.utf8EncodeChar character ++ octets rest := by
  rw [octets.eq_def]
  split
  · rename_i same
    exact absurd (List.cons.inj same).1 plain
  · rename_i same
    obtain ⟨rfl, rfl⟩ := List.cons.inj same
    rfl
  · rename_i same
    cases same

theorem octets_escapeCharacter (character : Char) (rest : List Char) :
    octets (escapeCharacter character ++ rest) =
      String.utf8EncodeChar character ++ octets rest := by
  rw [escapeCharacter]
  split
  · exact octets_escapeBytes _ rest
  · rename_i unreserved
    have plain : character ≠ '%' := by
      rintro rfl
      exact unreserved (by decide)
    exact octets_cons plain rest

theorem octets_escaped (characters : List Char) :
    octets (characters.flatMap escapeCharacter) = characters.flatMap String.utf8EncodeChar := by
  induction characters with
  | nil => rfl
  | cons character rest ih =>
      rw [List.flatMap_cons, octets_escapeCharacter, ih, List.flatMap_cons]

theorem decoded?_escaped (text : String) : decoded? (escaped text) = some text := by
  have bytes : (octets (escaped text).toList).toByteArray = text.toByteArray := by
    calc (octets (escaped text).toList).toByteArray
      _ = (text.toList.flatMap String.utf8EncodeChar).toByteArray := by
          rw [escaped, String.toList_ofList, octets_escaped]
      _ = (String.ofList text.toList).toByteArray := String.toByteArray_ofList.symm
      _ = text.toByteArray := by rw [String.ofList_toList]
  rw [decoded?, bytes, String.fromUTF8?, dif_pos text.isValidUTF8]
  rfl

theorem closed_escaped (text : String) : Closed (escaped text) := by
  intro character member
  rw [escaped, String.toList_ofList] at member
  obtain ⟨source, _, member⟩ := List.mem_flatMap.mp member
  rw [escapeCharacter] at member
  split at member
  · obtain ⟨byte, _, member⟩ := List.mem_flatMap.mp member
    have small : byte.toNat < 256 := byte.toNat_lt
    simp only [escapeByte, List.mem_cons, List.not_mem_nil, or_false] at member
    rcases member with rfl | rfl | rfl
    · decide
    · exact upperHex_closed _ (by omega)
    · exact upperHex_closed _ (by omega)
  · rename_i unreserved
    obtain rfl := List.mem_singleton.mp member
    intro marked
    simp only [List.mem_cons, List.not_mem_nil, or_false] at marked
    rcases marked with rfl | rfl | rfl <;> exact unreserved (by decide)

theorem Leads.unique {path route id other : String} (leads : Leads path route id)
    (leadsAlso : Leads path route other) : id = other := by
  obtain ⟨segment, rfl, _, decoded⟩ := leads
  obtain ⟨again, same, _, decodedAgain⟩ := leadsAlso
  rw [String.append_right_inj] at same
  rw [← same, decoded] at decodedAgain
  exact Option.some.inj decodedAgain

def routes : List String :=
  ["load", "delete"]

variable {route : String}

theorem pathOf_id (known : route ∈ routes) (id : String) :
    pathOf [route, id] = String.ofList (append ('/' :: route.toList) id.toList) := by
  simp only [routes, List.mem_cons, List.not_mem_nil, or_false] at known
  rcases known with rfl | rfl <;> rfl

theorem pathOf_dots (known : route ∈ routes) {id : String} (dots : id = "." ∨ id = "..") :
    pathOf [route, id] = "/" ++ route := by
  simp only [routes, List.mem_cons, List.not_mem_nil, or_false] at known
  rcases known with rfl | rfl <;> rcases dots with rfl | rfl <;> decide

/-- What is left of an id when tabs and line breaks vanish. -/
def visible (id : String) : String :=
  String.ofList (id.toList.filter fun character => !vanishes character)

theorem visible_eq_self_iff (id : String) :
    visible id = id ↔ ¬id.toList.any vanishes := by
  rw [visible, ← String.toList_inj, String.toList_ofList, List.filter_eq_self]
  simp

theorem pathOf_undotted (known : route ∈ routes) {id : String} (one : id ≠ ".") (two : id ≠ "..") :
    pathOf [route, id] =
      if visible id = "." then "/" ++ route ++ "/"
      else if visible id = ".." then "/"
      else "/" ++ route ++ "/" ++ escaped (visible id) := by
  have dots (text : String) (characters : List Char) :
      text.toList = characters ↔ text = String.ofList characters := by
    rw [← String.toList_inj, String.toList_ofList]
  have base : '/' :: route.toList ≠ ['/'] ∧ parent ('/' :: route.toList ++ ['/']) = ['/'] := by
    simp only [routes, List.mem_cons, List.not_mem_nil, or_false] at known
    rcases known with rfl | rfl <;> decide
  have kept (characters : List Char) :
      (id.toList.filter fun character => !vanishes character) = characters ↔
        visible id = String.ofList characters := by
    rw [visible, String.ofList_inj]
  have slashed : String.ofList ('/' :: route.toList ++ ['/']) = "/" ++ route ++ "/" := by
    simp [← String.toList_inj]
  rw [pathOf_id known, append, if_neg (by simp [dots, one, two])]
  dsimp only
  rw [if_neg base.1, base.2]
  simp only [kept]
  split
  · exact slashed
  · split
    · rfl
    · rw [String.ofList_append, slashed, escaped, visible, String.toList_ofList]

theorem slash_length : "/".length = 1 := rfl

theorem visible_of_leads (known : route ∈ routes) {id : String} (one : id ≠ ".") (two : id ≠ "..")
    (leads : Leads (pathOf [route, id]) route id) : visible id = id := by
  obtain ⟨segment, path, _, decoded⟩ := leads
  rw [pathOf_undotted known one two] at path
  split at path
  · rename_i dot
    have empty : segment = "" := by
      have sizes := congrArg String.length path
      simp only [String.length_append] at sizes
      exact String.length_eq_zero_iff.mp (by omega)
    have nothing : id = "" := by
      rw [empty] at decoded
      exact (Option.some.inj decoded).symm
    rw [nothing] at dot
    exact absurd dot (by decide)
  · split at path
    · have sizes := congrArg String.length path
      simp only [String.length_append, slash_length] at sizes
      omega
    · rw [String.append_right_inj] at path
      rw [← path, decoded?_escaped] at decoded
      exact Option.some.inj decoded

theorem leads_iff (known : route ∈ routes) (id : String) :
    Leads (pathOf [route, id]) route id ↔ Spelled id := by
  constructor
  · intro leads
    have undotted : ¬(id = "." ∨ id = "..") := by
      intro dots
      obtain ⟨segment, path, _, _⟩ := leads
      have sizes := congrArg String.length path
      rw [pathOf_dots known dots] at sizes
      simp only [String.length_append, slash_length] at sizes
      omega
    obtain ⟨one, two⟩ := not_or.mp undotted
    have whole := visible_of_leads known one two leads
    exact ⟨one, two, (visible_eq_self_iff id).mp whole⟩
  · rintro ⟨one, two, stays⟩
    have whole : visible id = id := (visible_eq_self_iff id).mpr stays
    refine ⟨escaped id, ?_, closed_escaped id, decoded?_escaped id⟩
    rw [pathOf_undotted known one two, whole, if_neg one, if_neg two]

/-- The path to a document leads along its route to the id exactly if the id is spelled out: it is not
dots alone, and it holds no tab and no line break. Such ids have paths of their own. Any other that is
not dots alone leads to what is left of it, if that is spelled out. -/
theorem route_to_id_iff (route : String) (known : route ∈ routes) (id : String) :
    (Leads (pathOf [route, id]) route id ↔ Spelled id) ∧
    (Spelled id → ∀ other, Spelled other → pathOf [route, other] = pathOf [route, id] →
      other = id) ∧
    (id ≠ "." → id ≠ ".." → Spelled (visible id) →
      Leads (pathOf [route, id]) route (visible id)) := by
  refine ⟨leads_iff known id, ?_, ?_⟩
  · intro spelled other spelledAlso same
    have leads := (leads_iff known id).mpr spelled
    have leadsAlso := (leads_iff known other).mpr spelledAlso
    rw [same] at leadsAlso
    exact leadsAlso.unique leads
  · rintro one two ⟨oneLeft, twoLeft, _⟩
    refine ⟨escaped (visible id), ?_, closed_escaped _, decoded?_escaped _⟩
    rw [pathOf_undotted known one two, if_neg oneLeft, if_neg twoLeft]

theorem marks_in_id_escaped :
    "delete" ∈ routes ∧ Spelled "50%/?#é" ∧
    pathOf ["delete", "50%/?#é"] = "/delete/50%25%2F%3F%23%C3%A9" ∧
    Leads (pathOf ["delete", "50%/?#é"]) "delete" "50%/?#é" := by
  have spelled : Spelled "50%/?#é" := by decide +kernel
  refine ⟨by decide, spelled, by decide +kernel, ?_⟩
  exact (route_to_id_iff "delete" (by decide) _).1.mpr spelled

/-- A tab in an id is lost, and the path leads to another document. -/
theorem tab_in_id_lost :
    pathOf ["delete", "a\tb"] = pathOf ["delete", "ab"] ∧
    ¬Leads (pathOf ["delete", "a\tb"]) "delete" "a\tb" := by
  refine ⟨by decide +kernel, ?_⟩
  rw [leads_iff (by decide)]
  decide +kernel

end Chartbook.Service
