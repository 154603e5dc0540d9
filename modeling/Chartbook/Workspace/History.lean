import Chartbook.FlowText.Reader
import Chartbook.Json.Record

/-!
Version history: the most recent snapshots of a text, oldest first.
-/

namespace Chartbook

structure VersionEntry where
  id : String
  label : String
  timestamp : String
  text : String
  nodeCount : Nat
  edgeCount : Nat
  deriving DecidableEq, Repr, Inhabited

namespace VersionEntry

def take (id label timestamp text : String) : VersionEntry :=
  { id, label, timestamp, text
    nodeCount := (Graph.ofText text).nodes.length
    edgeCount := (Graph.ofText text).edges.length }

def fieldNames : List FieldName :=
  [Record.plain "id", Record.plain "label", Record.plain "timestamp", Record.plain "text",
    Record.plain "nodeCount", Record.plain "edgeCount"]

def toJson (entry : VersionEntry) : Json :=
  .object [("id", .string entry.id), ("label", .string entry.label),
    ("timestamp", .string entry.timestamp), ("text", .string entry.text),
    ("nodeCount", .nat entry.nodeCount), ("edgeCount", .nat entry.edgeCount)]

def ofRecord? (record : Record) : Option VersionEntry := do
  let id ← record.required? "id" Json.string?
  let label ← record.required? "label" Json.string?
  let timestamp ← record.required? "timestamp" Json.string?
  let text ← record.required? "text" Json.string?
  let nodeCount ← record.required? "nodeCount" Json.nat64?
  let edgeCount ← record.required? "edgeCount" Json.nat64?
  some { id, label, timestamp, text, nodeCount, edgeCount }

def ofJson? (json : Json) : Option VersionEntry :=
  (Record.read? fieldNames 6 json).bind ofRecord?

end VersionEntry

structure History where
  entries : List VersionEntry
  cap : Nat
  cap_pos : 0 < cap

namespace History

/-- Whether a history can be made at all. Room for every entry is set aside at once, fourteen words
of eight bytes each, and less than half of all addresses can be set aside. -/
def fits (cap : Nat) : Bool :=
  max cap 1 * (14 * 8) < Nat.pow 2 63

/-- An empty history has room for one entry at least. -/
def withCap (cap : Nat) : History :=
  { entries := [], cap := max cap 1, cap_pos := by omega }

def lastOf (count : Nat) (entries : List VersionEntry) : List VersionEntry :=
  entries.drop (entries.length - count)

def push (history : History) (entry : VersionEntry) : History :=
  { history with entries := lastOf (history.cap - 1) history.entries ++ [entry] }

def find? (history : History) (id : String) : Option VersionEntry :=
  history.entries.find? (·.id == id)

def latest? (history : History) : Option VersionEntry :=
  history.entries.getLast?

def clear (history : History) : History :=
  { history with entries := [] }

end History

end Chartbook
