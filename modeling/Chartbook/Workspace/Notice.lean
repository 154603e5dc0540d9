import Chartbook.Json.Record

/-!
Notices from the realtime channel: the connection, and documents that others changed.
-/

namespace Chartbook

inductive Notice where
  | connected
  | disconnected
  | documentChanged (documentId : String)
  deriving DecidableEq, Repr

namespace Notice

def documentFields : List FieldName :=
  [{ name := "documentId", aliases := ["noteId"] }]

def toJson : Notice → Json
  | connected => .object [("type", .string "connected")]
  | disconnected => .object [("type", .string "disconnected")]
  | documentChanged documentId =>
      .object [("type", .string "documentChanged"), ("documentId", .string documentId)]

def ofDocument? (record : Record) : Option Notice := do
  let documentId ← record.required? "documentId" Json.string?
  some (.documentChanged documentId)

def ofKind? (kind : String) (rest : Json) : Option Notice :=
  match kind with
  | "connected" => if rest.isBare then some connected else none
  | "disconnected" => if rest.isBare then some disconnected else none
  | "documentChanged" => (Record.read? documentFields 1 rest).bind ofDocument?
  | "noteUpdated" => (Record.read? documentFields 1 rest).bind ofDocument?
  | _ => none

def ofJson? (json : Json) : Option Notice :=
  (json.tagged? []).bind fun (kind, rest) => ofKind? kind rest

end Notice

end Chartbook
