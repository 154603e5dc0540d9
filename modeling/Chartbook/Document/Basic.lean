import Chartbook.Json.Record
import Chartbook.Text.Blank

/-!
Stored documents, their index, and requests to save them.
-/

namespace Chartbook

structure Document where
  id : String
  title : String
  text : String
  tags : List String
  updatedAt : String
  deriving DecidableEq, Repr, Inhabited

structure DocumentSummary where
  id : String
  title : String
  tags : List String
  updatedAt : String
  deriving DecidableEq, Repr, Inhabited

structure SaveRequest where
  id : Option String
  title : String
  text : String
  tags : List String
  deriving DecidableEq, Repr, Inhabited

namespace Document

def summary (document : Document) : DocumentSummary :=
  { id := document.id, title := document.title, tags := document.tags
    updatedAt := document.updatedAt }

def fieldNames : List FieldName :=
  [Record.plain "id", Record.plain "title", { name := "markdown", aliases := ["text"] },
    Record.plain "tags", Record.plain "updatedAt"]

def toJson (document : Document) : Json :=
  .object [("id", .string document.id), ("title", .string document.title),
    ("markdown", .string document.text), ("tags", .strings document.tags),
    ("updatedAt", .string document.updatedAt)]

def ofRecord? (record : Record) : Option Document := do
  let id ← record.required? "id" Json.string?
  let title ← record.withDefault? "title" "" Json.string?
  let text ← record.withDefault? "markdown" "" Json.string?
  let tags ← record.withDefault? "tags" [] Json.strings?
  let updatedAt ← record.withDefault? "updatedAt" "" Json.string?
  some { id, title, text, tags, updatedAt }

def ofJson? (json : Json) : Option Document :=
  (Record.read? fieldNames 1 json).bind ofRecord?

end Document

namespace DocumentSummary

/-- Later stamps come first, compared as texts; of equal stamps the lesser id. -/
def comesBefore (left right : DocumentSummary) : Bool :=
  if left.updatedAt = right.updatedAt then left.id ≤ right.id
  else right.updatedAt < left.updatedAt

def newestFirst (index : List DocumentSummary) : List DocumentSummary :=
  index.mergeSort comesBefore

def fieldNames : List FieldName :=
  [Record.plain "id", Record.plain "title", Record.plain "tags", Record.plain "updatedAt"]

def toJson (summary : DocumentSummary) : Json :=
  .object [("id", .string summary.id), ("title", .string summary.title),
    ("tags", .strings summary.tags), ("updatedAt", .string summary.updatedAt)]

def ofRecord? (record : Record) : Option DocumentSummary := do
  let id ← record.required? "id" Json.string?
  let title ← record.withDefault? "title" "" Json.string?
  let tags ← record.withDefault? "tags" [] Json.strings?
  let updatedAt ← record.withDefault? "updatedAt" "" Json.string?
  some { id, title, tags, updatedAt }

def ofJson? (json : Json) : Option DocumentSummary :=
  (Record.read? fieldNames 1 json).bind ofRecord?

end DocumentSummary

namespace SaveRequest

def idOr (request : SaveRequest) (freshId : String) : String :=
  (request.id.filter fun id => !Text.blank id).getD freshId

def properTitle (request : SaveRequest) : String :=
  (Text.nonBlank? request.title).getD "Untitled"

def fieldNames : List FieldName :=
  [Record.plain "id", Record.plain "title", Record.plain "markdown", Record.plain "tags"]

def toJson (request : SaveRequest) : Json :=
  .object (Json.whenSome "id" .string request.id ++ [("title", .string request.title),
    ("markdown", .string request.text), ("tags", .strings request.tags)])

def ofRecord? (record : Record) : Option SaveRequest := do
  let id ← record.optional? "id" Json.string?
  let title ← record.required? "title" Json.string?
  let text ← record.required? "markdown" Json.string?
  let tags ← record.withDefault? "tags" [] Json.strings?
  some { id, title, text, tags }

def ofJson? (json : Json) : Option SaveRequest :=
  (Record.read? fieldNames 3 json).bind ofRecord?

end SaveRequest

end Chartbook
