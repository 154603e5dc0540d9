import Chartbook.Document.Basic
import Chartbook.Report

/-!
Storage in memory: documents under their ids.
-/

namespace Chartbook

structure Shelf where
  entries : List (String × Document)
  deriving DecidableEq, Repr

namespace Shelf

def empty : Shelf :=
  { entries := [] }

def find? (shelf : Shelf) (id : String) : Option Document :=
  (shelf.entries.find? (·.1 == id)).map (·.2)

def remove (shelf : Shelf) (id : String) : Shelf :=
  { entries := shelf.entries.filter fun entry => entry.1 != id }

def insert (shelf : Shelf) (id : String) (document : Document) : Shelf :=
  { entries := (shelf.remove id).entries ++ [(id, document)] }

def ofDocuments (documents : List Document) : Shelf :=
  documents.foldl (fun shelf document => shelf.insert document.id document) empty

def index (shelf : Shelf) : List DocumentSummary :=
  DocumentSummary.newestFirst (shelf.entries.map fun entry => entry.2.summary)

def load (shelf : Shelf) (id : String) : Except StorageError Document :=
  match shelf.find? id with
  | some document => .ok document
  | none => .error (.notFound id)

def save (shelf : Shelf) (request : SaveRequest) (freshId stamp : String) : Document × Shelf :=
  let document : Document :=
    { id := request.idOr freshId, title := request.properTitle, text := request.text
      tags := request.tags, updatedAt := stamp }
  (document, shelf.insert document.id document)

end Shelf

end Chartbook
