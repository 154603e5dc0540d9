import Chartbook.Document.Basic
import Chartbook.Json.Reader
import Chartbook.Report
import Chartbook.Service.Http
import Chartbook.Service.Path
import Chartbook.Settings.App

/-!
The document backend and the suggestion service behind it.
-/

namespace Chartbook

structure Backend where
  baseUrl : String
  token : Option String
  deriving DecidableEq, Repr

namespace Backend

def ofSettings (settings : AppSettings) : Backend :=
  { baseUrl := settings.baseUrl, token := settings.token }

def url (backend : Backend) (path : String) : String :=
  backend.baseUrl ++ path

def request (backend : Backend) (method : Http.Method) (path : String) (body : Option Json) :
    Http.Request :=
  { method
    url := backend.url path
    headers := backend.token.toList.map Http.bearer ++ Http.jsonHeaders body
    body }

def errorMessage (body : String) : String :=
  (((Json.readSettled? body).bind (·.get? "error")).bind Json.string?).getD (Text.trimmed body)

def readReply (decode : Json → Option α) :
    Except String Http.Response → Except ServiceError α
  | .error text => .error (.request text)
  | .ok response =>
      if 200 ≤ response.status && response.status < 300 then
        let text := if Text.blank response.body then "null" else response.body
        match (Json.read? text).bind decode with
        | some value => .ok value
        | none => .error (.decode Json.readFailure)
      else
        .error (.status response.status (errorMessage response.body))

def exchange (backend : Backend) (method : Http.Method) (path : String) (body : Option Json)
    (decode : Json → Option α) : HttpDialogue (Except ServiceError α) :=
  .ask (backend.request method path body) fun reply => .done (readReply decode reply)

def get (backend : Backend) (path : String) (decode : Json → Option α) :
    HttpDialogue (Except ServiceError α) :=
  backend.exchange .get path none decode

def post (backend : Backend) (path : String) (body : Json) (decode : Json → Option α) :
    HttpDialogue (Except ServiceError α) :=
  backend.exchange .post path (some body) decode

def delete (backend : Backend) (path : String) : HttpDialogue (Except ServiceError Unit) :=
  backend.exchange .delete path none fun json => (json.settle?).map fun _ => ()

/-! Documents. -/

def asStorage (result : Except ServiceError α) : Except StorageError α :=
  match result with
  | .ok value => .ok value
  | .error error => .error (.backend error)

def listDocuments (backend : Backend) :
    HttpDialogue (Except StorageError (List DocumentSummary)) :=
  (backend.get "/list" (Json.listOf? DocumentSummary.ofJson?)).bind fun result =>
    .done ((asStorage result).map DocumentSummary.newestFirst)

def loadPath (id : String) : String :=
  Service.pathOf ["load", id]

def deletePath (id : String) : String :=
  Service.pathOf ["delete", id]

def loadDocument (backend : Backend) (id : String) :
    HttpDialogue (Except StorageError Document) :=
  (backend.get (loadPath id) Document.ofJson?).bind fun result =>
    match result with
    | .error (.status 404 _) => .done (.error (.notFound id))
    | other => .done (asStorage other)

structure SaveReply where
  id : String
  title : Option String
  updatedAt : Option String
  deriving DecidableEq, Repr

namespace SaveReply

def fieldNames : List FieldName :=
  [Record.plain "id", Record.plain "title", Record.plain "updatedAt"]

def ofRecord? (record : Record) : Option SaveReply := do
  let id ← record.required? "id" Json.string?
  let title ← record.optional? "title" Json.string?
  let updatedAt ← record.optional? "updatedAt" Json.string?
  some { id, title, updatedAt }

def ofJson? (json : Json) : Option SaveReply :=
  (Record.read? fieldNames 1 json).bind ofRecord?

end SaveReply

/-- The backend wants an id, so that a new document gets the fresh one. -/
def saveDocument (backend : Backend) (request : SaveRequest) (freshId stamp : String) :
    HttpDialogue (Except StorageError Document) :=
  let sent : SaveRequest :=
    { request with id := some (request.idOr freshId), title := request.properTitle }
  (backend.post "/save" sent.toJson SaveReply.ofJson?).bind fun result =>
    .done ((asStorage result).map fun reply =>
      { id := reply.id, title := reply.title.getD sent.title, text := sent.text
        tags := sent.tags, updatedAt := reply.updatedAt.getD stamp })

def deleteDocument (backend : Backend) (id : String) : HttpDialogue (Except StorageError Unit) :=
  (backend.delete (deletePath id)).bind fun result => .done (asStorage result)

/-! Suggestions. -/

def suggest (backend : Backend) (freshId : String) (request : SuggestionRequest) :
    HttpDialogue (Except SuggestError Suggestion) :=
  if Text.blank request.message then
    .done (.error .emptyMessage)
  else
    (backend.post "/agent/chat" request.toJson (Suggestion.ofJson? freshId)).bind fun result =>
      match result with
      | .ok suggestion => .done (.ok suggestion)
      | .error error => .done (.error (.service error))

end Backend

end Chartbook
