import Chartbook.Document.Shelf
import Chartbook.Workspace.Action

/-!
Workspaces that share one shelf, among other clients of the shelf. Storage calls that a workspace
makes may be out of order.
-/

namespace Chartbook

inductive StorageCall where
  | list
  | load
  | save
  | delete
  deriving DecidableEq, Repr

inductive Command where
  | act (action : Action)
  | remoteChange (id : String)
  | notice (notice : Notice)
  | refresh
  | load (id : String)
  | save
  | delete (id : String)

structure Studio where
  shelf : Shelf
  outages : List StorageCall

namespace Studio

def answer (studio : Studio) (call : StorageCall) (result : Except StorageError α) :
    Except StorageError α :=
  if call ∈ studio.outages then .error (.backend (.request "storage call failed")) else result

def listed (studio : Studio) : Except StorageError (List DocumentSummary) :=
  studio.answer .list (.ok studio.shelf.index)

def loaded (studio : Studio) (id : String) : Except StorageError Document :=
  studio.answer .load (studio.shelf.load id)

def saved (studio : Studio) (moment : Moment) (request : SaveRequest) :
    Except StorageError Document × Studio :=
  if .save ∈ studio.outages then
    (.error (.backend (.request "storage call failed")), studio)
  else
    let (document, shelf) := studio.shelf.save request moment.documentId moment.stamp
    (.ok document, { studio with shelf })

def deleted (studio : Studio) (id : String) : Except StorageError Unit × Studio :=
  if .delete ∈ studio.outages then
    (.error (.backend (.request "storage call failed")), studio)
  else
    (.ok (), { studio with shelf := studio.shelf.remove id })

/-- The action that a command comes to, with the answers of the storage, and what it does to the
storage. -/
def resolve (studio : Studio) (workspace : Workspace) (moment : Moment) :
    Command → Action × Studio
  | .act action => (action, studio)
  | .remoteChange id => (.remoteChange id (studio.loaded id), studio)
  | .notice (.documentChanged id) =>
      (.notice (.documentChanged id) (studio.loaded id), studio)
  | .notice notice => (.notice notice (studio.loaded ""), studio)
  | .refresh => (.refresh studio.listed, studio)
  | .load id => (.load (studio.loaded id), studio)
  | .save =>
      let (result, after) := studio.saved moment workspace.saveRequest
      (.save result after.listed, after)
  | .delete id =>
      let (result, after) := studio.deleted id
      (.delete id result after.listed, after)

def command (studio : Studio) (workspace : Workspace) (moment : Moment) (command : Command) :
    Response × Workspace × Studio :=
  let (action, after) := studio.resolve workspace moment command
  let (response, next) := workspace.perform moment action
  (response, next, after)

end Studio

end Chartbook
