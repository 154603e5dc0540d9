import Chartbook.Workspace.Basic

/-!
Actions on a workspace, each with what storage and suggester answered, and runs of actions.
-/

namespace Chartbook

inductive Action where
  | setText (text : String) (source : ChangeSource)
  | canvasEdit (graph : Graph)
  | clearExpiredHighlight
  | setDirection (direction : Direction)
  | select (selection : Selection)
  | setTitle (title : String)
  | setTags (tags : List String)
  | request (message : String) (answer : Except SuggestError Suggestion)
  | applySuggestion
  | discardSuggestion
  | snapshot (label : String)
  | restore (id : String)
  | remoteChange (id : String) (loaded : Except StorageError Document)
  | setConnected (connected : Bool)
  | notice (notice : Notice) (loaded : Except StorageError Document)
  | refresh (listed : Except StorageError (List DocumentSummary))
  | load (loaded : Except StorageError Document)
  | save (saved : Except StorageError Document)
      (listed : Except StorageError (List DocumentSummary))
  | delete (id : String) (deleted : Except StorageError Unit)
      (listed : Except StorageError (List DocumentSummary))
  | newDocument (title : String)
  | applyTemplate (id : String)

inductive Response where
  | done
  | flag (value : Bool)
  | changes (changes : Option ChangeSet)
  | version (entry : VersionEntry)
  | document (document : Option Document)

namespace Workspace

def perform (workspace : Workspace) (moment : Moment) : Action → Response × Workspace
  | .setText text source =>
      let (changes, next) := workspace.setText moment text source
      (.changes (some changes), next)
  | .canvasEdit graph =>
      let (changes, next) := workspace.canvasEdit moment graph
      (.changes (some changes), next)
  | .clearExpiredHighlight =>
      let (cleared, next) := workspace.clearExpiredHighlight moment
      (.flag cleared, next)
  | .setDirection direction => (.done, workspace.setDirection direction)
  | .select selection => (.done, workspace.select selection)
  | .setTitle title => (.done, workspace.setTitle title)
  | .setTags tags => (.done, workspace.setTags tags)
  | .request message answer =>
      let (received, next) := workspace.request moment message answer
      (.flag received, next)
  | .applySuggestion =>
      let (changes, next) := workspace.applySuggestion moment
      (.changes changes, next)
  | .discardSuggestion =>
      let (discarded, next) := workspace.discardSuggestion
      (.flag discarded, next)
  | .snapshot label =>
      let (entry, next) := workspace.snapshot moment 0 label
      (.version entry, next)
  | .restore id =>
      let (changes, next) := workspace.restore moment id
      (.changes changes, next)
  | .remoteChange id loaded =>
      let (taken, next) := workspace.remoteChange moment id loaded
      (.flag taken, next)
  | .setConnected connected => (.done, workspace.setConnected connected)
  | .notice notice loaded => (.done, workspace.notice moment notice loaded)
  | .refresh listed =>
      let (refreshed, next) := workspace.refresh listed
      (.flag refreshed, next)
  | .load loaded =>
      let (opened, next) := workspace.load moment loaded
      (.flag opened, next)
  | .save saved listed =>
      let (document, next) := workspace.save saved listed
      (.document document, next)
  | .delete id deleted listed =>
      let (removed, next) := workspace.delete moment id deleted listed
      (.flag removed, next)
  | .newDocument title => (.done, workspace.newDocument moment title)
  | .applyTemplate id =>
      let (applied, next) := workspace.applyTemplate moment id
      (.flag applied, next)

def run (workspace : Workspace) (actions : List (Moment × Action)) : Workspace :=
  actions.foldl (fun state step => (state.perform step.1 step.2).2) workspace

end Workspace

end Chartbook
