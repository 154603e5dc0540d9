import Chartbook.Proofs.Workspace.Consistent
import Chartbook.Proofs.Workspace.Lifecycle

/-!
What is left when storage or the agent fails. Main statement: a failed call leaves the workspace as it
was, but for the chat and the status after a failed request, and for the index after a failed
listing.
-/

namespace Chartbook

namespace Action

/-- The storage call with which the action begins has failed. -/
def refused : Action → Bool
  | .load (.error _) => true
  | .refresh (.error _) => true
  | .remoteChange _ (.error _) => true
  | .notice (.documentChanged _) (.error _) => true
  | .delete _ (.error _) _ => true
  | .save (.error _) _ => true
  | _ => false

def busy : Action → List WorkspaceEvent
  | .save _ _ => [.savingChanged true, .savingChanged false]
  | _ => []

/-- An action that storage has carried out, before the documents are listed again. -/
inductive Relists : (Except StorageError (List DocumentSummary) → Action) → Prop
  | saved (document : Document) : Relists (.save (.ok document))
  | deleted (id : String) : Relists (.delete id (.ok ()))

end Action

namespace Workspace

variable (workspace : Workspace) (moment : Moment)

theorem saving_over (idle : workspace.isSaving = false) :
    (workspace.setSaving true).setSaving false =
      { workspace with
        events := workspace.events ++ [.savingChanged true, .savingChanged false] } := by
  simp [setSaving, emit, idle]

theorem remoteChange_failed (id : String) (error : StorageError) :
    (workspace.remoteChange moment id (.error error)).2 = workspace := by
  rw [remoteChange, ite_self]

theorem perform_refused (idle : workspace.isSaving = false) {action : Action}
    (refused : action.refused) :
    (workspace.perform moment action).2 =
      { workspace with events := workspace.events ++ action.busy } := by
  have silent : workspace = { workspace with events := workspace.events ++ [] } := by
    rw [List.append_nil]
  match action with
  | .load (.error _) => exact silent
  | .refresh (.error _) => exact silent
  | .remoteChange id (.error error) =>
      exact (remoteChange_failed workspace moment id error).trans silent
  | .notice (.documentChanged id) (.error error) =>
      exact (remoteChange_failed workspace moment id error).trans silent
  | .delete _ (.error _) _ => exact silent
  | .save (.error _) _ => exact saving_over workspace idle

theorem request_failed {message words : String} (spoken : Text.nonBlank? message = some words)
    (error : SuggestError) :
    ∃ events, (workspace.request moment message (.error error)).2 =
      { workspace with
        chat := workspace.chat ++ [
          { id := moment.entryId 0, role := .user, text := words, suggestionId := none
            timestamp := moment.stamp },
          Episode.reply moment (.error error)]
        status := .error
        events } := by
  refine ⟨(workspace.request moment message (.error error)).2.events, ?_⟩
  rw [request, spoken]
  dsimp only
  rw [setStatus_frame (workspace.say _), receive, setStatus_frame]
  simp [say, Episode.reply]

theorem documents_openDocument (document : Document) :
    (workspace.openDocument moment document).documents = workspace.documents := by
  rw [openDocument_eq]
  simp only [moved, Document.opening, List.foldl, move]
  rw [setStatus_frame, dropPending_frame]
  rfl

theorem perform_relists {action : Except StorageError (List DocumentSummary) → Action}
    (relists : Action.Relists action) (listed : List DocumentSummary) (error : StorageError) :
    let full := workspace.perform moment (action (.ok listed))
    let short := workspace.perform moment (action (.error error))
    short.1 = full.1 ∧ full.2.events = short.2.events ++ [.documentsChanged] ∧
    short.2 = { full.2 with documents := workspace.documents, events := short.2.events } := by
  cases relists with
  | saved document =>
      refine ⟨rfl, rfl, ?_⟩
      have kept : ((workspace.setSaving true).setSaving false).documents = workspace.documents := by
        rw [setSaving_frame, setSaving_frame workspace]
      rw [← kept]
      rfl
  | deleted id =>
      refine ⟨rfl, rfl, ?_⟩
      have kept : (if workspace.documentId = some id then workspace.newDocument moment ""
          else workspace).documents = workspace.documents := by
        split
        · exact documents_openDocument workspace moment _
        · rfl
      rw [← kept]
      rfl

/-- A call to storage that fails leaves everything as it was. A request that fails adds two entries to
the chat and sets the status. Where the documents cannot be listed after a document was saved or
deleted, all is as if they could be, but for the index, which stays as it was. -/
theorem failures_leave_workspace (highlightFor historyCap : Nat) (steps : List (Moment × Action))
    (moment : Moment) :
    let reached := (make highlightFor historyCap).run steps
    (∀ action, action.refused →
      (reached.perform moment action).2 =
        { reached with events := reached.events ++ action.busy }) ∧
    (∀ message words error, Text.nonBlank? message = some words →
      ∃ events, (reached.perform moment (.request message (.error error))).2 =
        { reached with
          chat := reached.chat ++ [
            { id := moment.entryId 0, role := .user, text := words, suggestionId := none
              timestamp := moment.stamp },
            Episode.reply moment (.error error)]
          status := .error
          events }) ∧
    ∀ action, Action.Relists action → ∀ listed error,
      let full := reached.perform moment (action (.ok listed))
      let short := reached.perform moment (action (.error error))
      short.1 = full.1 ∧ full.2.events = short.2.events ++ [.documentsChanged] ∧
      short.2 = { full.2 with documents := reached.documents, events := short.2.events } := by
  intro reached
  have idle : reached.isSaving = false := (consistent_run highlightFor historyCap steps).idle
  refine ⟨fun action => perform_refused reached moment idle, ?_, ?_⟩
  · intro message words error spoken
    exact request_failed reached moment spoken error
  · intro action relists listed error
    exact perform_relists reached moment relists listed error

end Workspace

end Chartbook
