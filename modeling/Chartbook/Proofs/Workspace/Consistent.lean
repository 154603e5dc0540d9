import Chartbook.Proofs.Workspace.Desk

/-!
In every state that a workspace reaches, the chart and the drawing are those of the text. Main
statement: this, and that the change sets an action reports compare the charts of the two texts.
-/

namespace Chartbook

namespace Sheet

structure Consistent (sheet : Sheet) : Prop where
  graph : sheet.graph = Graph.ofText sheet.text
  drawing : sheet.drawing = sheet.graph.draw sheet.direction
  idle : sheet.isSaving = false

theorem Consistent.write {sheet : Sheet} (consistent : sheet.Consistent) (clock : Nat)
    (text : String) (source : ChangeSource) : (sheet.write clock text source).Consistent :=
  { graph := rfl, drawing := rfl, idle := consistent.idle }

theorem Consistent.after {desk : Desk} (consistent : desk.sheet.Consistent) (clock : Nat)
    (effect : Effect) : (desk.after clock effect).sheet.Consistent := by
  cases effect with
  | kept => exact consistent
  | written text source => exact consistent.write clock text source
  | reloaded text => exact consistent.write clock text .remote
  | opened documentId text savedText =>
      exact { graph := rfl, drawing := rfl, idle := consistent.idle }
  | turned direction =>
      refine { graph := consistent.graph, drawing := ?_, idle := consistent.idle }
      dsimp only [Desk.after, Sheet.turn]
      split
      · rename_i same
        rw [← same]
        exact consistent.drawing
      · rfl
  | swept => exact { consistent with }
  | saved id text => exact { consistent with idle := rfl }
  | unsaved => exact { consistent with idle := rfl }

end Sheet

/-- Whose change an action makes when it writes the text of the open document. Actions that open
another document have no such source. -/
def Action.source? : Action → Option ChangeSource
  | .setText _ source => some source
  | .canvasEdit _ => some .user
  | .applySuggestion => some .agent
  | .restore _ => some .user
  | .remoteChange _ _ => some .remote
  | .notice _ _ => some .remote
  | _ => none

def Effect.wrote? : Effect → Option (String × ChangeSource)
  | written text source => some (text, source)
  | reloaded text => some (text, .remote)
  | _ => none

theorem Effect.sheet_of_wrote {effect : Effect} {text : String} {source : ChangeSource}
    (wrote : effect.wrote? = some (text, source)) (desk : Desk) (clock : Nat) :
    (desk.after clock effect).sheet = desk.sheet.write clock text source := by
  cases effect <;> cases wrote <;> rfl

namespace Workspace

variable (workspace : Workspace) (moment : Moment)

theorem effect_of_source {action : Action} {source : ChangeSource}
    (known : action.source? = some source) :
    workspace.effect action = .kept ∨
      ∃ text, (workspace.effect action).wrote? = some (text, source) := by
  cases action with
  | setText text source =>
      cases known
      exact .inr ⟨text, rfl⟩
  | canvasEdit graph =>
      cases known
      exact .inr ⟨_, rfl⟩
  | applySuggestion =>
      cases known
      rw [effect]
      cases workspace.pending.bind (·.proposedText) with
      | none => exact .inl rfl
      | some text => exact .inr ⟨text, rfl⟩
  | restore id =>
      cases known
      rw [effect]
      cases workspace.history.find? id with
      | none => exact .inl rfl
      | some entry => exact .inr ⟨entry.text, rfl⟩
  | remoteChange id loaded =>
      cases known
      rw [effect]
      cases workspace.reloaded? id loaded with
      | none => exact .inl rfl
      | some text => exact .inr ⟨text, rfl⟩
  | notice notice loaded =>
      cases known
      cases notice with
      | connected => exact .inl rfl
      | disconnected => exact .inl rfl
      | documentChanged id =>
          rw [effect]
          cases workspace.reloaded? id loaded with
          | none => exact .inl rfl
          | some text => exact .inr ⟨text, rfl⟩
  | _ => cases known

theorem told_changes {action : Action} {source : ChangeSource}
    (known : action.source? = some source) :
    let next := (workspace.perform moment action).2
    ∀ told ∈ next.sheet.told.drop workspace.sheet.told.length,
      told = (source, workspace.graph.changes next.graph source) := by
  intro next told member
  have sheet := sheet_perform workspace moment action
  obtain kept | ⟨text, wrote⟩ := effect_of_source workspace known
  · have same : next.sheet = workspace.sheet := by
      rw [sheet, kept]
      rfl
    rw [same, List.drop_length] at member
    cases member
  · rw [Effect.sheet_of_wrote wrote] at sheet
    have graph : next.graph = Graph.ofText text := congrArg Sheet.graph sheet
    have tells : next.sheet.told = workspace.sheet.told ++
        [(source, workspace.graph.changes (Graph.ofText text) source)] :=
      congrArg Sheet.told sheet
    rw [tells, List.drop_left, List.mem_singleton] at member
    rw [member, graph]

theorem wrote_of_returned {action : Action} {changes : ChangeSet}
    (returned : (workspace.perform moment action).1 = .changes (some changes)) :
    ∃ text source, action.source? = some source ∧
      (workspace.effect action).wrote? = some (text, source) ∧
      changes = workspace.graph.changes (Graph.ofText text) source := by
  cases action with
  | setText text source =>
      cases returned
      exact ⟨text, source, rfl, rfl, rfl⟩
  | canvasEdit graph =>
      cases returned
      exact ⟨FlowText.splice workspace.text graph.withoutDangling, .user, rfl, rfl, rfl⟩
  | applySuggestion =>
      cases pending : workspace.pending with
      | none => simp [perform, applySuggestion, pending] at returned
      | some suggestion =>
          cases proposed : suggestion.proposedText with
          | none => simp [perform, applySuggestion, pending, proposed] at returned
          | some text =>
              have same : (workspace.dropPending.snapshot moment 0 "before AI change").2.graph =
                  workspace.graph := by
                rw [dropPending_frame]
                rfl
              simp only [perform, applySuggestion, pending, proposed] at returned
              cases returned
              refine ⟨text, .agent, rfl, by simp [effect, pending, proposed, Effect.wrote?], ?_⟩
              rw [setText, same]
  | restore id =>
      cases found : workspace.history.find? id with
      | none => simp [perform, restore, found] at returned
      | some entry =>
          simp only [perform, restore, found] at returned
          cases returned
          exact ⟨entry.text, .user, rfl, by simp [effect, found, Effect.wrote?], rfl⟩
  | _ => simp [perform] at returned

theorem run_invariant (holds : Workspace → Prop)
    (step : ∀ workspace moment action, holds workspace → holds (workspace.perform moment action).2)
    {workspace : Workspace} (start : holds workspace) (steps : List (Moment × Action)) :
    holds (workspace.run steps) := by
  rw [run]
  induction steps generalizing workspace with
  | nil => exact start
  | cons first rest ih => exact ih (step workspace first.1 first.2 start)

theorem ofText_empty : Graph.ofText "" = Graph.empty := by decide

theorem consistent_make (highlightFor historyCap : Nat) :
    (make highlightFor historyCap).sheet.Consistent :=
  { graph := ofText_empty.symm, drawing := rfl, idle := rfl }

theorem consistent_run (highlightFor historyCap : Nat) (steps : List (Moment × Action)) :
    ((make highlightFor historyCap).run steps).sheet.Consistent :=
  run_invariant (fun workspace => workspace.sheet.Consistent)
    (fun workspace moment action consistent => by
      rw [sheet_perform]
      exact consistent.after moment.clock _)
    (consistent_make highlightFor historyCap) steps

/-- Whatever storage and suggester answer, a workspace shows the chart and the drawing of its text
and is not left saving. Every change set that an action on the open document returns or tells of
compares the chart of the text before it with the chart of the text after it. -/
theorem derived_from_text (highlightFor historyCap : Nat) (steps : List (Moment × Action)) :
    let reached := (make highlightFor historyCap).run steps
    reached.graph = Graph.ofText reached.text ∧
    reached.drawing = reached.graph.draw reached.direction ∧
    reached.isSaving = false ∧
    ∀ (moment : Moment) (action : Action),
      let next := (reached.perform moment action).2
      (∀ changes, (reached.perform moment action).1 = .changes (some changes) →
        ∃ source, action.source? = some source ∧
          changes = (Graph.ofText reached.text).changes (Graph.ofText next.text) source) ∧
      ∀ source, action.source? = some source →
        ∀ told ∈ next.sheet.told.drop reached.sheet.told.length,
          told = (source, (Graph.ofText reached.text).changes (Graph.ofText next.text) source) := by
  intro reached
  have consistent : reached.sheet.Consistent := consistent_run highlightFor historyCap steps
  refine ⟨consistent.graph, consistent.drawing, consistent.idle, ?_⟩
  intro moment action next
  have after : next.sheet.Consistent := by
    rw [sheet_perform]
    exact consistent.after moment.clock _
  have before : reached.graph = Graph.ofText reached.text := consistent.graph
  constructor
  · intro changes returned
    obtain ⟨text, source, known, wrote, compared⟩ := wrote_of_returned reached moment returned
    have written := sheet_perform reached moment action
    rw [Effect.sheet_of_wrote wrote] at written
    have nextText : next.text = text := congrArg Sheet.text written
    refine ⟨source, known, ?_⟩
    rw [compared, nextText, before]
  · intro source known told member
    have compared := told_changes reached moment known told member
    have later : next.graph = Graph.ofText next.text := after.graph
    rwa [before, later] at compared

end Workspace

end Chartbook
