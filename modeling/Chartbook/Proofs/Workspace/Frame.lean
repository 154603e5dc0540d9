import Chartbook.Workspace.Action

/-!
What operations leave alone. Each equation gives the workspace after an operation as the one before it
with some fields changed. A flag that is reported changes nothing but itself and the events.
-/

namespace Chartbook.Workspace

variable (workspace : Workspace) (moment : Moment)

def news (same : Prop) [Decidable same] (event : WorkspaceEvent) : List WorkspaceEvent :=
  if same then [] else [event]

theorem reported_frame {same : Prop} [Decidable same] {before after : Workspace}
    (event : WorkspaceEvent) (unchanged : same → before = after) :
    (if same then before else after.emit event) =
      { after with events := after.events ++ news same event } := by
  rw [news]
  split
  · rename_i same
    rw [List.append_nil]
    exact unchanged same
  · rfl

theorem setStatus_frame (status : AgentStatus) :
    workspace.setStatus status =
      { workspace with
        status
        events := workspace.events ++ news (workspace.status = status) (.statusChanged status) } :=
  reported_frame _ fun same => by rw [← same]

theorem setSaving_frame (saving : Bool) :
    workspace.setSaving saving =
      { workspace with
        isSaving := saving
        events := workspace.events ++ news (workspace.isSaving = saving) (.savingChanged saving) } :=
  reported_frame _ fun same => by rw [← same]

theorem setConnected_frame (connected : Bool) :
    workspace.setConnected connected =
      { workspace with
        isConnected := connected
        events := workspace.events ++
          news (workspace.isConnected = connected) (.connectionChanged connected) } :=
  reported_frame _ fun same => by rw [← same]

theorem dropPending_frame :
    workspace.dropPending =
      { workspace with
        pending := none
        events := workspace.events ++ news (workspace.pending = none) .suggestionCleared } := by
  rw [dropPending, news]
  split
  · rename_i pending
    rw [if_neg (by simp [pending])]
    rfl
  · rename_i pending
    rw [if_pos pending, List.append_nil, ← pending]

theorem setDirection_frame (direction : Direction) :
    workspace.setDirection direction =
      { workspace with
        direction
        drawing :=
          if workspace.direction = direction then workspace.drawing
          else workspace.graph.draw direction } := by
  rw [setDirection]
  split
  · rename_i same
    rw [← same]
  · rfl

theorem clearExpiredHighlight_frame :
    (workspace.clearExpiredHighlight moment).2 =
      { workspace with
        highlight := workspace.highlight.filter fun highlight =>
          moment.clock < highlight.expiresAt } := by
  rw [clearExpiredHighlight]
  split
  · rename_i highlight found
    rw [found, Option.filter_some]
    split
    · rename_i expired
      rw [if_neg (by simpa using expired)]
    · rename_i early
      rw [if_pos (by simpa using early), ← found]
  · rename_i found
    rw [found, Option.filter_none, ← found]

end Chartbook.Workspace
