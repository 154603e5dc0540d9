import Chartbook.Proofs.Workspace.Baseline
import Chartbook.Proofs.Workspace.History

/-!
Texts that are overwritten. Main statement: a text that a suggestion, a restored version or a change
by others replaces can still be had afterwards, unless a suggestion is applied while the history has
room for one version only.
-/

namespace Chartbook

/-- A text can still be had: it is shown, or it was stored last, or a version has it. -/
def Available (text : String) (stored : Option String) (after : Workspace) : Prop :=
  text = after.text ∨ stored = some text ∨ ∃ entry ∈ after.history.entries, entry.text = text

instance (text : String) (stored : Option String) (after : Workspace) :
    Decidable (Available text stored after) :=
  inferInstanceAs (Decidable (_ ∨ _ ∨ _))

namespace Workspace

variable (workspace : Workspace) (moment : Moment) (stored : Option String)

theorem available_restore (id : String) :
    Available workspace.text stored (workspace.restore moment id).2 := by
  cases found : workspace.history.find? id with
  | none =>
      rw [restore, found]
      exact .inl rfl
  | some entry =>
      rw [restore, found]
      exact .inr (.inr ⟨_, workspace.history.mem_push _, rfl⟩)

theorem available_remoteChange
    (known : workspace.documentId.isSome → stored = some workspace.savedText)
    (id : String) (loaded : Except StorageError Document) :
    Available workspace.text stored (workspace.remoteChange moment id loaded).2 := by
  by_cases current : workspace.documentId = some id
  · cases loaded with
    | error error =>
        rw [remoteChange, if_pos current]
        exact .inl rfl
    | ok document =>
        rw [remoteChange, if_pos current]
        dsimp only
        split
        · exact .inr (.inr ⟨_, workspace.history.mem_push _, rfl⟩)
        · rename_i unrecorded
          rw [isDirty, Bool.and_eq_true, Classical.not_and_iff_not_or_not, bne_iff_ne, bne_iff_ne,
            Classical.not_not, Classical.not_not] at unrecorded
          cases unrecorded with
          | inl clean =>
              rw [clean, known (by rw [current]; rfl)]
              exact .inr (.inl rfl)
          | inr same => exact .inl same.symm
  · cases loaded <;>
      rw [remoteChange, if_neg current] <;>
      exact .inl rfl

theorem available_applySuggestion (room : 2 ≤ workspace.history.cap) :
    Available workspace.text stored (workspace.applySuggestion moment).2 := by
  have kept : workspace.dropPending.text = workspace.text := by rw [dropPending_frame]
  have cap : workspace.dropPending.history.cap = workspace.history.cap := by
    rw [dropPending_frame]
  rw [applySuggestion]
  split
  · split
    · rw [← cap] at room
      exact .inr (.inr ⟨_, workspace.dropPending.history.mem_push_push room _ _, kept⟩)
    · exact .inl kept.symm
  · exact .inl rfl

theorem available_applySuggestion_iff (full : workspace.history.cap = 1) {suggestion : Suggestion}
    {text : String} (pending : workspace.pending = some suggestion)
    (proposed : suggestion.proposedText = some text) :
    Available workspace.text stored (workspace.applySuggestion moment).2 ↔
      workspace.text = text ∨ stored = some workspace.text := by
  have cap : workspace.dropPending.history.cap = workspace.history.cap := by
    rw [dropPending_frame]
  rw [applySuggestion, pending]
  dsimp only
  rw [proposed]
  dsimp only
  constructor
  · rintro (shown | known | ⟨entry, member, same⟩)
    · exact .inl shown
    · exact .inr known
    · have only := ((workspace.dropPending.history.push _).entries_push_of_cap_one
        (cap.trans full) _) ▸ member
      rw [List.mem_singleton] at only
      rw [only] at same
      exact .inl same.symm
  · rintro (shown | known)
    · exact .inl shown
    · exact .inr (.inl known)

/-- Whatever was done before, a text that is restored over or changed by others can still be had. So
can a text that a suggestion replaces when there is room for two versions. When there is not, only
the shown and the stored text can be had. -/
theorem overwritten_available (highlightFor historyCap : Nat) (steps : List (Moment × Action))
    (moment : Moment) :
    let start := make highlightFor historyCap
    let reached := start.run steps
    let stored := start.lastStored none steps
    (∀ id, Available reached.text stored (reached.restore moment id).2) ∧
    (∀ id loaded, Available reached.text stored (reached.remoteChange moment id loaded).2) ∧
    (2 ≤ historyCap → Available reached.text stored (reached.applySuggestion moment).2) ∧
    (historyCap < 2 → ∀ suggestion text, reached.pending = some suggestion →
      suggestion.proposedText = some text →
        (Available reached.text stored (reached.applySuggestion moment).2 ↔
          reached.text = text ∨ stored = some reached.text)) := by
  intro start reached stored
  have recorded : Recorded historyCap reached.baseline stored :=
    recorded_run (recorded_make highlightFor historyCap) steps
  have cap : reached.history.cap = max historyCap 1 := recorded.cap
  refine ⟨available_restore reached moment stored,
    available_remoteChange reached moment stored recorded.known, ?_, ?_⟩
  · intro room
    exact available_applySuggestion reached moment stored (by omega)
  · intro little suggestion text pending proposed
    exact available_applySuggestion_iff reached moment stored (by omega) pending proposed

/-- With room for one version the text that a suggestion replaces is lost. -/
theorem replaced_text_lost :
    let moment : Moment :=
      { clock := 0, stamp := "", versionId := fun _ => "", entryId := fun _ => "", documentId := "" }
    let suggestion := Suggestion.make "first" (some "new") "renewed"
    let start := make 0 1
    let steps := [(moment, .setText "old" .user), (moment, .request "renew" (.ok suggestion))]
    let reached := start.run steps
    ¬ Available reached.text (start.lastStored none steps) (reached.applySuggestion moment).2 := by
  decide +kernel

end Workspace

end Chartbook
