import Chartbook.Proofs.Workspace.Consistent
import Chartbook.Proofs.Workspace.History

/-!
Restoring a version can be undone. Main statement: a restored version's text is shown, and restoring
the latest version after that brings back the text, the chart and the drawing from before, however
little room there is for versions.
-/

namespace Chartbook

theorem Sheet.Consistent.write_back {sheet : Sheet} (consistent : sheet.Consistent)
    (clock later : Nat) (text : String) (source again : ChangeSource) :
    let back := (sheet.write clock text source).write later sheet.text again
    back.text = sheet.text ∧ back.graph = sheet.graph ∧ back.drawing = sheet.drawing := by
  refine ⟨rfl, consistent.graph.symm, ?_⟩
  rw [consistent.drawing, consistent.graph]
  rfl

namespace Workspace

variable (workspace : Workspace) (moment later : Moment)

def safeguard : VersionEntry :=
  VersionEntry.take (moment.versionId 0) "before restore" moment.stamp workspace.text

/-- No two versions have the same id, with the one that comes next. -/
def DistinctVersions : Prop :=
  (moment.versionId 0 :: workspace.history.entries.map (·.id)).Nodup

instance : Decidable (workspace.DistinctVersions moment) :=
  inferInstanceAs (Decidable (List.Nodup _))

theorem sheet_restore {id : String} {entry : VersionEntry}
    (found : workspace.history.find? id = some entry) :
    (workspace.restore moment id).2.sheet =
      workspace.sheet.write moment.clock entry.text .user := by
  have desk := desk_perform workspace moment (.restore id)
  rw [effect, found] at desk
  exact congrArg Desk.sheet desk

theorem history_restore {id : String} {entry : VersionEntry}
    (found : workspace.history.find? id = some entry) :
    (workspace.restore moment id).2.history =
      workspace.history.push (workspace.safeguard moment) := by
  rw [restore, found]
  rfl

variable {workspace moment}

theorem DistinctVersions.find? (distinct : workspace.DistinctVersions moment)
    {entry : VersionEntry} (retained : entry ∈ workspace.history.entries) :
    workspace.history.find? entry.id = some entry :=
  (workspace.history.find?_eq_some_iff distinct.of_cons entry.id entry).mpr ⟨retained, rfl⟩

theorem DistinctVersions.find?_safeguard (distinct : workspace.DistinctVersions moment) :
    (workspace.history.push (workspace.safeguard moment)).find? (moment.versionId 0) =
      some (workspace.safeguard moment) := by
  have ids : ((workspace.history.push (workspace.safeguard moment)).entries.map (·.id)).Nodup := by
    have kept := (List.drop_sublist _ (workspace.history.entries ++ [workspace.safeguard moment])
      : (History.lastOf workspace.history.cap _).Sublist _)
    rw [History.entries_push]
    refine List.Nodup.sublist (kept.map (·.id)) ?_
    rw [List.map_append]
    exact (List.perm_append_singleton _ _).nodup_iff.mpr distinct
  exact (History.find?_eq_some_iff _ ids _ _).mpr ⟨History.mem_push _ _, rfl⟩

theorem sheet_restore_restore (distinct : workspace.DistinctVersions moment)
    {entry : VersionEntry} (retained : entry ∈ workspace.history.entries) :
    ((workspace.restore moment entry.id).2.restore later (moment.versionId 0)).2.sheet =
      (workspace.sheet.write moment.clock entry.text .user).write later.clock workspace.text
        .user := by
  have found := distinct.find? retained
  have recorded : (workspace.restore moment entry.id).2.history.find? (moment.versionId 0) =
      some (workspace.safeguard moment) := by
    rw [history_restore workspace moment found, distinct.find?_safeguard]
  rw [sheet_restore _ later recorded, sheet_restore workspace moment found]
  rfl

/-- Whatever was done before, restoring a version shows its text. The latest version is then the
one that was recorded just before, and restoring that brings back the text, the chart and the
drawing. -/
theorem restored_and_back (highlightFor historyCap : Nat) (steps : List (Moment × Action))
    (moment later : Moment)
    (distinct : ((make highlightFor historyCap).run steps).DistinctVersions moment) :
    let reached := (make highlightFor historyCap).run steps
    ∀ entry ∈ reached.history.entries,
      let restored := (reached.restore moment entry.id).2
      restored.text = entry.text ∧
      ∃ latest, restored.history.latest? = some latest ∧
        let back := (restored.restore later latest.id).2
        back.text = reached.text ∧ back.graph = reached.graph ∧ back.drawing = reached.drawing := by
  intro reached entry retained restored
  have found := distinct.find? retained
  have consistent : reached.sheet.Consistent := consistent_run highlightFor historyCap steps
  refine ⟨congrArg Sheet.text (sheet_restore reached moment found),
    reached.safeguard moment, ?_, ?_⟩
  · rw [history_restore reached moment found, History.latest?_push]
  · have back := sheet_restore_restore later distinct retained
    have same := consistent.write_back moment.clock later.clock entry.text .user .user
    exact ⟨(congrArg Sheet.text back).trans same.1, (congrArg Sheet.graph back).trans same.2.1,
      (congrArg Sheet.drawing back).trans same.2.2⟩

theorem back_with_room_for_one :
    let giving (id : String) : Moment :=
      { clock := 0, stamp := "", versionId := fun _ => id
        entryId := fun _ => "", documentId := "" }
    let steps := [(giving "v1", .setText "first" .user), (giving "v1", .snapshot "kept"),
      (giving "v2", .setText "```flow\n[a] -> [b]\n```" .user)]
    let reached := (make 0 1).run steps
    let kept := VersionEntry.take "v1" "kept" "" "first"
    let restored := (reached.restore (giving "v2") "v1").2
    reached.DistinctVersions (giving "v2") ∧ kept ∈ reached.history.entries ∧
    restored.text = "first" ∧ kept ∉ restored.history.entries ∧
    ∃ latest, restored.history.latest? = some latest ∧
      let back := (restored.restore (giving "v3") latest.id).2
      back.text = "```flow\n[a] -> [b]\n```" ∧ back.graph = reached.graph ∧
      back.drawing = reached.drawing := by
  intro giving steps reached kept restored
  have distinct : reached.DistinctVersions (giving "v2") := by decide +kernel
  have retained : kept ∈ reached.history.entries := by decide +kernel
  obtain ⟨shown, back⟩ :=
    restored_and_back 0 1 steps (giving "v2") (giving "v3") distinct kept retained
  exact ⟨distinct, retained, shown, by decide +kernel, back⟩

end Workspace

end Chartbook
