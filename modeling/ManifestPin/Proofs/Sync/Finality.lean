import ManifestPin.Proofs.Sync.Recovery

/-! # Finished updates

After an update nothing is left to do, for as long as nobody but later runs touches the files: each
of them finds the declared version and a hash that is no placeholder, and ends where it started.
-/

namespace ManifestPin

open BuildTool (Reports)

variable {sync : Sync} {tree : Tree} {inspection : Inspection}
  {version pinned current hash : String}

namespace Sync

/-- Files that pin a version with which nothing is left to do. -/
structure Settled (sync : Sync) (tree : Tree) (version : String) : Prop where
  found : ∃ inspection, (sync.inspect tree).2 = .ok inspection ∧ inspection.isUpToDate = true ∧
    inspection.pin.version = version

namespace Settled

variable (settled : sync.Settled tree version)

include settled

theorem check : (sync.check tree).2 = .ok (.notNeeded version) := by
  obtain ⟨inspection, inspected, upToDate, rfl⟩ := settled.found
  exact check_of_upToDate inspected upToDate

/-- A run leaves settled files alone, whatever its build tool. -/
theorem stands (attempt : Attempt) :
    ((attempt.sync sync).run tree).Stands (.done (.ok (.notNeeded version))) tree [] := by
  obtain ⟨inspection, inspected, upToDate, rfl⟩ := settled.found
  exact stands_of_upToDate inspected upToDate

/-- So does a run that is killed. -/
theorem tree_run (attempt : Attempt) : (attempt.run sync tree).tree = tree := by
  obtain ⟨inspection, inspected, upToDate, -⟩ := settled.found
  have inspected : ((attempt.sync sync).inspect tree).2 = .ok inspection := inspected
  unfold Attempt.run
  cases attempt.stages with
  | zero => rfl
  | succ count => exact (steps_of_upToDate inspected upToDate count).tree

/-- So do any number of runs. -/
theorem history (attempts : List Attempt) : Attempt.history sync tree attempts = tree := by
  induction attempts with
  | nil => rfl
  | cons attempt attempts ih =>
      rw [Attempt.history, List.foldl_cons, settled.tree_run attempt]
      exact ih

end Settled

namespace Builds

variable (builds : sync.Builds tree inspection)

include builds

/-- What is found when the final manifest is on file, whichever spelling of the version it kept. -/
theorem settled
    (reports : Reports inspection.placeholder (sync.build inspection tree).result hash)
    (unquoted : '"' ∉ hash.toList) {after : Tree}
    (read : after.readText sync.manifest = .ok (inspection.final hash).content)
    (unchanged : after.readText sync.parameters = tree.readText sync.parameters) :
    ∃ version, Version.agreement version inspection.current = .ok .equal ∧
      sync.Settled after version := by
  obtain ⟨output, -, reported⟩ := reports.reported
  have single := Report.feed_not_mem_hash? reported
  obtain ⟨version, held, equal⟩ := builds.sound.version_provisional
  have path := (inspection.path_final hash).trans builds.path
  have found : (sync.inspect after).2 = .ok (inspection.finished version hash) :=
    inspect_of_unchanged builds.inspected unchanged
      (builds.sound.finished single unquoted held equal) path rfl read
  exact ⟨version, equal, _, found, Inspection.upToDate_finished reports.real, rfl⟩

end Builds

/-- After an update that leaves the parameter file alone, later runs change and build nothing. -/
theorem notNeeded_of_updated
    (updated : sync.runResult tree = .ok (.updated pinned current hash))
    (unquoted : '"' ∉ hash.toList)
    (unchanged : (sync.run tree).tree.readText sync.parameters = tree.readText sync.parameters)
    (clear : ∀ call ∈ (sync.run tree).calls,
      ((sync.tool.invoke call.directory call.tree).tree.makeParent sync.manifest).1.Clear
        sync.tag sync.manifest) :
    ∃ version, Version.agreement version current = .ok .equal ∧ ∀ attempts : List Attempt,
      Attempt.history sync (sync.run tree).tree attempts = (sync.run tree).tree ∧
      (sync.check (Attempt.history sync (sync.run tree).tree attempts)).2 =
        .ok (.notNeeded version) ∧
      ∀ attempt : Attempt,
        (attempt.sync sync).runResult (Attempt.history sync (sync.run tree).tree attempts) =
          .ok (.notNeeded version) ∧
        ((attempt.sync sync).run (Attempt.history sync (sync.run tree).tree attempts)).tree =
          (sync.run tree).tree ∧
        ((attempt.sync sync).run (Attempt.history sync (sync.run tree).tree attempts)).calls =
          [] := by
  obtain ⟨inspection, builds, rfl, rfl, reports, written⟩ := builds_of_updated updated
  have left := clear ⟨sync.directory, sync.built inspection tree⟩ (by simp [builds.calls])
  have read := builds.readText_run reports left written
  obtain ⟨version, equal, settled⟩ := builds.settled reports unquoted read unchanged
  refine ⟨version, equal, fun attempts => ?_⟩
  rw [settled.history attempts]
  refine ⟨rfl, settled.check, fun attempt => ?_⟩
  have stands := settled.stands attempt
  exact ⟨runResult_of_stands stands, stands.tree, stands.calls⟩

/-- An update of the sample is finished. -/
theorem notNeeded_of_updated_sample :
    ∃ version, Version.agreement version "2" = .ok .equal ∧ ∀ attempt : Attempt,
      (attempt.sync (Sample.sync id "got: def\n")).runResult
        ((Sample.sync id "got: def\n").run Sample.tree).tree = .ok (.notNeeded version) := by
  obtain ⟨updated, ended⟩ := Sample.ends id Sample.reports_def
    (eq_ok_of_toOption (by decide +kernel))
  have kept : ((Sample.sync id "got: def\n").run Sample.tree).tree.readText "p" =
      .ok "V = 2\n" := ended ▸ eq_ok_of_toOption (by decide +kernel)
  have settled := notNeeded_of_updated updated (by decide) (kept.trans Sample.declaration.symm)
    (Sample.clear_calls _)
  obtain ⟨version, equal, later⟩ := settled
  exact ⟨version, equal, fun attempt => ((later []).2.2 attempt).1⟩

/-- Where the build linked the manifest's directory through the manifest's own entry, nothing is
read after the update. -/
theorem notNeeded_of_updated_linked :
    (Sample.sync Sample.relink "got: def\n").runResult Sample.tree =
        .ok (.updated "1" "2" "def") ∧
      ((Sample.sync Sample.relink "got: def\n").run Sample.tree).tree.readText "p" =
        Sample.tree.readText "p" ∧
      ∃ failure, ((Sample.sync Sample.relink "got: def\n").check
        ((Sample.sync Sample.relink "got: def\n").run Sample.tree).tree).2 = .error failure := by
  obtain ⟨updated, ended⟩ := Sample.ends Sample.relink Sample.reports_def
    (eq_ok_of_toOption (by decide +kernel))
  rw [ended]
  refine ⟨updated, (eq_ok_of_toOption (by decide +kernel)).trans Sample.declaration.symm, ?_⟩
  generalize left : ((Sample.relink Sample.provided).replaceText "7" "a/m"
    (Sample.inspection.final "def").content).tree = after
  cases inspected : ((Sample.sync Sample.relink "got: def\n").inspect after).2 with
  | error failure => exact ⟨failure, check_of_inspect_error inspected⟩
  | ok found =>
      have read := (Inspection.sound_of_inspect inspected).2.2
      have unread : (after.readText "a/m").toOption = none := left ▸ by decide +kernel
      rw [show after.readText "a/m" = .ok _ from read] at unread
      cases unread

end Sync

end ManifestPin
