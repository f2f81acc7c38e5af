import ManifestPin.Proofs.Sync.Course

/-! # Checks

A check reads both files and nothing else. It tells whether the run on the same files finds nothing
to do, fails at its inspection, or tries an update. An update that was tried is stopped by the build
or by a write that is refused, never by a value that is missing.
-/

namespace ManifestPin.Sync

variable {sync : Sync} {tree : Tree} {inspection : Inspection} {failure : Failure}
  {version pinned current hash : String} {missing : MissingLine}

/-- What a check tells of the run on the same files. -/
structure Predicts (sync : Sync) (tree : Tree) : Prop where
  /-- Either both find nothing to do or none does. -/
  notNeeded : ∀ version, (sync.check tree).2 = .ok (.notNeeded version) ↔
    sync.runResult tree = .ok (.notNeeded version)
  /-- A check fails as the run does at its first stage. -/
  refused : ∀ failure, (sync.check tree).2 = .error failure ↔
    ((Run.start tree).step sync).stage = .done (.error failure)
  /-- That is what the whole run comes to then; it neither writes nor builds. -/
  untouched : ∀ failure, (sync.check tree).2 = .error failure →
    sync.runResult tree = .error failure ∧ (sync.run tree).tree = tree ∧
      (sync.run tree).calls = []
  /-- A planned update is made, or stopped by the build or a write. -/
  planned : ∀ pinned current, (sync.check tree).2 = .ok (.planned pinned current) →
    (∃ hash, sync.runResult tree = .ok (.updated pinned current hash)) ∨
      ∃ inspection failure, (sync.inspect tree).2 = .ok inspection ∧
        sync.runResult tree = .error failure ∧
        sync.Stopped tree inspection failure (sync.run tree).tree (sync.run tree).calls
  /-- An update that is made was planned. -/
  updated : ∀ pinned current hash, sync.runResult tree = .ok (.updated pinned current hash) →
    (sync.check tree).2 = .ok (.planned pinned current)
  /-- Each value that a run replaces after its inspection is found, whatever hash is reported. -/
  replaced : ∀ inspection, (sync.inspect tree).2 = .ok inspection →
    inspection.isUpToDate = false →
    (inspection.agreement = .different → ∃ versioned, inspection.withVersion = .ok versioned ∧
      versioned.setValue .hash inspection.pin.hash inspection.placeholder =
        .ok inspection.provisional) ∧
    (inspection.agreement = .equal → inspection.provisional = inspection.manifest) ∧
    ∀ hash, inspection.provisional.setValue .hash inspection.placeholder hash =
      .ok (inspection.final hash)
  /-- A run fails for a missing line only if its check or its build tool does. -/
  missing : ∀ missing, sync.runResult tree = .error (.missingLine missing) →
    (sync.check tree).2 = .error (.missingLine missing) ∨
      ∃ call ∈ (sync.run tree).calls,
        (sync.tool.invoke call.directory call.tree).result = .error (.missingLine missing)
  /-- A check depends neither on the build nor on the tag of temporary files. -/
  detached : ∀ (tool : BuildTool) (directory tag : String),
    { sync with tool, directory, tag }.check tree = sync.check tree

theorem check_eq_notNeeded_iff :
    (sync.check tree).2 = .ok (.notNeeded version) ↔
      sync.runResult tree = .ok (.notNeeded version) := by
  have course := sync.course tree
  generalize sync.runResult tree = result, (sync.run tree).tree = after,
    (sync.run tree).calls = calls at course ⊢
  cases course with
  | refused failure refused => simp [check_of_inspect_error refused]
  | upToDate inspection inspected upToDate => simp [check_of_upToDate inspected upToDate]
  | stopped inspection failure _ _ inspected outdated =>
      simp [check_of_outdated inspected outdated]
  | updated inspection hash builds => simp [check_of_outdated builds.inspected builds.outdated]

theorem check_eq_error_iff :
    (sync.check tree).2 = .error failure ↔
      ((Run.start tree).step sync).stage = .done (.error failure) := by
  cases inspected : (sync.inspect tree).2 with
  | error refusal =>
      rw [check_of_inspect_error inspected,
        ((Run.stands_start tree).inspect_of_error inspected).stage]
      simp
  | ok inspection =>
      rw [((Run.stands_start tree).inspect inspected).stage]
      cases upToDate : inspection.isUpToDate with
      | true =>
          rw [check_of_upToDate inspected upToDate, Inspection.next, if_pos upToDate]
          simp
      | false =>
          have sound := (Inspection.sound_of_inspect inspected).1
          rw [check_of_outdated inspected upToDate, Inspection.next_of_sound sound upToDate]
          cases inspection.agreement <;> simp

theorem inspect_of_check_error (failed : (sync.check tree).2 = .error failure) :
    (sync.inspect tree).2 = .error failure := by
  cases inspected : (sync.inspect tree).2 with
  | error refusal =>
      rw [check_of_inspect_error inspected] at failed
      exact congrArg Except.error (Except.error.inj failed)
  | ok inspection =>
      cases upToDate : inspection.isUpToDate with
      | true =>
          rw [check_of_upToDate inspected upToDate] at failed
          cases failed
      | false =>
          rw [check_of_outdated inspected upToDate] at failed
          cases failed

theorem updated_or_stopped (plans : (sync.check tree).2 = .ok (.planned pinned current)) :
    (∃ hash, sync.runResult tree = .ok (.updated pinned current hash)) ∨
      ∃ inspection failure, (sync.inspect tree).2 = .ok inspection ∧
        sync.runResult tree = .error failure ∧
        sync.Stopped tree inspection failure (sync.run tree).tree (sync.run tree).calls := by
  have course := sync.course tree
  generalize sync.runResult tree = result, (sync.run tree).tree = after,
    (sync.run tree).calls = calls at course ⊢
  cases course with
  | refused failure refused =>
      rw [check_of_inspect_error refused] at plans
      cases plans
  | upToDate inspection inspected upToDate =>
      rw [check_of_upToDate inspected upToDate] at plans
      cases plans
  | stopped inspection failure _ _ inspected outdated stopped =>
      exact .inr ⟨inspection, failure, inspected, rfl, stopped⟩
  | updated inspection hash builds =>
      rw [check_of_outdated builds.inspected builds.outdated] at plans
      cases plans
      exact .inl ⟨hash, rfl⟩

theorem check_of_updated (updated : sync.runResult tree = .ok (.updated pinned current hash)) :
    (sync.check tree).2 = .ok (.planned pinned current) := by
  obtain ⟨inspection, builds, rfl, rfl, -, -⟩ := builds_of_updated updated
  exact check_of_outdated builds.inspected builds.outdated

/-- A missing line is reported by the inspection or by the build tool. -/
theorem check_or_tool_of_missing (failed : sync.runResult tree = .error (.missingLine missing)) :
    (sync.check tree).2 = .error (.missingLine missing) ∨
      ∃ call ∈ (sync.run tree).calls,
        (sync.tool.invoke call.directory call.tree).result = .error (.missingLine missing) := by
  have course := sync.course tree
  generalize (sync.run tree).tree = after, (sync.run tree).calls = calls at course ⊢
  rw [failed] at course
  cases course with
  | refused _ refused => exact .inl (check_of_inspect_error refused)
  | stopped inspection _ _ _ inspected outdated stopped =>
      cases stopped with
      | unbuilt _ builds fails =>
          cases fails with
          | broken _ broke => exact .inr ⟨_, List.mem_singleton_self _, broke⟩

/-- The check of any files predicts the run on them, whatever its build tool. -/
theorem predicts (sync : Sync) (tree : Tree) : sync.Predicts tree where
  notNeeded := fun _ => check_eq_notNeeded_iff
  refused := fun _ => check_eq_error_iff
  untouched := by
    intro failure failed
    have stands := stands_of_inspect_error (inspect_of_check_error failed)
    exact ⟨runResult_of_stands stands, stands.tree, stands.calls⟩
  planned := fun _ _ => updated_or_stopped
  updated := fun _ _ _ => check_of_updated
  replaced := by
    intro inspection inspected outdated
    obtain ⟨sound, -, -⟩ := Inspection.sound_of_inspect inspected
    refine ⟨fun different => ?_, sound.provisional_of_equal outdated,
      Manifest.setValue_of_value sound.hash_provisional⟩
    refine ⟨_, Manifest.setValue_of_value sound.version inspection.current, ?_⟩
    simp only [Manifest.setValue_of_value sound.hash_revised, Inspection.provisional, different]
  missing := fun _ => check_or_tool_of_missing
  detached := fun _ _ _ => rfl

end ManifestPin.Sync
