import ManifestPin.Proofs.Files.Replacement
import ManifestPin.Proofs.Sync.Stages

/-! # The course of a run

Every run has one of a few courses: its inspection fails or finds nothing to do, or it comes to its
build and writes the final manifest, or something stops it before. What a run comes to, what it
leaves and what it builds is read off its course.
-/

namespace ManifestPin

open BuildTool (Reports)

namespace Sync

section

variable {sync : Sync} {tree : Tree} {inspection : Inspection} {failure : Failure}
  {pinned current hash : String}

/-- The tree in which an out-of-date run builds. -/
def built (sync : Sync) (inspection : Inspection) (tree : Tree) : Tree :=
  match inspection.agreement with
  | .different => (tree.replaceText sync.tag sync.manifest inspection.provisional.content).tree
  | .equal => tree

/-- What the build in that tree comes to. -/
def build (sync : Sync) (inspection : Inspection) (tree : Tree) : BuildResult :=
  sync.tool.invoke sync.directory (sync.built inspection tree)

/-- A run that comes to its build: its inspection finds the manifest out of date, and the
provisional manifest, if it has to be written, is written. -/
structure Builds (sync : Sync) (tree : Tree) (inspection : Inspection) : Prop where
  inspected : (sync.inspect tree).2 = .ok inspection
  outdated : inspection.isUpToDate = false
  saved : inspection.agreement = .different →
    (tree.replaceText sync.tag sync.manifest inspection.provisional.content).result = .ok ()

theorem stands_of_inspect_error (refused : (sync.inspect tree).2 = .error failure) :
    (sync.run tree).Stands (.done (.error failure)) tree [] :=
  ((Run.stands_start tree).inspect_of_error refused).stays sync 3

theorem built_of_different (different : inspection.agreement = .different) :
    sync.built inspection tree =
      (tree.replaceText sync.tag sync.manifest inspection.provisional.content).tree := by
  rw [built, different]

theorem built_of_equal (equal : inspection.agreement = .equal) :
    sync.built inspection tree = tree := by
  rw [built, equal]

/-- A run that finds nothing to do is done after its first stage. -/
theorem steps_of_upToDate (inspected : (sync.inspect tree).2 = .ok inspection)
    (upToDate : inspection.isUpToDate = true) (count : Nat) :
    (Run.steps sync (count + 1) (Run.start tree)).Stands
      (.done (.ok (.notNeeded inspection.pin.version))) tree [] := by
  have first := (Run.stands_start tree).inspect inspected
  rw [Inspection.next, if_pos upToDate] at first
  exact first.stays sync count

theorem stands_of_upToDate (inspected : (sync.inspect tree).2 = .ok inspection)
    (upToDate : inspection.isUpToDate = true) :
    (sync.run tree).Stands (.done (.ok (.notNeeded inspection.pin.version))) tree [] :=
  steps_of_upToDate inspected upToDate 3

theorem outdated_of_different (different : inspection.agreement = .different) :
    inspection.isUpToDate = false := by
  simp [Inspection.isUpToDate, different]

/-- A run that finds another version pinned goes on to write the provisional manifest. -/
theorem stands_writing (inspected : (sync.inspect tree).2 = .ok inspection)
    (different : inspection.agreement = .different) :
    (Run.steps sync 1 (Run.start tree)).Stands (.writing inspection inspection.provisional) tree
      [] := by
  have sound := (Inspection.sound_of_inspect inspected).1
  have first := (Run.stands_start tree).inspect inspected
  rw [Inspection.next_of_sound sound (outdated_of_different different), different] at first
  exact first

theorem stands_of_write_error (inspected : (sync.inspect tree).2 = .ok inspection)
    (different : inspection.agreement = .different) {refusal : FileFailure}
    (refused : (tree.replaceText sync.tag sync.manifest inspection.provisional.content).result =
      .error refusal) :
    (sync.run tree).Stands (.done (.error (.file refusal)))
      (tree.replaceText sync.tag sync.manifest inspection.provisional.content).tree [] := by
  have path := (Inspection.sound_of_inspect inspected).2.1
  have second := (stands_writing inspected different).write sync
  rw [Inspection.path_provisional, path, refused, ← Run.steps_succ] at second
  exact stands_of_steps (by decide) second

/-- An out-of-date run builds, unless the provisional manifest cannot be written. -/
theorem builds_or_refused (inspected : (sync.inspect tree).2 = .ok inspection)
    (outdated : inspection.isUpToDate = false) :
    sync.Builds tree inspection ∨ inspection.agreement = .different ∧ ∃ refusal,
      (tree.replaceText sync.tag sync.manifest inspection.provisional.content).result =
        .error refusal := by
  cases agreement : inspection.agreement with
  | equal => exact .inl ⟨inspected, outdated, fun different => by simp [agreement] at different⟩
  | different =>
      cases saved : (tree.replaceText sync.tag sync.manifest
          inspection.provisional.content).result with
      | error refusal => exact .inr ⟨rfl, refusal, rfl⟩
      | ok => exact .inl ⟨inspected, outdated, fun _ => saved⟩

namespace Builds

variable (builds : sync.Builds tree inspection)

include builds

theorem sound : inspection.Sound :=
  (Inspection.sound_of_inspect builds.inspected).1

theorem path : inspection.manifest.path = sync.manifest :=
  (Inspection.sound_of_inspect builds.inspected).2.1

theorem stands_building_of_different (different : inspection.agreement = .different) :
    (Run.steps sync 2 (Run.start tree)).Stands (.building inspection inspection.provisional)
      (sync.built inspection tree) [] := by
  have second := (stands_writing builds.inspected different).write sync
  rw [Inspection.path_provisional, builds.path, builds.saved different, ← Run.steps_succ] at second
  rw [← built_of_different different] at second
  exact second

theorem stands_building_of_equal (equal : inspection.agreement = .equal) :
    (Run.steps sync 1 (Run.start tree)).Stands (.building inspection inspection.provisional)
      (sync.built inspection tree) [] := by
  have first := (Run.stands_start tree).inspect builds.inspected
  rw [Inspection.next_of_sound builds.sound builds.outdated, equal] at first
  rw [built_of_equal equal]
  exact first

/-- Two stages at least are left when the run builds. -/
theorem stands_building :
    ∃ count ≤ 2, (Run.steps sync count (Run.start tree)).Stands
      (.building inspection inspection.provisional) (sync.built inspection tree) [] := by
  cases agreement : inspection.agreement with
  | different => exact ⟨2, Nat.le_refl 2, builds.stands_building_of_different agreement⟩
  | equal => exact ⟨1, by decide, builds.stands_building_of_equal agreement⟩

/-- A run whose build reports a hash goes on to write the final manifest. -/
theorem stands_finishing
    (reports : Reports inspection.placeholder (sync.build inspection tree).result hash) :
    ∃ count ≤ 3, (Run.steps sync count (Run.start tree)).Stands
      (.finishing inspection (inspection.final hash) hash) (sync.build inspection tree).tree
      [⟨sync.directory, sync.built inspection tree⟩] := by
  obtain ⟨count, few, stands⟩ := builds.stands_building
  have last := stands.build sync builds.sound
  rw [BuildTool.tell_of_reports reports, ← Run.steps_succ] at last
  exact ⟨count + 1, Nat.succ_le_succ few, last⟩

/-- A run whose build fails goes on to write back what it found. -/
theorem stands_restoring
    (fails : sync.tool.Fails inspection.placeholder (sync.build inspection tree).result failure) :
    ∃ count ≤ 3, (Run.steps sync count (Run.start tree)).Stands
      (.restoring inspection failure) (sync.build inspection tree).tree
      [⟨sync.directory, sync.built inspection tree⟩] := by
  obtain ⟨count, few, stands⟩ := builds.stands_building
  have last := stands.build sync builds.sound
  rw [BuildTool.tell_of_fails fails, ← Run.steps_succ] at last
  exact ⟨count + 1, Nat.succ_le_succ few, last⟩

/-- The build finds the provisional manifest. -/
theorem readText_built
    (plain : inspection.agreement = .different →
      ∀ entry, tree.standing? (Tree.temporary sync.tag sync.manifest) = some entry →
        entry.isFile = true) :
    (sync.built inspection tree).readText sync.manifest = .ok inspection.provisional.content := by
  have read := (Inspection.sound_of_inspect builds.inspected).2.2
  cases agreement : inspection.agreement with
  | different =>
      rw [built_of_different agreement]
      exact Tree.readText_replaceText_of_readText read (plain agreement) (builds.saved agreement)
  | equal =>
      rw [built_of_equal agreement, builds.sound.provisional_of_equal builds.outdated agreement,
        read]

/-- A run whose build reports a hash writes the final manifest. -/
theorem stands_of_reports
    (reports : Reports inspection.placeholder (sync.build inspection tree).result hash) :
    (sync.run tree).Stands
      (Run.afterFinishing inspection hash
        ((sync.build inspection tree).tree.replaceText sync.tag sync.manifest
          (inspection.final hash).content).result)
      ((sync.build inspection tree).tree.replaceText sync.tag sync.manifest
        (inspection.final hash).content).tree
      [⟨sync.directory, sync.built inspection tree⟩] := by
  obtain ⟨count, few, stands⟩ := builds.stands_finishing reports
  have ended := stands.finish sync
  rw [Inspection.path_final, builds.path, ← Run.steps_succ] at ended
  generalize (sync.build inspection tree).tree.replaceText sync.tag sync.manifest
    (inspection.final hash).content = replacement at ended ⊢
  obtain ⟨result, done⟩ := Run.exists_afterFinishing inspection hash replacement.result
  rw [done] at ended ⊢
  exact stands_of_steps (Nat.succ_le_succ few) ended

/-- A run whose build fails writes back the manifest that it found. -/
theorem stands_of_fails
    (fails : sync.tool.Fails inspection.placeholder (sync.build inspection tree).result failure) :
    (sync.run tree).Stands (.done (.error failure))
      ((sync.build inspection tree).tree.replaceText sync.tag sync.manifest
        inspection.manifest.content).tree
      [⟨sync.directory, sync.built inspection tree⟩] := by
  obtain ⟨count, few, stands⟩ := builds.stands_restoring fails
  have ended := stands.restore sync
  rw [← Run.steps_succ] at ended
  exact stands_of_steps (Nat.succ_le_succ few) ended

/-- What is written at last is on file when the run ends, if nothing is in the way. -/
theorem readText_run
    (reports : Reports inspection.placeholder (sync.build inspection tree).result hash)
    (clear : ((sync.build inspection tree).tree.makeParent sync.manifest).1.Clear
      sync.tag sync.manifest)
    (written : ((sync.build inspection tree).tree.replaceText sync.tag sync.manifest
      (inspection.final hash).content).result = .ok ()) :
    (sync.run tree).tree.readText sync.manifest = .ok (inspection.final hash).content := by
  rw [(builds.stands_of_reports reports).tree]
  exact Tree.readText_replaceText clear written

/-- A run that comes to its build builds once. -/
theorem calls : (sync.run tree).calls = [⟨sync.directory, sync.built inspection tree⟩] := by
  rcases BuildTool.reports_or_fails sync.tool inspection.placeholder
    (sync.build inspection tree).result with ⟨hash, reports⟩ | ⟨failure, fails⟩
  · exact (builds.stands_of_reports reports).calls
  · exact (builds.stands_of_fails fails).calls

end Builds

/-- What stops a run that is out of date, the failure it comes to, and what it leaves. -/
inductive Stopped (sync : Sync) (tree : Tree) (inspection : Inspection) :
    Failure → Tree → List BuildCall → Prop where
  /-- The provisional manifest cannot be written. -/
  | unsaved (refusal : FileFailure) (different : inspection.agreement = .different)
      (refused : (tree.replaceText sync.tag sync.manifest inspection.provisional.content).result =
        .error refusal) :
      Stopped sync tree inspection (.file refusal)
        (tree.replaceText sync.tag sync.manifest inspection.provisional.content).tree []
  /-- The build tells no hash that can be pinned, and the manifest that was found is written
  back. -/
  | unbuilt (failure : Failure) (builds : sync.Builds tree inspection)
      (fails : sync.tool.Fails inspection.placeholder (sync.build inspection tree).result failure) :
      Stopped sync tree inspection failure
        ((sync.build inspection tree).tree.replaceText sync.tag sync.manifest
          inspection.manifest.content).tree
        [⟨sync.directory, sync.built inspection tree⟩]
  /-- The final manifest cannot be written. -/
  | unfinished (hash : String) (refusal : FileFailure) (builds : sync.Builds tree inspection)
      (reports : Reports inspection.placeholder (sync.build inspection tree).result hash)
      (refused : ((sync.build inspection tree).tree.replaceText sync.tag sync.manifest
        (inspection.final hash).content).result = .error refusal) :
      Stopped sync tree inspection (.file refusal)
        ((sync.build inspection tree).tree.replaceText sync.tag sync.manifest
          (inspection.final hash).content).tree
        [⟨sync.directory, sync.built inspection tree⟩]

/-- How a whole run goes: what it comes to, what it leaves, and its builds. -/
inductive Course (sync : Sync) (tree : Tree) :
    Except Failure Outcome → Tree → List BuildCall → Prop where
  /-- The inspection fails. -/
  | refused (failure : Failure) (refused : (sync.inspect tree).2 = .error failure) :
      Course sync tree (.error failure) tree []
  /-- Nothing has to be done. -/
  | upToDate (inspection : Inspection) (inspected : (sync.inspect tree).2 = .ok inspection)
      (upToDate : inspection.isUpToDate = true) :
      Course sync tree (.ok (.notNeeded inspection.pin.version)) tree []
  /-- An update is stopped. -/
  | stopped (inspection : Inspection) (failure : Failure) (after : Tree) (calls : List BuildCall)
      (inspected : (sync.inspect tree).2 = .ok inspection)
      (outdated : inspection.isUpToDate = false)
      (stopped : sync.Stopped tree inspection failure after calls) :
      Course sync tree (.error failure) after calls
  /-- The final manifest is written. -/
  | updated (inspection : Inspection) (hash : String) (builds : sync.Builds tree inspection)
      (reports : Reports inspection.placeholder (sync.build inspection tree).result hash)
      (written : ((sync.build inspection tree).tree.replaceText sync.tag sync.manifest
        (inspection.final hash).content).result = .ok ()) :
      Course sync tree (.ok (.updated inspection.pin.version inspection.current hash))
        ((sync.build inspection tree).tree.replaceText sync.tag sync.manifest
          (inspection.final hash).content).tree
        [⟨sync.directory, sync.built inspection tree⟩]

theorem Course.of_stands {result : Except Failure Outcome} {after : Tree}
    {calls : List BuildCall} (course : sync.Course tree result after calls)
    (stands : (sync.run tree).Stands (.done result) after calls) :
    sync.Course tree (sync.runResult tree) (sync.run tree).tree (sync.run tree).calls := by
  rw [runResult_of_stands stands, stands.tree, stands.calls]
  exact course

/-- The course of a run that comes to its build. -/
theorem Builds.course (builds : sync.Builds tree inspection) :
    sync.Course tree (sync.runResult tree) (sync.run tree).tree (sync.run tree).calls := by
  have stop {failure : Failure} {after : Tree} {calls : List BuildCall} :
      sync.Stopped tree inspection failure after calls →
        sync.Course tree (.error failure) after calls :=
    .stopped inspection failure after calls builds.inspected builds.outdated
  rcases BuildTool.reports_or_fails sync.tool inspection.placeholder
    (sync.build inspection tree).result with ⟨hash, reports⟩ | ⟨failure, fails⟩
  · have stands := builds.stands_of_reports reports
    cases written : ((sync.build inspection tree).tree.replaceText sync.tag sync.manifest
        (inspection.final hash).content).result with
    | error refusal =>
        rw [written] at stands
        exact (stop (.unfinished hash refusal builds reports written)).of_stands stands
    | ok =>
        rw [written] at stands
        exact (Course.updated inspection hash builds reports written).of_stands stands
  · exact (stop (.unbuilt failure builds fails)).of_stands (builds.stands_of_fails fails)

/-- Every run has one of these courses. -/
theorem course (sync : Sync) (tree : Tree) :
    sync.Course tree (sync.runResult tree) (sync.run tree).tree (sync.run tree).calls := by
  cases inspected : (sync.inspect tree).2 with
  | error failure =>
      exact (Course.refused failure inspected).of_stands (stands_of_inspect_error inspected)
  | ok inspection =>
      cases upToDate : inspection.isUpToDate with
      | true =>
          exact (Course.upToDate inspection inspected upToDate).of_stands
            (stands_of_upToDate inspected upToDate)
      | false =>
          rcases builds_or_refused inspected upToDate with builds | ⟨different, refusal, refused⟩
          · exact builds.course
          · exact (Course.stopped inspection _ _ _ inspected upToDate
              (.unsaved refusal different refused)).of_stands
              (stands_of_write_error inspected different refused)

/-- What a run that reports an update went through. -/
theorem builds_of_updated (updated : sync.runResult tree = .ok (.updated pinned current hash)) :
    ∃ inspection, sync.Builds tree inspection ∧ inspection.pin.version = pinned ∧
      inspection.current = current ∧
      Reports inspection.placeholder (sync.build inspection tree).result hash ∧
      ((sync.build inspection tree).tree.replaceText sync.tag sync.manifest
        (inspection.final hash).content).result = .ok () := by
  have course := sync.course tree
  generalize (sync.run tree).tree = after, (sync.run tree).calls = calls at course
  rw [updated] at course
  cases course with
  | updated inspection _ builds reports written =>
      exact ⟨inspection, builds, rfl, rfl, reports, written⟩

end

end Sync

end ManifestPin
