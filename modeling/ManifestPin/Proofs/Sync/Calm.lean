import ManifestPin.Proofs.Sync.Course

/-! # Calm runs

A run is calm when each of its writes succeeds, through nothing but a file at the temporary name,
and its build leaves the manifest as it is. Such a run leaves other octets in the manifest exactly
if it reports an update: a final manifest is never the text that was found, and after a build that
fails that text is there again.
-/

namespace ManifestPin

open BuildTool (Reports)

variable {sync : Sync} {tree after : Tree} {inspection : Inspection} {manifest : Manifest}
  {failure : Failure} {calls : List BuildCall} {stage : Stage} {count : Nat}
  {pinned current hash : String}

/-- The manifest that a stage writes, if it writes one. -/
def Stage.writes? (sync : Sync) : Stage → Option Manifest
  | .writing _ manifest => some manifest
  | .restoring inspection _ =>
    some { path := sync.manifest, content := inspection.manifest.content }
  | .finishing _ manifest _ => some manifest
  | .inspecting | .building .. | .done _ => none

namespace Sync

/-- A run whose writes succeed and whose build leaves the manifest alone. -/
structure Calm (sync : Sync) (tree : Tree) : Prop where
  /-- Each stage that writes does so with success. -/
  written : ∀ count manifest,
    (Run.steps sync count (Run.start tree)).stage.writes? sync = some manifest →
    ((Run.steps sync count (Run.start tree)).tree.replaceText sync.tag manifest.path
      manifest.content).result = .ok ()
  /-- Before it does, nothing but a file stands at the temporary name. -/
  plain : ∀ count manifest,
    (Run.steps sync count (Run.start tree)).stage.writes? sync = some manifest →
    ∀ entry, (Run.steps sync count (Run.start tree)).tree.standing?
      (Tree.temporary sync.tag manifest.path) = some entry → entry.isFile = true
  /-- The manifest has the same octets before and after a build. -/
  quiet : ∀ call ∈ (sync.run tree).calls,
    (sync.tool.invoke call.directory call.tree).tree.readOctets sync.manifest =
      call.tree.readOctets sync.manifest

namespace Calm

variable (calm : sync.Calm tree)

include calm

theorem written_of_stands
    (stands : (Run.steps sync count (Run.start tree)).Stands stage after calls)
    (writes : stage.writes? sync = some manifest) :
    (after.replaceText sync.tag manifest.path manifest.content).result = .ok () := by
  rw [← stands.stage] at writes
  rw [← stands.tree]
  exact calm.written count manifest writes

theorem plain_of_stands
    (stands : (Run.steps sync count (Run.start tree)).Stands stage after calls)
    (writes : stage.writes? sync = some manifest) (entry : Entry)
    (held : after.standing? (Tree.temporary sync.tag manifest.path) = some entry) :
    entry.isFile = true := by
  rw [← stands.stage] at writes
  rw [← stands.tree] at held
  exact calm.plain count manifest writes entry held

/-- What is read before a stage that writes is replaced by what it writes. -/
theorem readText_of_stands
    (stands : (Run.steps sync count (Run.start tree)).Stands stage after calls)
    (writes : stage.writes? sync = some manifest) {text : String}
    (read : after.readText manifest.path = .ok text) :
    (after.replaceText sync.tag manifest.path manifest.content).tree.readText manifest.path =
      .ok manifest.content :=
  Tree.readText_replaceText_of_readText read (calm.plain_of_stands stands writes)
    (calm.written_of_stands stands writes)

/-- A calm run that is out of date comes to its build. -/
theorem builds (inspected : (sync.inspect tree).2 = .ok inspection)
    (outdated : inspection.isUpToDate = false) : sync.Builds tree inspection := by
  rcases builds_or_refused inspected outdated with builds | ⟨different, refusal, refused⟩
  · exact builds
  · have path := (Inspection.sound_of_inspect inspected).2.1
    have written := calm.written_of_stands (stands_writing inspected different) rfl
    rw [Inspection.path_provisional, path, refused] at written
    cases written

/-- After the build the provisional manifest is still on file. -/
theorem readText_build (builds : sync.Builds tree inspection) :
    (sync.build inspection tree).tree.readText sync.manifest =
      .ok inspection.provisional.content := by
  have quiet := calm.quiet ⟨sync.directory, sync.built inspection tree⟩ (by simp [builds.calls])
  rw [build, Tree.readText_congr quiet]
  refine builds.readText_built fun different => ?_
  have path : inspection.provisional.path = sync.manifest :=
    inspection.path_provisional.trans builds.path
  have plain := calm.plain_of_stands (stands_writing builds.inspected different) rfl
  rwa [path] at plain

/-- After an update the manifest has other octets. -/
theorem readOctets_of_updated
    (updated : sync.runResult tree = .ok (.updated pinned current hash)) :
    (sync.run tree).tree.readOctets sync.manifest ≠ tree.readOctets sync.manifest := by
  obtain ⟨inspection, builds, -, -, reports, -⟩ := builds_of_updated updated
  obtain ⟨output, -, reported⟩ := reports.reported
  obtain ⟨count, -, stands⟩ := builds.stands_finishing reports
  have path := (inspection.path_final hash).trans builds.path
  have read := calm.readText_of_stands stands rfl (path ▸ calm.readText_build builds)
  rw [path, ← (builds.stands_of_reports reports).tree] at read
  intro same
  have found := (Inspection.sound_of_inspect builds.inspected).2.2
  rw [Tree.readText_congr same, found] at read
  exact builds.sound.content_final_ne builds.outdated (Report.feed_not_mem_hash? reported)
    reports.apart (Except.ok.inj read).symm

/-- After a failure it has the octets that were found. -/
theorem readOctets_of_error (failed : sync.runResult tree = .error failure) :
    (sync.run tree).tree.readOctets sync.manifest = tree.readOctets sync.manifest := by
  have course := sync.course tree
  generalize (sync.run tree).tree = after, (sync.run tree).calls = calls at course ⊢
  rw [failed] at course
  cases course with
  | refused => rfl
  | stopped inspection _ _ _ inspected outdated stopped =>
      have builds := calm.builds inspected outdated
      cases stopped with
      | unsaved refusal different refused =>
          rw [builds.saved different] at refused
          cases refused
      | unbuilt _ _ fails =>
          obtain ⟨count, -, stands⟩ := builds.stands_restoring fails
          have read := calm.readText_of_stands stands rfl (calm.readText_build builds)
          have found := (Inspection.sound_of_inspect builds.inspected).2.2
          exact Tree.readOctets_of_readText found read
      | unfinished hash refusal _ reports refused =>
          obtain ⟨count, -, stands⟩ := builds.stands_finishing reports
          have written := calm.written_of_stands stands rfl
          rw [Inspection.path_final, builds.path, refused] at written
          cases written

end Calm

/-- The ends of a calm run. -/
inductive Ends (sync : Sync) (tree : Tree) : Prop where
  /-- It fails, and the manifest has the octets that it had. -/
  | failed (failure : Failure) (result : sync.runResult tree = .error failure)
      (same : (sync.run tree).tree.readOctets sync.manifest = tree.readOctets sync.manifest)
  /-- It finds nothing to do and leaves all files alone. -/
  | upToDate (inspection : Inspection) (inspected : (sync.inspect tree).2 = .ok inspection)
      (upToDate : inspection.isUpToDate = true)
      (result : sync.runResult tree = .ok (.notNeeded inspection.pin.version))
      (untouched : (sync.run tree).tree = tree) (unbuilt : (sync.run tree).calls = [])
  /-- It updates the manifest, which has other octets then. -/
  | updated (pinned current hash : String)
      (result : sync.runResult tree = .ok (.updated pinned current hash))
      (changed : (sync.run tree).tree.readOctets sync.manifest ≠ tree.readOctets sync.manifest)

theorem Calm.ends (calm : sync.Calm tree) : sync.Ends tree := by
  cases result : sync.runResult tree with
  | error failure => exact .failed failure result (calm.readOctets_of_error result)
  | ok outcome =>
      have course := sync.course tree
      generalize left : (sync.run tree).tree = after, made : (sync.run tree).calls = calls at course
      rw [result] at course
      cases course with
      | upToDate inspection inspected upToDate =>
          exact .upToDate inspection inspected upToDate result left made
      | updated inspection hash =>
          exact .updated _ _ hash result (calm.readOctets_of_updated result)

/-- Only the first stages of a run write. -/
theorem lt_of_writes
    (writes : (Run.steps sync count (Run.start tree)).stage.writes? sync = some manifest) :
    count < 4 := by
  by_contra many
  have done := Run.rank_steps sync count (Run.start tree) (Nat.le_of_not_lt many)
  generalize (Run.steps sync count (Run.start tree)).stage = stage at done writes
  cases stage with
  | inspecting | building | done => cases writes
  | writing | restoring | finishing => cases done

end Sync

end ManifestPin
