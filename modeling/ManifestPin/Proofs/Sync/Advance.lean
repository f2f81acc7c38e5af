import ManifestPin.Proofs.Files.Hosting
import ManifestPin.Proofs.Sync.Outstanding

/-! # Stages of an outstanding update

Runs that work on an outstanding update put no other text on file than one of three editions of the
manifest: what was found, the provisional and the final one. `Advances` says all that one step of a
run can make of the edition on file and of its own stage, whatever other runs have done before.
-/

namespace ManifestPin

open BuildTool (Reports)

/-- What is on file while an update is outstanding or was just finished. -/
inductive Edition where
  /-- What was found. -/
  | found
  /-- The declared version and a placeholder. -/
  | provisional
  /-- The declared version and the hash. -/
  | final
  deriving DecidableEq

/-- The manifest of an edition. -/
def Edition.manifest (edition : Edition) (inspection : Inspection) (hash : String) : Manifest :=
  match edition with
  | .found => inspection.manifest
  | .provisional => inspection.provisional
  | .final => inspection.final hash

/-- A tree with the parameter file of an update and a manifest of some content, whatever its runs
leave at temporary names. -/
abbrev Sync.Keeps (base : Sync) (tags : String → Prop) (declaration content : String)
    (tree : Tree) : Prop :=
  tree.Serves tags base.parameters base.manifest declaration content

/-- A run on the same two files, with one of some tags. -/
structure Sync.Alike (sync base : Sync) (tags : String → Prop) : Prop where
  parameters : sync.parameters = base.parameters
  manifest : sync.manifest = base.manifest
  key : sync.versionKey = base.versionKey
  tag : tags sync.tag

/-- A run that joins others on the same files: its build leaves both files alone. -/
structure Sync.Joins (sync base : Sync) (tags : String → Prop) (declaration : String) : Prop
    extends sync.Alike base tags where
  quiet : ∀ (tree : Tree) (content : String), base.Keeps tags declaration content tree →
    base.Keeps tags declaration content (sync.tool.invoke sync.directory tree).tree

/-- A run whose build, where both files are on file, tells no hash but some. -/
def Sync.Tells (sync base : Sync) (tags : String → Prop) (declaration placeholder : String)
    (Told : String → Prop) : Prop :=
  ∀ (tree : Tree) (content told : String), base.Keeps tags declaration content tree →
    Reports placeholder (sync.tool.invoke sync.directory tree).result told → Told told

/-- A hash that can be pinned, as all hashes that a build tells. -/
structure Pinnable (hash : String) : Prop where
  single : '\n' ∉ hash.toList
  real : Hash.isPlaceholder hash = false

theorem BuildTool.Reports.pinnable {placeholder hash : String} {result : Except Failure BuildOutput}
    (reports : Reports placeholder result hash) : Pinnable hash := by
  obtain ⟨output, -, reported⟩ := reports.reported
  exact ⟨Report.feed_not_mem_hash? reported, reports.real⟩

/-- Whether a run has read the files and is not done. -/
def Stage.underWay : Stage → Bool
  | .inspecting | .done _ => false
  | _ => true

/-- Whether a run has come to an outcome. -/
def Stage.succeeded : Stage → Bool
  | .done (.ok _) => true
  | _ => false

/-- Whether a run has read the files and has not come to an outcome, be it that it failed. -/
def Stage.unsettled : Stage → Bool
  | .inspecting | .done (.ok _) => false
  | _ => true

section

variable (found : Inspection) (hash : String) (Told : String → Prop)

/-- The stages of a run on shared files whose build tells no hash but some. -/
inductive Stage.Serves : Stage → Prop where
  | inspecting : Serves .inspecting
  | writing : Serves (.writing found found.provisional)
  | building {inspection : Inspection} (stale : found.Stale inspection) :
      Serves (.building inspection found.provisional)
  | restoring {inspection : Inspection} {failure : Failure} (stale : found.Stale inspection) :
      Serves (.restoring inspection failure)
  | finishing {inspection : Inspection} {told : String} (stale : found.Stale inspection)
      (pinnable : Pinnable told) (said : Told told) :
      Serves (.finishing inspection (found.final told) told)
  | done {result : Except Failure Outcome} : Serves (.done result)

/-- What a step of a run can make of the edition on file and of the run's stage, if it does not write
a hash other than a given one. -/
inductive Advances : Edition → Stage → Edition → Stage → Prop where
  | revises (different : found.agreement = .different) :
      Advances .found .inspecting .found (.writing found found.provisional)
  | resumes {before : Edition} {inspection : Inspection} (stale : found.Stale inspection)
      (unfinished : before ≠ .final)
      (written : found.agreement = .different → before = .provisional) :
      Advances before .inspecting before (.building inspection found.provisional)
  /-- An empty hash has an empty placeholder, which passes for a hash. -/
  | passes {version : String} (blank : found.pending.isUpToDate = true) :
      Advances .provisional .inspecting .provisional (.done (.ok (.notNeeded version)))
  | settles {version : String} (pinned : found.provisional.value .version = .ok version) :
      Advances .final .inspecting .final (.done (.ok (.notNeeded version)))
  | writes {before : Edition} (stale : found.Stale found) :
      Advances before (.writing found found.provisional) .provisional
        (.building found found.provisional)
  | told {before : Edition} {inspection : Inspection} {told : String}
      (stale : found.Stale inspection) (pinnable : Pinnable told) (said : Told told) :
      Advances before (.building inspection found.provisional) before
        (.finishing inspection (found.final told) told)
  | untold {before : Edition} {inspection : Inspection} {failure : Failure}
      (stale : found.Stale inspection) :
      Advances before (.building inspection found.provisional) before
        (.restoring inspection failure)
  | restores {before after : Edition} {inspection : Inspection} {failure : Failure}
      (unfinished : after ≠ .final) :
      Advances before (.restoring inspection failure) after (.done (.error failure))
  | finishes {before : Edition} {inspection : Inspection} {pinned : String}
      (pinnable : Pinnable hash) :
      Advances before (.finishing inspection (found.final hash) hash) .final
        (.done (.ok (.updated pinned found.current hash)))
  /-- A write is refused. -/
  | refused {before : Edition} {stage : Stage} {failure : Failure}
      (underWay : stage.underWay = true) :
      Advances before stage before (.done (.error failure))
  | stays {before : Edition} {result : Except Failure Outcome} :
      Advances before (.done result) before (.done result)

/-- The end of a run that wrote another hash. -/
def Stage.Strays (stage : Stage) : Prop :=
  ∃ pinned current told, stage = .done (.ok (.updated pinned current told)) ∧ Told told ∧ told ≠ hash

end

section

variable {base sync : Sync} {tags : String → Prop} {declaration hash : String}
  {found inspection : Inspection} {Told : String → Prop} {before after : Edition} {tree : Tree}
  {run : Run} {calls : List BuildCall} {stage next : Stage} {failure : Failure} {told : String}

namespace Advances

theorem serves (advances : Advances found hash Told before stage after next) :
    next.Serves found Told := by
  cases advances with
  | revises => exact .writing
  | resumes stale => exact .building stale
  | writes stale => exact .building stale
  | told stale pinnable said => exact .finishing stale pinnable said
  | untold stale => exact .restoring stale
  | passes | settles | restores | finishes | refused | stays => exact .done

/-- The final edition comes on file with a hash that can be pinned. -/
theorem pinnable (advances : Advances found hash Told before stage after next)
    (known : before = .final → Pinnable hash) : after = .final → Pinnable hash := by
  intro final
  cases advances with
  | finishes pinnable => exact pinnable
  | restores unfinished => exact absurd final unfinished
  | revises | passes | writes => cases final
  | resumes | settles | told | untold | refused | stays => exact known final

/-- Short of the final edition, a run that has read the files is not settled by its turn, unless it
passes over an empty placeholder. -/
theorem unsettled (advances : Advances found hash Told before stage after next) :
    after = .final ∨ next.unsettled = true ∨
      after = before ∧ (before = .provisional ∧ stage = .inspecting ∨ next = stage) := by
  cases advances with
  | settles | finishes => exact .inl rfl
  | revises | resumes | writes | told | untold | restores | refused => exact .inr (.inl rfl)
  | passes => exact .inr (.inr ⟨rfl, .inl ⟨rfl, rfl⟩⟩)
  | stays => exact .inr (.inr ⟨rfl, .inr rfl⟩)

end Advances

/-- A step of a run and what it makes of the edition on file. -/
def Proceeds (base : Sync) (tags : String → Prop) (declaration : String) (found : Inspection)
    (hash : String) (Told : String → Prop) (before : Edition) (stage : Stage) (run : Run) : Prop :=
  (∃ after, Advances found hash Told before stage after run.stage ∧
    base.Keeps tags declaration (after.manifest found hash).content run.tree) ∨
  run.stage.Strays hash Told

theorem Proceeds.of_stands (stands : run.Stands next tree calls)
    (advances : Advances found hash Told before stage after next)
    (held : base.Keeps tags declaration (after.manifest found hash).content tree) :
    Proceeds base tags declaration found hash Told before stage run := by
  obtain ⟨rfl, rfl, -⟩ := stands
  exact .inl ⟨after, advances, held⟩

namespace Proceeds

theorem builds
    (left : base.Keeps tags declaration (before.manifest found hash).content
      (sync.tool.invoke sync.directory tree).tree)
    (tells : ∀ told, Reports found.placeholder (sync.tool.invoke sync.directory tree).result told →
      Told told)
    (stale : found.Stale inspection)
    (stands : run.Stands (.building inspection found.provisional) tree calls) :
    Proceeds base tags declaration found hash Told before (.building inspection found.provisional)
      (run.step sync) := by
  rcases stale.builds sync stands with ⟨told, reports, next⟩ | ⟨failure, next⟩
  · exact .of_stands next (.told stale reports.pinnable (tells told reports)) left
  · exact .of_stands next (.untold stale) left

variable (alike : sync.Alike base tags)
  (held : base.Keeps tags declaration (before.manifest found hash).content tree)

section

variable (outstanding : Outstanding base declaration found)

include alike held outstanding

theorem inspects (unquoted : '"' ∉ hash.toList) (pinnable : before = .final → Pinnable hash)
    (stands : run.Stands .inspecting tree calls) :
    Proceeds base tags declaration found hash Told before .inspecting (run.step sync) := by
  have inspect {inspection : Inspection} (sound : inspection.Sound)
      (path : inspection.manifest.path = base.manifest)
      (current : inspection.current = found.current)
      (content : tree.readText base.manifest = .ok inspection.manifest.content) :
      (run.step sync).Stands inspection.next.2 tree calls :=
    stands.inspect (outstanding.inspect_of_readText sync alike.parameters alike.manifest alike.key
      sound path current held.readText_parameters content)
  have resume {inspection : Inspection} (stale : found.Stale inspection)
      (content : tree.readText base.manifest = .ok inspection.manifest.content)
      (equal : inspection.agreement = .equal) :
      (run.step sync).Stands (.building inspection found.provisional) tree calls := by
    have next := inspect stale.sound (stale.path.trans outstanding.path) stale.current content
    rwa [Inspection.next_of_sound stale.sound stale.outdated, equal, stale.provisional] at next
  cases before with
  | found =>
      cases agreement : found.agreement with
      | equal =>
          have next := resume outstanding.stale held.readText_manifest agreement
          have apart : found.agreement = .different → Edition.found = .provisional := by
            simp [agreement]
          exact .of_stands next (.resumes outstanding.stale (by decide) apart) held
      | different =>
          have next := inspect outstanding.sound outstanding.path rfl held.readText_manifest
          rw [Inspection.next_of_sound outstanding.sound outstanding.outdated, agreement] at next
          exact .of_stands next (.revises agreement) held
  | provisional =>
      cases agreement : found.agreement with
      | equal =>
          have same := outstanding.sound.provisional_of_equal outstanding.outdated agreement
          have content := held.readText_manifest
          rw [Edition.manifest, same] at content
          have next := resume outstanding.stale content agreement
          exact .of_stands next (.resumes outstanding.stale (by decide) fun _ => rfl) held
      | different =>
          cases finished : found.pending.isUpToDate with
          | false =>
              have stale := outstanding.stale_pending agreement finished
              have next := resume stale held.readText_manifest rfl
              exact .of_stands next (.resumes stale (by decide) fun _ => rfl) held
          | true =>
              have path := found.path_provisional.trans outstanding.path
              have next := inspect (outstanding.sound.pending agreement) path rfl held.readText_manifest
              rw [Inspection.next, if_pos finished] at next
              exact .of_stands next (.passes finished) held
  | final =>
      obtain ⟨single, real⟩ := pinnable rfl
      obtain ⟨version, pinned, equal⟩ := outstanding.sound.version_provisional
      have sound := outstanding.sound.finished single unquoted pinned equal
      have path := (found.path_final hash).trans outstanding.path
      have next := inspect sound path rfl held.readText_manifest
      rw [Inspection.next, if_pos (Inspection.upToDate_finished real)] at next
      exact .of_stands next (.settles pinned) held

end

variable (plain : ∀ tag, tags tag → '/' ∉ tag.toList)

include alike held plain

theorem writes (stale : found.Stale found) (path : found.manifest.path = base.manifest)
    (stands : run.Stands (.writing found found.provisional) tree calls) :
    Proceeds base tags declaration found hash Told before (.writing found found.provisional)
      (run.step sync) := by
  have next := stands.write sync
  rw [found.path_provisional, path] at next
  rcases held.replaceText_or_same plain alike.tag found.provisional.content with
    ⟨written, left⟩ | ⟨refusal, refused, left⟩
  · rw [written] at next
    exact .of_stands next (.writes stale) left
  · rw [refused] at next
    exact .of_stands next (.refused rfl) left

theorem restores (stale : found.Stale inspection)
    (stands : run.Stands (.restoring inspection failure) tree calls) :
    Proceeds base tags declaration found hash Told before (.restoring inspection failure)
      (run.step sync) := by
  have next := stands.restore sync
  rw [alike.manifest] at next
  rcases held.replaceText_or_same plain alike.tag inspection.manifest.content with
    ⟨-, left⟩ | ⟨-, -, left⟩
  · have restored (after : Edition) (unfinished : after ≠ .final) :
        Advances found hash Told before (.restoring inspection failure) after
          (.done (.error failure)) :=
      .restores unfinished
    rcases stale.content with same | same
    · rw [same] at next left
      exact .of_stands next (restored .found (by decide)) left
    · rw [same] at next left
      exact .of_stands next (restored .provisional (by decide)) left
  · exact .of_stands next (.refused rfl) left

theorem finishes (stale : found.Stale inspection) (path : found.manifest.path = base.manifest)
    (pinnable : Pinnable told) (said : Told told)
    (stands : run.Stands (.finishing inspection (found.final told) told) tree calls) :
    Proceeds base tags declaration found hash Told before
      (.finishing inspection (found.final told) told) (run.step sync) := by
  have next := stands.finish sync
  rw [found.path_final, path] at next
  rcases held.replaceText_or_same plain alike.tag (found.final told).content with
    ⟨written, left⟩ | ⟨refusal, refused, left⟩
  · rw [written, Run.afterFinishing, stale.current] at next
    by_cases same : told = hash
    · subst same
      exact .of_stands next (.finishes pinnable) left
    · exact .inr ⟨_, _, told, next.stage, said, same⟩
  · rw [refused] at next
    exact .of_stands next (.refused rfl) left

end Proceeds

end

end ManifestPin
