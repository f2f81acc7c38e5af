import ManifestPin.Proofs.Sync.Advance
import ManifestPin.Proofs.Sync.Rollback

/-! # Recovery

Runs on one manifest may be killed between any two of their stages. The manifest then holds what the
first run found, the provisional content or the final content; a later run goes on from there and
comes to the same final content.
-/

namespace ManifestPin

open BuildTool (Reports)

/-- A tree with the parameter file of a history and a manifest of some content. -/
abbrev Sync.Holds (base : Sync) (declaration content : String) (tree : Tree) : Prop :=
  base.Keeps (fun tag => '/' ∉ tag.toList) declaration content tree

/-- A run of a history: its tool, where it builds, the tag of its temporary files, and how many of
its stages it went through before it was killed or done. -/
structure Attempt where
  tool : BuildTool
  directory : String
  tag : String
  stages : Nat

namespace Attempt

/-- What an attempt keeps in step. -/
def sync (attempt : Attempt) (base : Sync) : Sync :=
  { base with tool := attempt.tool, directory := attempt.directory, tag := attempt.tag }

/-- The stages that an attempt goes through. -/
def run (attempt : Attempt) (base : Sync) (tree : Tree) : Run :=
  Run.steps (attempt.sync base) attempt.stages (Run.start tree)

/-- The tree after some attempts, one after the other. -/
def history (base : Sync) (tree : Tree) (attempts : List Attempt) : Tree :=
  attempts.foldl (fun tree attempt => (attempt.run base tree).tree) tree

/-- An attempt whose build leaves both files alone, and tells the hash or fails. -/
structure Fits (attempt : Attempt) (base : Sync) (declaration : String) (found : Inspection)
    (hash : String) : Prop where
  plain : '/' ∉ attempt.tag.toList
  quiet : ∀ tree : Tree, base.Holds declaration found.provisional.content tree →
    base.Holds declaration found.provisional.content
      (attempt.tool.invoke attempt.directory tree).tree
  tells : ∀ (tree : Tree) (told : String),
    base.Holds declaration found.provisional.content tree →
    Reports found.placeholder (attempt.tool.invoke attempt.directory tree).result told →
    told = hash

/-- An attempt whose writes are granted where the file system refuses nothing: the build does not
change that, and the name of the temporary file is one that the system takes. -/
structure Granted (attempt : Attempt) (base : Sync) : Prop where
  build : ∀ tree : Tree, tree.refusals = .none →
    (attempt.tool.invoke attempt.directory tree).tree.refusals = .none
  admits : Tree.Admits attempt.tag base.manifest

namespace Granted

variable {attempt : Attempt} {base : Sync} (granted : attempt.Granted base) {run : Run}

include granted

theorem step (free : run.tree.refusals = .none) :
    (run.step (attempt.sync base)).tree.refusals = .none := by
  have replaced {tag path text : String} :
      (run.tree.replaceText tag path text).tree.refusals = .none :=
    (run.tree.refusals_replace tag path text.toUTF8).trans free
  have built : ((attempt.sync base).tool.discover (attempt.sync base).directory
      run.tree).tree.refusals = .none := by
    rw [BuildTool.tree_discover]
    exact granted.build run.tree free
  have inspected : (run.inspect (attempt.sync base)).tree.refusals = .none := by
    unfold Run.inspect
    split <;> exact free
  have discovered (inspection : Inspection) (manifest : Manifest) :
      (run.build (attempt.sync base) inspection manifest).tree.refusals = .none := by
    simp only [Run.build]
    split <;> exact built
  unfold Run.step
  cases run.stage with
  | inspecting => exact inspected
  | writing inspection manifest => exact replaced
  | building inspection manifest => exact discovered inspection manifest
  | restoring inspection failure => exact replaced
  | finishing inspection manifest hash => exact replaced
  | done result => exact free

theorem steps (count : Nat) (free : run.tree.refusals = .none) :
    (Run.steps (attempt.sync base) count run).tree.refusals = .none := by
  induction count generalizing run with
  | zero => exact free
  | succ count ih => exact ih (granted.step free)

end Granted

end Attempt

/-- What all runs of a history share: a sound first inspection that found another version and some
hash, and the hash that builds report. -/
structure Recoverable (base : Sync) (declaration : String) (found : Inspection) (hash : String) :
    Prop where
  sound : found.Sound
  path : found.manifest.path = base.manifest
  different : found.agreement = .different
  nonempty : found.pin.hash ≠ ""
  declares : ∀ tree : Tree, tree.readText base.parameters = .ok declaration →
    ∃ token, tree.declaredVersion base.parameters base.versionKey = .ok ⟨token, found.current⟩
  unquoted : '"' ∉ hash.toList
  single : '\n' ∉ hash.toList
  real : Hash.isPlaceholder hash = false

namespace Recoverable

variable {base : Sync} {declaration hash : String} {found : Inspection}
  (recoverable : Recoverable base declaration found hash)

include recoverable

theorem version_provisional : found.provisional.value .version = .ok found.current :=
  recoverable.sound.version_provisional_of_different recoverable.different

theorem outstanding : Outstanding base declaration found :=
  ⟨recoverable.sound, recoverable.path, Sync.outdated_of_different recoverable.different,
    recoverable.declares⟩

theorem upToDate_settled : (found.settled hash).isUpToDate = true :=
  Inspection.upToDate_finished recoverable.real

theorem stale_pending : found.Stale found.pending :=
  recoverable.outstanding.stale_pending recoverable.different
    (Inspection.outdated_pending recoverable.nonempty)

/-- What is found in a tree that hosts a manifest. -/
theorem inspect_of_holds (sync : Sync) (parameters : sync.parameters = base.parameters)
    (manifest : sync.manifest = base.manifest) (key : sync.versionKey = base.versionKey)
    {tree : Tree} {inspection : Inspection} (sound : inspection.Sound)
    (path : inspection.manifest.path = base.manifest)
    (current : inspection.current = found.current)
    (holds : base.Holds declaration inspection.manifest.content tree) :
    (sync.inspect tree).2 = .ok inspection :=
  recoverable.outstanding.inspect_of_readText sync parameters manifest key sound path current
    holds.readText_parameters holds.readText_manifest

/-- The final manifest pins the declared version and the hash. -/
theorem sound_settled : (found.settled hash).Sound :=
  recoverable.sound.finished recoverable.single recoverable.unquoted
    recoverable.version_provisional recoverable.sound.agreement_current

end Recoverable

section Follows

variable (base : Sync) (declaration : String) (found : Inspection) (hash : String)

/-- What is on file at each stage of a run of the history. -/
inductive Follows : Stage → Tree → Prop where
  | inspecting {tree : Tree} (held : base.Holds declaration found.manifest.content tree ∨
      base.Holds declaration found.provisional.content tree ∨
      base.Holds declaration (found.final hash).content tree) :
      Follows .inspecting tree
  | writing {tree : Tree} (held : base.Holds declaration found.manifest.content tree) :
      Follows (.writing found found.provisional) tree
  | building {tree : Tree} {inspection : Inspection} (stale : found.Stale inspection)
      (held : base.Holds declaration found.provisional.content tree) :
      Follows (.building inspection found.provisional) tree
  | restoring {tree : Tree} {inspection : Inspection} {failure : Failure}
      (stale : found.Stale inspection)
      (held : base.Holds declaration found.provisional.content tree) :
      Follows (.restoring inspection failure) tree
  | finishing {tree : Tree} {inspection : Inspection} (stale : found.Stale inspection)
      (held : base.Holds declaration found.provisional.content tree) :
      Follows (.finishing inspection (found.final hash) hash) tree
  | updated {tree : Tree} {pinned : String}
      (held : base.Holds declaration (found.final hash).content tree) :
      Follows (.done (.ok (.updated pinned found.current hash))) tree
  | notNeeded {tree : Tree} (held : base.Holds declaration (found.final hash).content tree) :
      Follows (.done (.ok (.notNeeded found.current))) tree
  | failed {tree : Tree} {failure : Failure}
      (held : base.Holds declaration found.manifest.content tree ∨
        base.Holds declaration found.provisional.content tree) :
      Follows (.done (.error failure)) tree

variable {base declaration found hash} {stage : Stage} {tree : Tree} {run : Run}
  {calls : List BuildCall} {attempt : Attempt}

namespace Follows

/-- At each stage one of three contents is on file. -/
theorem holds (follows : Follows base declaration found hash stage tree) :
    base.Holds declaration found.manifest.content tree ∨
      base.Holds declaration found.provisional.content tree ∨
      base.Holds declaration (found.final hash).content tree := by
  cases follows with
  | inspecting held => exact held
  | writing held => exact .inl held
  | building _ held | restoring _ held | finishing _ held => exact .inr (.inl held)
  | updated held | notNeeded held => exact .inr (.inr held)
  | failed held => exact held.imp_right .inl

theorem of_stands (stands : run.Stands stage tree calls)
    (follows : Follows base declaration found hash stage tree) :
    Follows base declaration found hash run.stage run.tree := by
  rw [stands.stage, stands.tree]
  exact follows

theorem failed_of_ne_final {edition : Edition} {failure : Failure} (short : edition ≠ .final)
    (held : base.Holds declaration (edition.manifest found hash).content tree) :
    Follows base declaration found hash (.done (.error failure)) tree := by
  cases edition with
  | found => exact .failed (.inl held)
  | provisional => exact .failed (.inr held)
  | final => exact absurd rfl short

/-- The editions that a run of a history finds on file at the stages before its end. -/
inductive Finds : Stage → Edition → Prop where
  | inspecting {edition : Edition} : Finds .inspecting edition
  | writing {inspection : Inspection} {manifest : Manifest} :
      Finds (.writing inspection manifest) .found
  | building {inspection : Inspection} {manifest : Manifest} :
      Finds (.building inspection manifest) .provisional
  | restoring {inspection : Inspection} {failure : Failure} :
      Finds (.restoring inspection failure) .provisional
  | finishing {inspection : Inspection} {manifest : Manifest} {hash : String} :
      Finds (.finishing inspection manifest hash) .provisional

/-- What a step of a run of a history comes to, where the pinned hash is not empty and builds tell
the hash. -/
theorem of_proceeds (recoverable : Recoverable base declaration found hash) {before : Edition}
    (finds : Finds stage before)
    (proceeds : Proceeds base (fun tag => '/' ∉ tag.toList) declaration found hash (· = hash)
      before stage run) :
    Follows base declaration found hash run.stage run.tree := by
  rcases proceeds with ⟨after, advances, held⟩ | ⟨pinned, current, told, -, said, other⟩
  · generalize run.stage = next at advances ⊢
    cases advances with
    | revises => exact .writing held
    | resumes stale _ written =>
        obtain rfl := written recoverable.different
        exact .building stale held
    | passes blank =>
        rw [Inspection.outdated_pending recoverable.nonempty] at blank
        cases blank
    | settles pinned =>
        rw [recoverable.version_provisional] at pinned
        cases pinned
        exact .notNeeded held
    | writes stale => exact .building stale held
    | told stale _ said =>
        subst said
        cases finds
        exact .finishing stale held
    | untold stale =>
        cases finds
        exact .restoring stale held
    | restores unfinished => exact failed_of_ne_final unfinished held
    | finishes => exact .updated held
    | refused underWay =>
        refine failed_of_ne_final ?_ held
        cases finds with
        | inspecting => cases underWay
        | writing | building | restoring | finishing => decide
    | stays => cases finds
  · exact absurd said other

section Step

variable (recoverable : Recoverable base declaration found hash)
  (fits : attempt.Fits base declaration found hash)

include recoverable fits

/-- Each stage of an attempt keeps one of the three contents on file. -/
theorem step (follows : Follows base declaration found hash run.stage run.tree) :
    Follows base declaration found hash (run.step (attempt.sync base)).stage
      (run.step (attempt.sync base)).tree := by
  have stands : run.Stands run.stage run.tree run.calls := ⟨rfl, rfl, rfl⟩
  have path := recoverable.path
  have alike : (attempt.sync base).Alike base (fun tag => '/' ∉ tag.toList) :=
    ⟨rfl, rfl, rfl, fits.plain⟩
  have keeps (edition : Edition) {tree : Tree}
      (held : base.Holds declaration (edition.manifest found hash).content tree) :
      base.Keeps (fun tag => '/' ∉ tag.toList) declaration (edition.manifest found hash).content
        tree :=
    held
  generalize run.stage = stage at stands follows
  generalize run.tree = tree at stands follows
  cases follows with
  | inspecting held =>
      obtain ⟨edition, held⟩ : ∃ edition : Edition,
          base.Holds declaration (edition.manifest found hash).content tree := by
        rcases held with held | held | held
        · exact ⟨.found, held⟩
        · exact ⟨.provisional, held⟩
        · exact ⟨.final, held⟩
      exact of_proceeds recoverable .inspecting (.inspects alike (keeps edition held)
        recoverable.outstanding recoverable.unquoted
        (fun _ => ⟨recoverable.single, recoverable.real⟩) stands)
  | writing held =>
      exact of_proceeds recoverable .writing (.writes alike (keeps .found held) (fun _ => id)
        recoverable.outstanding.stale path stands)
  | building stale held =>
      exact of_proceeds recoverable .building (.builds (keeps .provisional (fits.quiet tree held))
        (fun told => fits.tells tree told held) stale stands)
  | restoring stale held =>
      exact of_proceeds recoverable .restoring (.restores alike (keeps .provisional held)
        (fun _ => id) stale stands)
  | finishing stale held =>
      exact of_proceeds recoverable .finishing (.finishes alike (keeps .provisional held)
        (fun _ => id) stale path ⟨recoverable.single, recoverable.real⟩ rfl stands)
  | updated held => exact of_stands (stands.done _) (.updated held)
  | notNeeded held => exact of_stands (stands.done _) (.notNeeded held)
  | failed held => exact of_stands (stands.done _) (.failed held)

/-- So does any number of stages. -/
theorem steps (count : Nat) (follows : Follows base declaration found hash run.stage run.tree) :
    Follows base declaration found hash (Run.steps (attempt.sync base) count run).stage
      (Run.steps (attempt.sync base) count run).tree := by
  induction count generalizing run with
  | zero => exact follows
  | succ count ih => exact ih (step recoverable fits follows)

end Step

end Follows

end Follows

namespace Recoverable

variable {base : Sync} {declaration hash : String} {found : Inspection} {tree : Tree}

/-- What one inspection tells of a history. -/
theorem of_inspect (inspected : (base.inspect tree).2 = .ok found)
    (different : found.agreement = .different) (nonempty : found.pin.hash ≠ "")
    (held : base.Holds declaration found.manifest.content tree)
    (reportable : ∃ diagnostics, Report.hash? diagnostics = some hash)
    (unquoted : '"' ∉ hash.toList) (real : Hash.isPlaceholder hash = false) :
    Recoverable base declaration found hash := by
  have outdated := Sync.outdated_of_different different
  obtain ⟨sound, path, -, declares⟩ :=
    Outstanding.of_inspect inspected outdated held.readText_parameters
  obtain ⟨diagnostics, reported⟩ := reportable
  exact ⟨sound, path, different, nonempty, declares, unquoted,
    Report.feed_not_mem_hash? reported, real⟩

variable (recoverable : Recoverable base declaration found hash)

include recoverable

/-- While the final content is not on file, an inspection finds the manifest out of date. -/
theorem inspect_of_outdated (sync : Sync) (parameters : sync.parameters = base.parameters)
    (manifest : sync.manifest = base.manifest) (key : sync.versionKey = base.versionKey)
    (held : base.Holds declaration found.manifest.content tree ∨
      base.Holds declaration found.provisional.content tree) :
    ∃ inspection, (sync.inspect tree).2 = .ok inspection ∧ found.Stale inspection ∧
      base.Holds declaration inspection.manifest.content tree := by
  rcases held with held | held
  · exact ⟨found, recoverable.inspect_of_holds sync parameters manifest key recoverable.sound
      recoverable.path rfl held, recoverable.outstanding.stale, held⟩
  · have stale := recoverable.stale_pending
    exact ⟨found.pending, recoverable.inspect_of_holds sync parameters manifest key stale.sound
      (stale.path.trans recoverable.path) rfl held, stale, held⟩

end Recoverable

variable {base : Sync} {declaration hash : String} {found : Inspection} {tree : Tree}

namespace Recoverable

variable (recoverable : Recoverable base declaration found hash)

include recoverable

theorem planned (held : base.Holds declaration found.manifest.content tree ∨
      base.Holds declaration found.provisional.content tree) :
    ∃ pinned, (base.check tree).2 = .ok (.planned pinned found.current) := by
  obtain ⟨inspection, inspected, stale, -⟩ :=
    recoverable.inspect_of_outdated base rfl rfl rfl held
  exact ⟨inspection.pin.version, stale.current ▸ Sync.check_of_outdated inspected stale.outdated⟩

theorem settled (held : base.Holds declaration (found.final hash).content tree)
    (attempt : Attempt) :
    ((attempt.sync base).run tree).Stands (.done (.ok (.notNeeded found.current))) tree [] := by
  have path := (found.path_final hash).trans recoverable.path
  have inspected := recoverable.inspect_of_holds (attempt.sync base) rfl rfl rfl
    recoverable.sound_settled path rfl held
  exact Sync.stands_of_upToDate inspected recoverable.upToDate_settled

end Recoverable

namespace Sample

/-- An attempt of a run on the sample files. -/
def attempt (change : Tree → Tree) (diagnostics tag : String) (stages : Nat) : Attempt :=
  ⟨(sync change diagnostics).tool, ".", tag, stages⟩

theorem holds : (sync id "").Holds "V = 2\n" inspection.manifest.content Sample.tree :=
  serves _ fun _ => id

theorem fits {diagnostics tag : String} {stages : Nat} {told : Option String}
    (reports : Report.hash? diagnostics = told) (plain : '/' ∉ tag.toList)
    (alike : ∀ hash, told = some hash → hash = "def") :
    (attempt id diagnostics tag stages).Fits (sync id "") "V = 2\n" inspection "def" := by
  refine ⟨plain, fun _ held => held, fun tree hash _ reported => ?_⟩
  obtain ⟨⟨output, ran, found⟩, -, -⟩ := reported
  cases ran
  exact alike hash (reports.symm.trans found)

theorem granted {diagnostics tag : String} {stages : Nat}
    (checked : (Tree.checkPath (Tree.temporary tag "a/m")).toOption = some ())
    (noNul : '\x00' ∉ (Tree.temporary tag "a/m").toList)
    (named : (Path.fileName? (Tree.temporary tag "a/m")).all
      fun name => name.utf8ByteSize ≤ Tree.nameLimit) :
    (attempt id diagnostics tag stages).Granted (sync id "") where
  build := fun _ free => free
  admits := by
    refine ⟨eq_ok_of_toOption checked, noNul, fun name (held : Path.fileName? _ = some name) => ?_⟩
    change (Path.fileName? (Tree.temporary tag "a/m")) = some name at held
    simpa [held] using named

end Sample

end ManifestPin
