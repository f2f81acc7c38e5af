import ManifestPin.Sync.Inspection
import ManifestPin.Sync.Outcome

/-! # Runs

A run goes through stages, one action on the files at each: it inspects them, writes the new version
with a placeholder hash, builds, and writes the hash that the build reports or restores what it
found. Runs that share files interleave by their stages. -/

namespace ManifestPin

/-- What a run does next. -/
inductive Stage where
  /-- Read the files. -/
  | inspecting
  /-- Write the manifest with the new version and a placeholder. -/
  | writing (inspection : Inspection) (manifest : Manifest)
  /-- Build with the manifest as it is on file. -/
  | building (inspection : Inspection) (manifest : Manifest)
  /-- Write back the manifest that was found. -/
  | restoring (inspection : Inspection) (failure : Failure)
  /-- Write the manifest with the hash that was found. -/
  | finishing (inspection : Inspection) (manifest : Manifest) (hash : String)
  /-- Nothing. -/
  | done (result : Except Failure Outcome)

/-- A run of the build tool. -/
structure BuildCall where
  /-- The directory in which it ran. -/
  directory : String
  /-- The tree that it found. -/
  tree : Tree

/-- A run at one of its stages. -/
structure Run where
  /-- What it does next. -/
  stage : Stage
  /-- The files. -/
  tree : Tree
  /-- What happened so far. -/
  events : List Event
  /-- The builds so far. -/
  calls : List BuildCall

namespace Stage

/-- A bound on the number of stages that are left. -/
def rank : Stage → Nat
  | .inspecting => 4
  | .writing .. => 3
  | .building .. => 2
  | .restoring .. => 1
  | .finishing .. => 1
  | .done _ => 0

/-- The result of a run that is done. -/
def result? : Stage → Option (Except Failure Outcome)
  | .done result => some result
  | _ => none

/-- A run without stages left has a result. -/
theorem isSome_result?_of_rank {stage : Stage} (finished : stage.rank = 0) :
    stage.result?.isSome := by
  cases stage <;> simp_all [rank, result?]

end Stage

namespace Inspection

/-- The warning about a declared version that is older than the pinned one. -/
def downgradeEvents (inspection : Inspection) : List Event :=
  match Version.parse inspection.pin.version, Version.parse inspection.current with
  | .ok pinned, .ok current =>
    if current.compare pinned = .lt then [.downgrade pinned.text current.text] else []
  | _, _ => []

/-- The manifest with the declared version in place of the pinned one. -/
def withVersion (inspection : Inspection) : Except MissingLine Manifest :=
  inspection.manifest.setValue .version inspection.pin.version inspection.current

/-- The event of the version's replacement in memory. -/
def versionReplaced (inspection : Inspection) : Event :=
  .fieldReplaced inspection.manifest.path .version inspection.pin.version inspection.current

/-- The event of the hash's replacement in memory. -/
def hashReplaced (inspection : Inspection) (old new : String) : Event :=
  .fieldReplaced inspection.manifest.path .hash old new

/-- How a run goes on that found another version pinned. -/
def revise (inspection : Inspection) : List Event × Stage :=
  let events := inspection.downgradeEvents ++
    [.updateNeeded inspection.pin.version inspection.current]
  match inspection.withVersion with
  | .error missing => (events, .done (.error (.missingLine missing)))
  | .ok manifest =>
    let events := events ++ [inspection.versionReplaced]
    match manifest.setValue .hash inspection.pin.hash inspection.placeholder with
    | .error missing => (events, .done (.error (.missingLine missing)))
    | .ok manifest =>
      (events ++ [inspection.hashReplaced inspection.pin.hash inspection.placeholder],
        .writing inspection manifest)

/-- How a run goes on after its inspection. -/
def next (inspection : Inspection) : List Event × Stage :=
  if inspection.isUpToDate then
    ([.upToDate inspection.pin.version], .done (.ok (.notNeeded inspection.pin.version)))
  else
    match inspection.agreement with
    | .different => inspection.revise
    | .equal =>
      ([.hashMissing inspection.pin.version], .building inspection inspection.manifest)

/-- The warning about a hash of another shape. -/
def shapeEvents (inspection : Inspection) (hash : String) : List Event :=
  if Hash.shape hash = Hash.shape inspection.pin.hash then []
  else [.shapeChanged inspection.pin.hash hash]

/-- How a run goes on that a build told a hash. -/
def accept (inspection : Inspection) (manifest : Manifest) (hash : String) :
    List Event × Stage :=
  let events := inspection.shapeEvents hash
  match manifest.setValue .hash inspection.placeholder hash with
  | .error missing => (events, .done (.error (.missingLine missing)))
  | .ok manifest =>
    (events ++ [inspection.hashReplaced inspection.placeholder hash],
      .finishing inspection manifest hash)

end Inspection

namespace Run

/-- A run before its first stage. -/
def start (tree : Tree) : Run :=
  { stage := .inspecting, tree, events := [], calls := [] }

/-- The run after something happened, at its next stage. -/
def goOn (run : Run) (tree : Tree) (events : List Event) (stage : Stage) : Run :=
  { run with stage, tree, events := run.events ++ events }

/-- The stage after the new version was written, or was not. -/
def afterWriting (inspection : Inspection) (manifest : Manifest) :
    Except FileFailure Unit → Stage
  | .ok () => .building inspection manifest
  | .error failure => .done (.error (.file failure))

/-- The stage after the hash was written, or was not. -/
def afterFinishing (inspection : Inspection) (hash : String) : Except FileFailure Unit → Stage
  | .ok () => .done (.ok (.updated inspection.pin.version inspection.current hash))
  | .error failure => .done (.error (.file failure))

/-- The event of a manifest that was written back, or was not. -/
def restoreEvent (path : String) : Except FileFailure Unit → Event
  | .ok () => .restored path
  | .error failure => .restoreFailed path (.file failure)

/-- The run after its inspection. -/
def inspect (sync : Sync) (run : Run) : Run :=
  match sync.inspect run.tree with
  | (events, .error failure) => run.goOn run.tree events (.done (.error failure))
  | (events, .ok inspection) =>
    run.goOn run.tree (events ++ inspection.next.1) inspection.next.2

/-- The run after writing the new version. -/
def write (sync : Sync) (run : Run) (inspection : Inspection) (manifest : Manifest) : Run :=
  let replacement := run.tree.replaceText sync.tag manifest.path manifest.content
  run.goOn replacement.tree replacement.events
    (afterWriting inspection manifest replacement.result)

/-- The run after the build. -/
def build (sync : Sync) (run : Run) (inspection : Inspection) (manifest : Manifest) : Run :=
  let call : BuildCall := { directory := sync.directory, tree := run.tree }
  let discovery := sync.tool.discover sync.directory run.tree
  let called := { run with calls := run.calls ++ [call] }
  match discovery.result.bind (sync.tool.checkHash inspection.placeholder) with
  | .error failure => called.goOn discovery.tree discovery.events (.restoring inspection failure)
  | .ok hash =>
    called.goOn discovery.tree (discovery.events ++ (inspection.accept manifest hash).1)
      (inspection.accept manifest hash).2

/-- The run after writing back the manifest that it found. -/
def restore (sync : Sync) (run : Run) (inspection : Inspection) (failure : Failure) : Run :=
  let replacement := run.tree.replaceText sync.tag sync.manifest inspection.manifest.content
  run.goOn replacement.tree
    (replacement.events ++ [restoreEvent sync.manifest replacement.result])
    (.done (.error failure))

/-- The run after writing the hash. -/
def finish (sync : Sync) (run : Run) (inspection : Inspection) (manifest : Manifest)
    (hash : String) : Run :=
  let replacement := run.tree.replaceText sync.tag manifest.path manifest.content
  run.goOn replacement.tree replacement.events
    (afterFinishing inspection hash replacement.result)

/-- One stage of a run. -/
def step (sync : Sync) (run : Run) : Run :=
  match run.stage with
  | .inspecting => run.inspect sync
  | .writing inspection manifest => run.write sync inspection manifest
  | .building inspection manifest => run.build sync inspection manifest
  | .restoring inspection failure => run.restore sync inspection failure
  | .finishing inspection manifest hash => run.finish sync inspection manifest hash
  | .done _ => run

/-- A number of stages of a run. -/
def steps (sync : Sync) : Nat → Run → Run
  | 0, run => run
  | count + 1, run => steps sync count (run.step sync)

/-- After an inspection at most writing, building and one more stage are left. -/
theorem rank_inspect (sync : Sync) (run : Run) : (run.inspect sync).stage.rank ≤ 3 := by
  have next (inspection : Inspection) : inspection.next.2.rank ≤ 3 := by
    unfold Inspection.next Inspection.revise
    repeat' split
    all_goals simp [Stage.rank]
  unfold inspect
  split
  · exact Nat.zero_le _
  · exact next _

/-- After writing at most building and one more stage are left. -/
theorem rank_write (sync : Sync) (run : Run) (inspection : Inspection) (manifest : Manifest) :
    (run.write sync inspection manifest).stage.rank ≤ 2 := by
  simp only [write, goOn, afterWriting]
  split <;> simp [Stage.rank]

/-- After building at most one stage is left. -/
theorem rank_build (sync : Sync) (run : Run) (inspection : Inspection) (manifest : Manifest) :
    (run.build sync inspection manifest).stage.rank ≤ 1 := by
  have accept (hash : String) : (inspection.accept manifest hash).2.rank ≤ 1 := by
    unfold Inspection.accept
    split <;> simp [Stage.rank]
  simp only [build]
  split
  · exact Nat.le_refl _
  · exact accept _

/-- After writing the hash no stage is left. -/
theorem rank_finish (sync : Sync) (run : Run) (inspection : Inspection) (manifest : Manifest)
    (hash : String) : (run.finish sync inspection manifest hash).stage.rank = 0 := by
  simp only [finish, goOn, afterFinishing]
  split <;> simp [Stage.rank]

/-- Each stage leaves fewer. -/
theorem rank_step_le (sync : Sync) (run : Run) :
    (run.step sync).stage.rank ≤ run.stage.rank - 1 := by
  unfold step
  split
  · next same => rw [same]; exact rank_inspect sync run
  · next inspection manifest same => rw [same]; exact rank_write sync run inspection manifest
  · next inspection manifest same => rw [same]; exact rank_build sync run inspection manifest
  · next same => rw [same]; exact Nat.le_refl _
  · next inspection manifest hash same =>
    rw [same, rank_finish sync run inspection manifest hash]
    exact Nat.le_refl _
  · next same => rw [same]; exact Nat.le_refl _

/-- As many stages as the rank bounds finish a run. -/
theorem rank_steps (sync : Sync) (count : Nat) (run : Run) (enough : run.stage.rank ≤ count) :
    (steps sync count run).stage.rank = 0 := by
  induction count generalizing run with
  | zero => simpa [steps] using enough
  | succ count ih =>
    exact ih _ (Nat.le_trans (rank_step_le sync run) (by omega))

end Run

namespace Sync

/-- A whole run. -/
def run (sync : Sync) (tree : Tree) : Run :=
  Run.steps sync 4 (Run.start tree)

/-- The result of a whole run. -/
def runResult (sync : Sync) (tree : Tree) : Except Failure Outcome :=
  (sync.run tree).stage.result?.get
    (Stage.isSome_result?_of_rank (Run.rank_steps sync 4 (Run.start tree) (Nat.le_refl 4)))

/-- What a run would come to, as far as can be told without writing or building. -/
def check (sync : Sync) (tree : Tree) : List Event × Except Failure Outcome :=
  let (events, result) := sync.inspect tree
  (events, result.map fun inspection =>
    if inspection.isUpToDate then .notNeeded inspection.pin.version
    else .planned inspection.pin.version inspection.current)

end Sync

end ManifestPin
