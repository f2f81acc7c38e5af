import ManifestPin.Proofs.Report
import ManifestPin.Proofs.Sync.Inspection
import ManifestPin.Sync.Run

/-! # Stages of a run

Where each stage of a run leads, whatever events it adds. After an inspection that succeeded no
value is missing any more: a run that is out of date builds with the provisional manifest on file,
and then writes the final manifest or writes back what it found.
-/

namespace ManifestPin

variable {sync : Sync} {run : Run} {tree : Tree} {calls : List BuildCall}
  {inspection : Inspection} {manifest : Manifest} {failure : Failure} {hash placeholder : String}

namespace BuildTool

variable {tool : BuildTool} {directory : String}

/-- The hash that a build tells, unless it tells none that can be pinned. -/
def tell (tool : BuildTool) (placeholder directory : String) (tree : Tree) :
    Except Failure String :=
  (tool.discover directory tree).result.bind (tool.checkHash placeholder)

/-- A build that tells no hash that can be pinned, and the failure that it comes to. -/
inductive Fails (tool : BuildTool) (placeholder : String) (result : Except Failure BuildOutput) :
    Failure → Prop where
  /-- The tool does not run. -/
  | broken (failure : Failure) (broke : result = .error failure) :
      Fails tool placeholder result failure
  /-- The diagnostics report no hash. -/
  | unreported (output : BuildOutput) (ran : result = .ok output)
      (silent : Report.hash? output.diagnostics = none) :
      Fails tool placeholder result
        (.undiscovered tool.program (.unreported (Report.tail output.diagnostics)))
  /-- The diagnostics report a placeholder. -/
  | placeholder (output : BuildOutput) (hash : String) (ran : result = .ok output)
      (reported : Report.hash? output.diagnostics = some hash)
      (refused : hash = placeholder ∨ Hash.isPlaceholder hash = true) :
      Fails tool placeholder result (.undiscovered tool.program (.placeholder hash))

/-- A build whose diagnostics report a hash that can be pinned. -/
structure Reports (placeholder : String) (result : Except Failure BuildOutput) (hash : String) :
    Prop where
  reported : ∃ output, result = .ok output ∧ Report.hash? output.diagnostics = some hash
  apart : hash ≠ placeholder
  real : Hash.isPlaceholder hash = false

theorem tree_discover :
    (tool.discover directory tree).tree = (tool.invoke directory tree).tree := by
  simp only [discover]
  split <;> rfl

theorem tell_of_reports (reports : Reports placeholder (tool.invoke directory tree).result hash) :
    tool.tell placeholder directory tree = .ok hash := by
  obtain ⟨⟨output, ran, reported⟩, apart, real⟩ := reports
  simp [tell, discover, ran, readReport, reported, Except.bind, checkHash, apart, real]

theorem tell_of_fails (fails : tool.Fails placeholder (tool.invoke directory tree).result failure) :
    tool.tell placeholder directory tree = .error failure := by
  cases fails with
  | broken _ broke => simp [tell, discover, broke, Except.bind]
  | unreported output ran silent => simp [tell, discover, ran, readReport, silent, Except.bind]
  | placeholder output hash ran reported refused =>
      simp [tell, discover, ran, readReport, reported, Except.bind, checkHash, refused]

/-- A build either reports a hash that can be pinned or fails. -/
theorem reports_or_fails (tool : BuildTool) (placeholder : String)
    (result : Except Failure BuildOutput) :
    (∃ hash, Reports placeholder result hash) ∨ ∃ failure, tool.Fails placeholder result failure := by
  cases result with
  | error failure => exact .inr ⟨failure, .broken failure rfl⟩
  | ok output =>
      cases reported : Report.hash? output.diagnostics with
      | none => exact .inr ⟨_, .unreported output rfl reported⟩
      | some hash =>
          by_cases refused : hash = placeholder ∨ Hash.isPlaceholder hash = true
          · exact .inr ⟨_, .placeholder output hash rfl reported refused⟩
          · obtain ⟨apart, real⟩ := not_or.mp refused
            exact .inl ⟨hash, ⟨output, rfl, reported⟩, apart, Bool.eq_false_iff.mpr real⟩

end BuildTool

namespace Inspection

variable (sound : inspection.Sound)

include sound

theorem revise_of_sound (different : inspection.agreement = .different) :
    inspection.revise.2 = .writing inspection inspection.provisional := by
  simp only [revise, withVersion, Manifest.setValue_of_value sound.version,
    Manifest.setValue_of_value sound.hash_revised, provisional, different]

/-- Out of date, a run goes on with the provisional manifest. -/
theorem next_of_sound (outdated : inspection.isUpToDate = false) :
    inspection.next.2 =
      match inspection.agreement with
      | .different => .writing inspection inspection.provisional
      | .equal => .building inspection inspection.provisional := by
  rw [next, if_neg (by simp [outdated])]
  cases agreement : inspection.agreement with
  | different => exact revise_of_sound sound agreement
  | equal => rw [sound.provisional_of_equal outdated agreement]

/-- The placeholder is found again. -/
theorem accept_of_sound (hash : String) :
    (inspection.accept inspection.provisional hash).2 =
      .finishing inspection (inspection.final hash) hash := by
  rw [accept, Manifest.setValue_of_value sound.hash_provisional]
  rfl

end Inspection

namespace Run

theorem steps_add (sync : Sync) (first second : Nat) (run : Run) :
    steps sync (first + second) run = steps sync second (steps sync first run) := by
  induction first generalizing run with
  | zero => rw [Nat.zero_add, steps]
  | succ first ih =>
      rw [Nat.succ_add]
      exact ih (run.step sync)

theorem steps_succ (sync : Sync) (count : Nat) (run : Run) :
    steps sync (count + 1) run = (steps sync count run).step sync :=
  steps_add sync count 1 run

/-- Where a run stands, whatever events it added. -/
structure Stands (run : Run) (stage : Stage) (tree : Tree) (calls : List BuildCall) : Prop where
  stage : run.stage = stage
  tree : run.tree = tree
  calls : run.calls = calls

theorem stands_start (tree : Tree) : (start tree).Stands .inspecting tree [] :=
  ⟨rfl, rfl, rfl⟩

theorem exists_afterFinishing (inspection : Inspection) (hash : String)
    (written : Except FileFailure Unit) :
    ∃ result, afterFinishing inspection hash written = .done result := by
  cases written <;> exact ⟨_, rfl⟩

namespace Stands

theorem inspect (stands : run.Stands .inspecting tree calls)
    (inspected : (sync.inspect tree).2 = .ok inspection) :
    (run.step sync).Stands inspection.next.2 tree calls := by
  obtain ⟨stage, rfl, rfl⟩ := stands
  simp only [step, stage, Run.inspect]
  rcases found : sync.inspect run.tree with ⟨events, _ | _⟩
  · simp [found] at inspected
  · rw [found] at inspected
    cases inspected
    exact ⟨rfl, rfl, rfl⟩

theorem inspect_of_error (stands : run.Stands .inspecting tree calls)
    (refused : (sync.inspect tree).2 = .error failure) :
    (run.step sync).Stands (.done (.error failure)) tree calls := by
  obtain ⟨stage, rfl, rfl⟩ := stands
  simp only [step, stage, Run.inspect]
  rcases found : sync.inspect run.tree with ⟨events, _ | _⟩
  · rw [found] at refused
    cases refused
    exact ⟨rfl, rfl, rfl⟩
  · simp [found] at refused

variable (sync)

theorem write (stands : run.Stands (.writing inspection manifest) tree calls) :
    (run.step sync).Stands
      (afterWriting inspection manifest
        (tree.replaceText sync.tag manifest.path manifest.content).result)
      (tree.replaceText sync.tag manifest.path manifest.content).tree calls := by
  obtain ⟨stage, rfl, rfl⟩ := stands
  simp only [step, stage]
  exact ⟨rfl, rfl, rfl⟩

theorem build (sound : inspection.Sound)
    (stands : run.Stands (.building inspection inspection.provisional) tree calls) :
    (run.step sync).Stands
      (match sync.tool.tell inspection.placeholder sync.directory tree with
      | .error failure => .restoring inspection failure
      | .ok hash => .finishing inspection (inspection.final hash) hash)
      (sync.tool.invoke sync.directory tree).tree (calls ++ [⟨sync.directory, tree⟩]) := by
  obtain ⟨stage, rfl, rfl⟩ := stands
  simp only [step, stage, Run.build]
  cases told : sync.tool.tell inspection.placeholder sync.directory run.tree with
  | error failure =>
      rw [BuildTool.tell] at told
      rw [told]
      exact ⟨rfl, BuildTool.tree_discover, rfl⟩
  | ok hash =>
      rw [BuildTool.tell] at told
      rw [told]
      exact ⟨Inspection.accept_of_sound sound hash, BuildTool.tree_discover, rfl⟩

theorem restore (stands : run.Stands (.restoring inspection failure) tree calls) :
    (run.step sync).Stands (.done (.error failure))
      (tree.replaceText sync.tag sync.manifest inspection.manifest.content).tree calls := by
  obtain ⟨stage, rfl, rfl⟩ := stands
  simp only [step, stage]
  exact ⟨rfl, rfl, rfl⟩

theorem finish (stands : run.Stands (.finishing inspection manifest hash) tree calls) :
    (run.step sync).Stands
      (afterFinishing inspection hash
        (tree.replaceText sync.tag manifest.path manifest.content).result)
      (tree.replaceText sync.tag manifest.path manifest.content).tree calls := by
  obtain ⟨stage, rfl, rfl⟩ := stands
  simp only [step, stage]
  exact ⟨rfl, rfl, rfl⟩

theorem done {result : Except Failure Outcome} (stands : run.Stands (.done result) tree calls) :
    (run.step sync).Stands (.done result) tree calls := by
  obtain ⟨stage, rfl, rfl⟩ := stands
  simp only [step, stage]
  exact ⟨stage, rfl, rfl⟩

/-- A run that is done stays as it is. -/
theorem stays {result : Except Failure Outcome} (stands : run.Stands (.done result) tree calls)
    (count : Nat) : (steps sync count run).Stands (.done result) tree calls := by
  induction count generalizing run with
  | zero => exact stands
  | succ count ih => exact ih (stands.done sync)

end Stands

end Run

namespace Sync

/-- A run that is done after some of its stages stays so to the end. -/
theorem stands_of_steps {start : Tree} {result : Except Failure Outcome} {count : Nat}
    (few : count ≤ 4)
    (stands : (Run.steps sync count (Run.start start)).Stands (.done result) tree calls) :
    (sync.run start).Stands (.done result) tree calls := by
  obtain ⟨rest, whole⟩ := Nat.exists_eq_add_of_le few
  rw [run, whole, Run.steps_add]
  exact stands.stays sync rest

theorem runResult_of_stands {start : Tree} {result : Except Failure Outcome}
    (stands : (sync.run start).Stands (.done result) tree calls) :
    sync.runResult start = result := by
  simp [runResult, stands.stage, Stage.result?]

/-- An inspection depends on the two files and the key only. -/
theorem inspect_congr {first second : Sync} (parameters : first.parameters = second.parameters)
    (manifest : first.manifest = second.manifest) (key : first.versionKey = second.versionKey)
    (tree : Tree) : first.inspect tree = second.inspect tree := by
  simp only [inspect, declarationEvents, parameters, manifest, key]

/-- So does a check. -/
theorem check_congr {first second : Sync} (parameters : first.parameters = second.parameters)
    (manifest : first.manifest = second.manifest) (key : first.versionKey = second.versionKey)
    (tree : Tree) : first.check tree = second.check tree := by
  rw [check, check, inspect_congr parameters manifest key]

theorem check_of_inspect_error (refused : (sync.inspect tree).2 = .error failure) :
    (sync.check tree).2 = .error failure := by
  simp only [check, refused, Except.map]

theorem check_of_upToDate (inspected : (sync.inspect tree).2 = .ok inspection)
    (upToDate : inspection.isUpToDate = true) :
    (sync.check tree).2 = .ok (.notNeeded inspection.pin.version) := by
  simp only [check, inspected, Except.map, upToDate, if_true]

theorem check_of_outdated (inspected : (sync.inspect tree).2 = .ok inspection)
    (outdated : inspection.isUpToDate = false) :
    (sync.check tree).2 = .ok (.planned inspection.pin.version inspection.current) := by
  simp only [check, inspected, Except.map, outdated, Bool.false_eq_true, if_false]

end Sync

end ManifestPin
