import ManifestPin.CommandLine.Program
import ManifestPin.Proofs.CommandLine.Arguments
import ManifestPin.Proofs.Sync.Calm
import ManifestPin.Proofs.Sync.Update

/-! # Exit codes

The exit code of a call tells whether the manifest was changed, was up to date, or an error was
reported; that of a dry one tells whether a build would be started, and else what the call would end
with. This is so where the run is calm and outcomes can be printed.
-/

namespace ManifestPin

namespace CommandLine

variable {environment other : Environment} {options : Options} {arguments : List String}
  {tree : Tree} {sync : Sync} {inspection : Inspection} {failure : Failure}
  {launcher starter : Launcher} {tag second : String}

/-- What options keep in step, unless their configuration cannot be loaded. -/
def Options.loadSync (options : Options) (launcher : Launcher) (tag : String) (tree : Tree) :
    Except Failure Sync :=
  (options.loadConfig tree).2.map fun config => Sync.ofConfig config options.root launcher tag

/-- What options keep in step in an environment. -/
def Environment.loadSync (environment : Environment) (options : Options) (tree : Tree) :
    Except Failure Sync :=
  options.loadSync environment.launcher environment.tag tree

/-- The exit code of a result. -/
def exitCode : Except Failure Outcome → Nat
  | .ok outcome => outcome.exitCode
  | .error _ => failureCode

theorem exitCode_le (result : Except Failure Outcome) : exitCode result ≤ 2 := by
  rcases result with failure | outcome
  · exact Nat.le_refl 2
  · cases outcome <;> simp [exitCode, Outcome.exitCode]

theorem exitCode_eq_two_iff {result : Except Failure Outcome} :
    exitCode result = 2 ↔ ∃ failure, result = .error failure := by
  rcases result with failure | outcome
  · simp [exitCode, failureCode]
  · cases outcome <;> simp [exitCode, Outcome.exitCode]

namespace Options

theorem loadConfig_of_loadSync (loaded : options.loadSync launcher tag tree = .ok sync) :
    ∃ events config, options.loadConfig tree = (events, .ok config) ∧
      sync = Sync.ofConfig config options.root launcher tag := by
  rw [loadSync] at loaded
  rcases configured : options.loadConfig tree with ⟨events, failure | config⟩
  · rw [configured] at loaded
    cases loaded
  · rw [configured] at loaded
    exact ⟨events, config, rfl, (Except.ok.inj loaded).symm⟩

theorem execute_of_error (failed : options.loadSync launcher tag tree = .error failure) :
    (options.execute starter second tree).tree = tree ∧
      (options.execute starter second tree).result = .error failure := by
  rw [loadSync] at failed
  rcases loaded : options.loadConfig tree with ⟨events, refusal | config⟩
  · rw [loaded] at failed
    obtain rfl := Except.error.inj failed
    simp only [execute, loaded]
    exact ⟨trivial, trivial⟩
  · rw [loaded] at failed
    cases failed

/-- A dry run checks; how programs are run plays no part, nor does the tag of temporary files. -/
theorem execute_of_dry (loaded : options.loadSync launcher tag tree = .ok sync)
    (dry : options.dryRun = true) :
    (options.execute starter second tree).tree = tree ∧
      (options.execute starter second tree).result = (sync.check tree).2 := by
  obtain ⟨events, config, configured, rfl⟩ := loadConfig_of_loadSync loaded
  -- The two differ in their build tools, which stay folded here: no check looks at them.
  have alike : (Sync.ofConfig config options.root starter second).check tree =
      (Sync.ofConfig config options.root launcher tag).check tree := by
    apply Sync.check_congr <;> simp only [Sync.ofConfig]
  simp only [execute, configured, dry, if_true, alike]
  exact ⟨trivial, trivial⟩

theorem execute_of_wet (loaded : options.loadSync launcher tag tree = .ok sync)
    (wet : options.dryRun = false) :
    (options.execute launcher tag tree).tree = (sync.run tree).tree ∧
      (options.execute launcher tag tree).result = sync.runResult tree := by
  obtain ⟨events, config, configured, rfl⟩ := loadConfig_of_loadSync loaded
  simp only [execute, configured, wet, Bool.false_eq_true, if_false]
  exact ⟨trivial, trivial⟩

end Options

section Call

variable (accepted : Request.ofArguments arguments = .run options)

include accepted

theorem tree_call : (call environment arguments tree).tree =
    (options.execute environment.launcher environment.tag tree).tree := by
  rw [call, accepted, Environment.answer]
  cases (options.execute environment.launcher environment.tag tree).result with
  | ok =>
      simp only
      split <;> rfl
  | error => rfl

theorem exitCode_call (printable : environment.printable = true) :
    (call environment arguments tree).exitCode =
      exitCode (options.execute environment.launcher environment.tag tree).result := by
  rw [call, accepted, Environment.answer]
  cases (options.execute environment.launcher environment.tag tree).result with
  | ok => simp only [printable, if_true, exitCode]
  | error => rfl

theorem diagnostics_call_of_error
    (failed : (options.execute environment.launcher environment.tag tree).result =
      .error failure) :
    (call environment arguments tree).diagnostics =
      environment.logText options.verbose
          (options.execute environment.launcher environment.tag tree).events ++
        failureText environment.styled failure := by
  rw [call, accepted, Environment.answer]
  simp only [failed]

end Call

/-- What the exit code of a call without `--dry-run` tells of the manifest. -/
structure Tells (environment : Environment) (options : Options) (tree : Tree) (ended : Call) :
    Prop where
  codes : ended.exitCode ≤ 2
  /-- The code is 1 exactly if the manifest has other octets afterwards. -/
  changed : ended.exitCode = 1 ↔ ∃ sync, environment.loadSync options tree = .ok sync ∧
    ended.tree.readOctets sync.manifest ≠ tree.readOctets sync.manifest
  /-- The code is 0 exactly if the manifest was up to date. -/
  upToDate : ended.exitCode = 0 ↔ ∃ sync inspection,
    environment.loadSync options tree = .ok sync ∧
      (sync.inspect tree).2 = .ok inspection ∧ inspection.isUpToDate = true
  /-- Then nothing was written and nothing built. -/
  untouched : ended.exitCode = 0 → ended.tree = tree ∧
    ∀ sync, environment.loadSync options tree = .ok sync → (sync.run tree).calls = []
  /-- The code is 2 exactly if an error is reported. -/
  failed : ended.exitCode = 2 ↔
    ∃ failure,
      (options.execute environment.launcher environment.tag tree).result = .error failure ∧
      ended.diagnostics =
        environment.logText options.verbose
            (options.execute environment.launcher environment.tag tree).events ++
          failureText environment.styled failure
  /-- Then the manifest has the octets that it had, if the configuration names one. -/
  restored : ended.exitCode = 2 → ended.tree = tree ∨ ∃ sync,
    environment.loadSync options tree = .ok sync ∧
      ended.tree.readOctets sync.manifest = tree.readOctets sync.manifest

/-- What the exit code of a call with `--dry-run` tells of the call without it. -/
structure Foretells (environment : Environment) (options : Options) (tree : Tree)
    (dry wet : Call) : Prop where
  untouched : dry.tree = tree
  /-- The code is 1 exactly if the other call comes to its build. -/
  building : dry.exitCode = 1 ↔ ∃ sync, environment.loadSync options tree = .ok sync ∧
    (sync.run tree).calls ≠ []
  /-- Else it is the code of the other call. -/
  same : dry.exitCode ≠ 1 → dry.exitCode = wet.exitCode

theorem exitCode_runResult_eq_zero_iff :
    exitCode (sync.runResult tree) = 0 ↔
      ∃ inspection, (sync.inspect tree).2 = .ok inspection ∧ inspection.isUpToDate = true := by
  constructor
  · intro zero
    have course := sync.course tree
    generalize sync.runResult tree = result, (sync.run tree).tree = after,
      (sync.run tree).calls = calls at course zero
    cases course with
    | refused | stopped | updated => cases zero
    | upToDate inspection inspected upToDate => exact ⟨inspection, inspected, upToDate⟩
  · rintro ⟨inspection, inspected, upToDate⟩
    rw [Sync.runResult_of_stands (Sync.stands_of_upToDate inspected upToDate)]
    rfl

theorem exitCode_runResult_eq_one_iff (calm : sync.Calm tree) :
    exitCode (sync.runResult tree) = 1 ↔
      (sync.run tree).tree.readOctets sync.manifest ≠ tree.readOctets sync.manifest := by
  cases calm.ends with
  | failed failure result same => simp [result, same, exitCode, failureCode]
  | upToDate inspection _ _ result untouched =>
      simp [result, untouched, exitCode, Outcome.exitCode]
  | updated pinned current hash result changed =>
      simp [result, changed, exitCode, Outcome.exitCode]

section Contract

variable (accepted : Request.ofArguments arguments = .run options)
  (printable : environment.printable = true)

include accepted printable

/-- A call fails exactly if it reports an error. -/
theorem exitCode_call_eq_two_iff :
    (call environment arguments tree).exitCode = 2 ↔
      ∃ failure,
        (options.execute environment.launcher environment.tag tree).result = .error failure ∧
        (call environment arguments tree).diagnostics =
          environment.logText options.verbose
              (options.execute environment.launcher environment.tag tree).events ++
            failureText environment.styled failure := by
  rw [exitCode_call accepted printable, exitCode_eq_two_iff]
  constructor
  · rintro ⟨failure, failed⟩
    exact ⟨failure, failed, diagnostics_call_of_error accepted failed⟩
  · rintro ⟨failure, failed, -⟩
    exact ⟨failure, failed⟩

/-- A call whose configuration cannot be loaded leaves all files alone. -/
theorem tells_of_error (failed : environment.loadSync options tree = .error failure) :
    Tells environment options tree (call environment arguments tree) := by
  obtain ⟨left, result⟩ := Options.execute_of_error failed
  have code : (call environment arguments tree).exitCode = 2 := by
    rw [exitCode_call accepted printable, result]
    rfl
  have same := (tree_call accepted).trans left
  refine ⟨code.le, ?_, ?_, ?_, exitCode_call_eq_two_iff accepted printable, fun _ => .inl same⟩
  · simp [code, failed]
  · simp [code, failed]
  · simp [code]

/-- A call whose run is calm tells what it did. -/
theorem tells_of_calm (loaded : environment.loadSync options tree = .ok sync)
    (wet : options.dryRun = false) (calm : sync.Calm tree) :
    Tells environment options tree (call environment arguments tree) := by
  obtain ⟨left, result⟩ := Options.execute_of_wet loaded wet
  have code : (call environment arguments tree).exitCode = exitCode (sync.runResult tree) := by
    rw [exitCode_call accepted printable, result]
  have same : (call environment arguments tree).tree = (sync.run tree).tree :=
    (tree_call accepted).trans left
  refine ⟨code ▸ exitCode_le _, ?_, ?_, ?_, exitCode_call_eq_two_iff accepted printable, ?_⟩
  · rw [code, same, exitCode_runResult_eq_one_iff calm]
    simp [loaded]
  · rw [code, exitCode_runResult_eq_zero_iff]
    simp [loaded]
  · intro zero
    rw [code, exitCode_runResult_eq_zero_iff] at zero
    obtain ⟨inspection, inspected, upToDate⟩ := zero
    have stands := Sync.stands_of_upToDate inspected upToDate
    refine ⟨same.trans stands.tree, fun found loads => ?_⟩
    obtain rfl := Except.ok.inj (loaded.symm.trans loads)
    exact stands.calls
  · intro two
    rw [code, exitCode_eq_two_iff] at two
    obtain ⟨failure, failed⟩ := two
    exact .inr ⟨sync, loaded, same ▸ calm.readOctets_of_error failed⟩

/-- A dry call whose configuration cannot be loaded fails as the other one does. -/
theorem foretells_of_error (showable : other.printable = true)
    (failed : environment.loadSync options tree = .error failure) :
    Foretells environment options tree (call other arguments tree)
      (call environment (arguments.filter (· ≠ "--dry-run")) tree) := by
  obtain ⟨wetly, -⟩ := Request.ofArguments_filter accepted
  have missed : environment.loadSync { options with dryRun := false } tree =
      .error failure := failed
  obtain ⟨left, result⟩ := Options.execute_of_error failed
  obtain ⟨-, again⟩ := Options.execute_of_error missed
  have code : (call other arguments tree).exitCode = 2 := by
    rw [exitCode_call accepted showable, result]
    rfl
  have wet : (call environment (arguments.filter (· ≠ "--dry-run")) tree).exitCode = 2 := by
    rw [exitCode_call wetly printable, again]
    rfl
  exact ⟨(tree_call accepted).trans left, by simp [code, failed], fun _ => code.trans wet.symm⟩

/-- A dry call tells where a calm run would come to its build. -/
theorem foretells_of_calm (showable : other.printable = true)
    (loaded : environment.loadSync options tree = .ok sync)
    (dry : options.dryRun = true) (calm : sync.Calm tree) :
    Foretells environment options tree (call other arguments tree)
      (call environment (arguments.filter (· ≠ "--dry-run")) tree) := by
  obtain ⟨wetly, -⟩ := Request.ofArguments_filter accepted
  have reloaded : environment.loadSync { options with dryRun := false } tree =
      .ok sync := loaded
  obtain ⟨left, checked⟩ := Options.execute_of_dry loaded dry
  obtain ⟨-, ran⟩ := Options.execute_of_wet reloaded rfl
  have same : (call other arguments tree).tree = tree := (tree_call accepted).trans left
  have code : (call other arguments tree).exitCode = exitCode (sync.check tree).2 := by
    rw [exitCode_call accepted showable, checked]
  have wet : (call environment (arguments.filter (· ≠ "--dry-run")) tree).exitCode =
      exitCode (sync.runResult tree) := by
    rw [exitCode_call wetly printable, ran]
  cases inspected : (sync.inspect tree).2 with
  | error failure =>
      have stands := Sync.stands_of_inspect_error inspected
      rw [Sync.check_of_inspect_error inspected] at code
      rw [Sync.runResult_of_stands stands] at wet
      exact ⟨same, by simp [code, loaded, stands.calls, exitCode, failureCode],
        fun _ => code.trans wet.symm⟩
  | ok inspection =>
      cases upToDate : inspection.isUpToDate with
      | true =>
          have stands := Sync.stands_of_upToDate inspected upToDate
          rw [Sync.check_of_upToDate inspected upToDate] at code
          rw [Sync.runResult_of_stands stands] at wet
          exact ⟨same, by simp [code, loaded, stands.calls, exitCode, Outcome.exitCode],
            fun _ => code.trans wet.symm⟩
      | false =>
          have calls := (calm.builds inspected upToDate).calls
          rw [Sync.check_of_outdated inspected upToDate] at code
          exact ⟨same, by simp [code, loaded, calls, exitCode, Outcome.exitCode],
            fun apart => absurd code apart⟩

end Contract

/-- The exit code of every accepted call whose run is calm: without `--dry-run` it tells whether the
manifest changed, with it whether the call without it would come to its build. -/
theorem exitCode_of_calm (accepted : Request.ofArguments arguments = .run options)
    (printable : environment.printable = true)
    (calm : ∀ sync, environment.loadSync options tree = .ok sync → sync.Calm tree) :
    ("--dry-run" ∉ arguments →
      Tells environment options tree (call environment arguments tree)) ∧
    ("--dry-run" ∈ arguments → ∀ other : Environment, other.printable = true →
      Foretells environment options tree (call other arguments tree)
        (call environment (arguments.filter (· ≠ "--dry-run")) tree)) := by
  obtain ⟨-, dry⟩ := Request.ofArguments_filter accepted
  cases loaded : environment.loadSync options tree with
  | error failure =>
      exact ⟨fun _ => tells_of_error accepted printable loaded,
        fun _ other showable => foretells_of_error accepted printable showable loaded⟩
  | ok sync =>
      refine ⟨fun absent => tells_of_calm accepted printable loaded ?_ (calm sync loaded),
        fun given other showable =>
          foretells_of_calm accepted printable showable loaded (dry.mpr given) (calm sync loaded)⟩
      exact Bool.eq_false_iff.mpr fun set => absent (dry.mp set)

end CommandLine

namespace Sample

open CommandLine

/-- Arguments that name the files of the sample. -/
def arguments : List String :=
  ["--params", "p", "--manifest", "a/m", "--version-key", "V"]

/-- What they say. -/
def options : Options :=
  { Options.default with parameters := some "p", manifest := some "a/m", versionKey := some "V" }

/-- Each program leaves all files alone and fails with some diagnostics. -/
def launcher (diagnostics : String) : Launcher := fun _ _ tree =>
  { tree, result := .ok { success := false, diagnostics := diagnostics.toUTF8 } }

/-- An environment with such programs. -/
def environment (diagnostics : String) : Environment where
  directives := none
  styled := false
  time := ""
  tag := "7"
  launcher := launcher diagnostics
  printable := true

/-- What the options keep in step there without a configuration file. -/
def configured (diagnostics : String) : Sync :=
  Sync.ofConfig (options.override Config.default) "." (launcher diagnostics) "7"

theorem loaded (diagnostics : String) {files : Tree}
    (bare : files.isFile (Path.join "." Config.fileName) = false) :
    (environment diagnostics).loadSync options files = .ok (configured diagnostics) := by
  rw [Environment.loadSync, Options.loadSync, Options.loadConfig]
  simp only [options, Options.default, Config.discover, bare]
  rfl

theorem accepted : Request.ofArguments arguments = .run options := by decide +kernel

/-- Such programs leave every manifest as it is. -/
theorem tree_invoke (diagnostics directory : String) (files : Tree) :
    ((configured diagnostics).tool.invoke directory files).tree = files := by
  change (BuildCommand.launch _ (launcher diagnostics) directory files).tree = files
  rw [BuildCommand.launch]
  split <;> rfl

theorem calm : (configured "got: def\n").Calm tree where
  written := by
    have first : ∀ count < 4, ∀ manifest ∈
        (Run.steps (configured "got: def\n") count (Run.start tree)).stage.writes?
          (configured "got: def\n"),
        ((Run.steps (configured "got: def\n") count (Run.start tree)).tree.replaceText "7"
          manifest.path manifest.content).result.toOption = some () := by
      decide +kernel
    exact fun count manifest writes =>
      eq_ok_of_toOption (first count (Sync.lt_of_writes writes) manifest writes)
  plain := by
    have first : ∀ count < 4, ∀ manifest ∈
        (Run.steps (configured "got: def\n") count (Run.start tree)).stage.writes?
          (configured "got: def\n"),
        ((Run.steps (configured "got: def\n") count (Run.start tree)).tree.standing?
          (Tree.temporary "7" manifest.path)).isNone = true := by
      decide +kernel
    exact fun count manifest writes =>
      plain_of_absent (first count (Sync.lt_of_writes writes) manifest writes)
  quiet := fun call _ => by rw [tree_invoke]

/-- A finished manifest but for its hash, with a link to it at the name of its temporary file. -/
def laid : Tree :=
  lay (tree.put ["m", "a"] (.file "version = \"2\"\nsha256 = \"000\"\n".toUTF8 fileMode))

end Sample

namespace CommandLine

/-- A call whose build reports a hash, and the dry call before it. -/
theorem exitCode_of_calm_sample :
    Tells (Sample.environment "got: def\n") Sample.options Sample.tree
        (call (Sample.environment "got: def\n") Sample.arguments Sample.tree) ∧
      (call (Sample.environment "got: def\n") Sample.arguments Sample.tree).exitCode = 1 ∧
      Foretells (Sample.environment "got: def\n") { Sample.options with dryRun := true } Sample.tree
        (call (Sample.environment "") (Sample.arguments ++ ["--dry-run"]) Sample.tree)
        (call (Sample.environment "got: def\n") Sample.arguments Sample.tree) ∧
      (call (Sample.environment "") (Sample.arguments ++ ["--dry-run"]) Sample.tree).exitCode =
        1 := by
  have bare : Sample.tree.isFile (Path.join "." Config.fileName) = false := by decide +kernel
  have calm (sync : Sync)
      (loaded : (Sample.environment "got: def\n").loadSync Sample.options Sample.tree = .ok sync) :
      sync.Calm Sample.tree := by
    obtain rfl := Except.ok.inj ((Sample.loaded _ bare).symm.trans loaded)
    exact Sample.calm
  have dry : Request.ofArguments (Sample.arguments ++ ["--dry-run"]) =
      .run { Sample.options with dryRun := true } := by decide +kernel
  have same : (Sample.arguments ++ ["--dry-run"]).filter (· ≠ "--dry-run") = Sample.arguments := by
    decide +kernel
  have foretells :=
    (exitCode_of_calm dry rfl calm).2 (by decide) (Sample.environment "") rfl
  rw [same] at foretells
  refine ⟨(exitCode_of_calm Sample.accepted rfl calm).1 (by decide), ?_, foretells, ?_⟩
  · decide +kernel
  · decide +kernel

/-- Where a link to the manifest lay at the temporary name, each write succeeds and the build does
nothing, but writing back what was found leaves the manifest a link to itself. And a call that
cannot print its outcome has changed the manifest all the same. -/
theorem exitCode_of_laid :
    (Request.ofArguments Sample.arguments = .run Sample.options ∧
      (Sample.environment "").loadSync Sample.options Sample.laid = .ok (Sample.configured "") ∧
      (∀ count manifest,
        (Run.steps (Sample.configured "") count (Run.start Sample.laid)).stage.writes?
          (Sample.configured "") = some manifest →
        ((Run.steps (Sample.configured "") count (Run.start Sample.laid)).tree.replaceText "7"
          manifest.path manifest.content).result = .ok ()) ∧
      (∀ directory tree,
        ((Sample.configured "").tool.invoke directory tree).tree = tree) ∧
      (call (Sample.environment "") Sample.arguments Sample.laid).exitCode = 2 ∧
      (call (Sample.environment "") Sample.arguments Sample.laid).tree.readOctets "./a/m" ≠
        Sample.laid.readOctets "./a/m") ∧
    (Sample.configured "got: def\n").Calm Sample.tree ∧
      (call { Sample.environment "got: def\n" with printable := false } Sample.arguments
        Sample.tree).exitCode = 101 := by
  have bare : Sample.laid.isFile (Path.join "." Config.fileName) = false := by decide +kernel
  have written : ∀ count < 4, ∀ manifest ∈
      (Run.steps (Sample.configured "") count (Run.start Sample.laid)).stage.writes?
        (Sample.configured ""),
      ((Run.steps (Sample.configured "") count (Run.start Sample.laid)).tree.replaceText "7"
        manifest.path manifest.content).result.toOption = some () := by
    decide +kernel
  refine ⟨⟨Sample.accepted, Sample.loaded _ bare, ?_, Sample.tree_invoke "", ?_, ?_⟩, Sample.calm,
    ?_⟩
  · exact fun count manifest writes =>
      eq_ok_of_toOption (written count (Sync.lt_of_writes writes) manifest writes)
  · decide +kernel
  · have gone : ((call (Sample.environment "") Sample.arguments Sample.laid).tree.readOctets
        "./a/m").toOption.isSome = false := by
      decide +kernel
    have there : (Sample.laid.readOctets "./a/m").toOption.isSome = true := by decide +kernel
    intro kept
    rw [kept, there] at gone
    cases gone
  · decide +kernel

end CommandLine

end ManifestPin
