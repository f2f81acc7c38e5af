import ManifestPin.Proofs.CommandLine.ExitCode
import ManifestPin.Proofs.Config.Settings

/-! # Settings of a call

A setting of a call is what its flag says, else what the document says that the call finds, else the
default, and depends on nothing else. A call reads the two files that the settings name, taken
relative to the root once, writes one of them, and builds in the root.
-/

namespace ManifestPin

namespace Path

/-- Where a path leads that is taken relative to a root. -/
inductive Located (root path : String) : String → Prop where
  | absolute (rooted : path.toList.head? = some '/') : Located root path path
  | bare (relative : path.toList.head? ≠ some '/') (empty : root = "") : Located root path path
  | closed (relative : path.toList.head? ≠ some '/') (named : root ≠ "")
      (slash : root.toList.getLast? = some '/') : Located root path (root ++ path)
  | below (relative : path.toList.head? ≠ some '/') (named : root ≠ "")
      (unslashed : root.toList.getLast? ≠ some '/') : Located root path (root ++ "/" ++ path)

theorem join_of_located {root path located : String} (given : Located root path located) :
    join root path = located := by
  cases given with
  | absolute rooted => rw [join, if_pos (by simp [isRooted, rooted])]
  | bare relative empty => rw [join, if_pos (by simp [empty])]
  | closed relative named slash =>
      rw [join, if_neg (by simp [isRooted, relative, named]),
        if_pos (by simp [endsWithSlash, slash])]
  | below relative named unslashed =>
      rw [join, if_neg (by simp [isRooted, relative, named]),
        if_neg (by simp [endsWithSlash, unslashed])]

theorem located_join (root path : String) : Located root path (join root path) := by
  suffices some : ∃ located, Located root path located by
    obtain ⟨located, given⟩ := some
    rwa [join_of_located given]
  by_cases rooted : path.toList.head? = some '/'
  · exact ⟨_, .absolute rooted⟩
  by_cases empty : root = ""
  · exact ⟨_, .bare rooted empty⟩
  by_cases slash : root.toList.getLast? = some '/'
  · exact ⟨_, .closed rooted empty slash⟩
  · exact ⟨_, .below rooted empty slash⟩

end Path

namespace Sync

variable {sync : Sync} {tree after : Tree} {inspection : Inspection}

/-- What a run can make of a tree: it replaces its manifest and runs its tool in its directory. -/
inductive Reaches (sync : Sync) (tree : Tree) : Tree → Prop where
  | start : Reaches sync tree tree
  | replaced (before : Tree) (content : String) (reached : Reaches sync tree before) :
      Reaches sync tree (before.replaceText sync.tag sync.manifest content).tree
  | invoked (before : Tree) (reached : Reaches sync tree before) :
      Reaches sync tree (sync.tool.invoke sync.directory before).tree

/-- A run uses its files and its directory, and no others. -/
structure Confined (sync : Sync) : Prop where
  /-- The version is read under the key in the one file, and the manifest in the other. -/
  found : ∀ tree inspection, (sync.inspect tree).2 = .ok inspection →
    (∃ token, tree.declaredVersion sync.parameters sync.versionKey =
      .ok ⟨token, inspection.current⟩) ∧
    tree.readText sync.manifest = .ok inspection.manifest.content
  /-- Nothing else is read to inspect the files. -/
  reads : ∀ tree after, after.readText sync.parameters = tree.readText sync.parameters →
    after.readText sync.manifest = tree.readText sync.manifest →
    sync.inspect after = sync.inspect tree
  /-- What is on file at the end is the work of replacements of the manifest and of builds. -/
  writes : ∀ tree, sync.Reaches tree (sync.run tree).tree
  builds : ∀ tree, ∀ call ∈ (sync.run tree).calls, call.directory = sync.directory

theorem inspect_of_same
    (parameters : after.readText sync.parameters = tree.readText sync.parameters)
    (manifest : after.readText sync.manifest = tree.readText sync.manifest) :
    sync.inspect after = sync.inspect tree := by
  have pinned : after.pinnedManifest sync.manifest = tree.pinnedManifest sync.manifest := by
    simp only [Tree.pinnedManifest, Tree.loadManifest, manifest]
  rw [inspect, inspect, Tree.declaredVersion_congr parameters, pinned]

theorem reaches_built (sync : Sync) (tree : Tree) (inspection : Inspection) :
    sync.Reaches tree (sync.built inspection tree) := by
  cases agreement : inspection.agreement with
  | different =>
      rw [built_of_different agreement]
      exact .replaced tree _ .start
  | equal =>
      rw [built_of_equal agreement]
      exact .start

theorem reaches_build (sync : Sync) (tree : Tree) (inspection : Inspection) :
    sync.Reaches tree (sync.build inspection tree).tree :=
  .invoked _ (reaches_built sync tree inspection)

/-- Whatever its course, a run reaches what it leaves, and its builds run in its directory. -/
theorem Course.reaches {result : Except Failure Outcome} {left : Tree} {calls : List BuildCall}
    (course : sync.Course tree result left calls) :
    sync.Reaches tree left ∧ ∀ call ∈ calls, call.directory = sync.directory := by
  have built (inspection : Inspection) (content : String) :
      sync.Reaches tree ((sync.build inspection tree).tree.replaceText sync.tag sync.manifest
        content).tree :=
    .replaced _ content (reaches_build sync tree inspection)
  have once (files : Tree) :
      ∀ call ∈ [(⟨sync.directory, files⟩ : BuildCall)], call.directory = sync.directory :=
    List.forall_mem_singleton.mpr rfl
  cases course with
  | refused => exact ⟨.start, List.forall_mem_nil _⟩
  | upToDate => exact ⟨.start, List.forall_mem_nil _⟩
  | updated => exact ⟨built _ _, once _⟩
  | stopped _ _ _ _ _ _ stopped =>
      cases stopped with
      | unsaved => exact ⟨.replaced tree _ .start, List.forall_mem_nil _⟩
      | unbuilt => exact ⟨built _ _, once _⟩
      | unfinished => exact ⟨built _ _, once _⟩

theorem confined (sync : Sync) : sync.Confined where
  found := fun _ _ inspected =>
    ⟨(inspect_eq_ok_iff.mp inspected).1, (Inspection.sound_of_inspect inspected).2.2⟩
  reads := fun _ _ => inspect_of_same
  writes := fun tree => (sync.course tree).reaches.1
  builds := fun tree => (sync.course tree).reaches.2

end Sync

namespace CommandLine

open Config (Layered Gives)
open Toml (Entries)

variable {options : Options} {tree : Tree} {document : String} {config : Config}
  {entries : Entries} {setting : Config.Setting} {texts : List String} {launcher : Launcher}
  {tag : String}

namespace Options

/-- The texts of the flag of a setting. The build command has none. -/
def flag (options : Options) : Config.Setting → Option (List String)
  | .parameters => options.parameters.map List.singleton
  | .manifest => options.manifest.map List.singleton
  | .versionKey => options.versionKey.map List.singleton
  | .program => none
  | .arguments => none

theorem texts_override (options : Options) (config : Config) (setting : Config.Setting) :
    (options.override config).texts setting =
      (options.flag setting).getD (config.texts setting) := by
  cases setting with
  | parameters => cases given : options.parameters <;> simp only [override, flag, given] <;> rfl
  | manifest => cases given : options.manifest <;> simp only [override, flag, given] <;> rfl
  | versionKey => cases given : options.versionKey <;> simp only [override, flag, given] <;> rfl
  | program => rfl
  | arguments => rfl

theorem layered_getD {flag : Option (List String)} (layered : Layered none entries setting texts) :
    Layered flag entries setting (flag.getD texts) := by
  cases flag with
  | none => exact layered
  | some given => exact .flag given rfl

/-- The document that a call finds: that of the file it is given, or of the one in its root; without
such a file, the empty one. -/
inductive Finds (options : Options) (tree : Tree) : String → Prop where
  | given (path document : String) (named : options.config = some path)
      (read : tree.readText path = .ok document) : Finds options tree document
  | discovered (document : String) (unnamed : options.config = none)
      (there : tree.isFile (Path.join options.root Config.fileName) = true)
      (read : tree.readText (Path.join options.root Config.fileName) = .ok document) :
      Finds options tree document
  | absent (unnamed : options.config = none)
      (missing : tree.isFile (Path.join options.root Config.fileName) = false) :
      Finds options tree ""

theorem load_of_readText {path : String} (read : tree.readText path = .ok document)
    (accepted : Config.parse document = .ok config) : Config.load tree path = .ok config :=
  bind_eq_ok_iff.mpr
    ⟨document, mapError_eq_ok_iff.mpr read, mapError_eq_ok_iff.mpr accepted⟩

/-- A call loads the document that it finds, and applies its flags. -/
theorem loadSync_of_finds (finds : options.Finds tree document)
    (accepted : Config.parse document = .ok config) :
    options.loadSync launcher tag tree =
      .ok (Sync.ofConfig (options.override config) options.root launcher tag) := by
  have loaded : (options.loadConfig tree).2 = .ok (options.override config) := by
    cases finds with
    | given path _ named read =>
        simp only [loadConfig, named, load_of_readText read accepted]
        rfl
    | discovered _ unnamed there read =>
        simp only [loadConfig, unnamed, Config.discover, there, if_true,
          load_of_readText read accepted]
        rfl
    | absent unnamed missing =>
        have bare : Config.parse "" = .ok Config.default := eq_ok_of_toOption (by decide +kernel)
        obtain rfl := Except.ok.inj (bare.symm.trans accepted)
        simp only [loadConfig, unnamed, Config.discover, missing]
        rfl
  rw [loadSync, loaded]
  rfl

/-- What settles the configuration of a call. -/
structure Settles (options : Options) (entries : Entries) (config : Config) : Prop where
  /-- Every setting comes from the first of its sources that has it. -/
  layered : ∀ setting,
    Layered (options.flag setting) entries setting ((options.override config).texts setting)
  /-- Whatever else other flags and another document say, a setting with the same sources is the
  same. -/
  independent : ∀ (choice : Options) (further : String) (others : Entries) (other : Config),
    Toml.parse? further = some others → Config.parse further = .ok other →
    ∀ setting : Config.Setting, choice.flag setting = options.flag setting →
      (options.flag setting = none →
        ∀ value, Gives entries setting.place value ↔ Gives others setting.place value) →
      (choice.override other).texts setting = (options.override config).texts setting
  /-- Keys that name no setting and the order of keys have no influence. -/
  indifferent : ∀ (further : String) (others : Entries), Toml.parse? further = some others →
    Config.Alike entries others → Config.parse further = .ok config

/-- What a call does with the document that it finds, under the configuration that results. -/
structure Obeys (options : Options) (launcher : Launcher) (tag document : String)
    (config : Config) (sync : Sync) : Prop where
  parameters : Path.Located options.root config.parameters sync.parameters
  manifest : Path.Located options.root config.manifest sync.manifest
  versionKey : sync.versionKey = config.versionKey
  directory : sync.directory = options.root
  tool : sync.tool = config.build.tool launcher
  confined : sync.Confined
  checks : ∀ tree, options.Finds tree document → options.dryRun = true →
    (options.execute launcher tag tree).tree = tree ∧
      (options.execute launcher tag tree).result = (sync.check tree).2
  runs : ∀ tree, options.Finds tree document → options.dryRun = false →
    (options.execute launcher tag tree).tree = (sync.run tree).tree ∧
      (options.execute launcher tag tree).result = sync.runResult tree

theorem exists_entries (accepted : Config.parse document = .ok config) :
    ∃ entries, Toml.parse? document = some entries ∧ Config.ofEntries entries = .ok config := by
  rw [Config.parse] at accepted
  cases read : Toml.parse? document with
  | none =>
      rw [read] at accepted
      cases accepted
  | some entries =>
      rw [read] at accepted
      exact ⟨entries, rfl, accepted⟩

theorem settles_of_ofEntries (options : Options) (read : Toml.parse? document = some entries)
    (run : Config.ofEntries entries = .ok config) : options.Settles entries config := by
  have distinct := Toml.distinct_of_parse? read
  have layered (setting : Config.Setting) :
      Layered (options.flag setting) entries setting
        ((options.override config).texts setting) := by
    rw [texts_override]
    exact layered_getD (Config.layered_of_ofEntries distinct run setting)
  refine ⟨layered, ?_, ?_⟩
  · intro choice further others other again accepted setting flags gives
    obtain ⟨_, same, ran⟩ := exists_entries accepted
    obtain rfl := Option.some.inj (again.symm.trans same)
    have apart := Toml.distinct_of_parse? again
    rw [texts_override choice, flags]
    exact ((layered setting).eq_of_alike distinct gives
      (layered_getD (Config.layered_of_ofEntries apart ran setting))).symm
  · intro further others again alike
    rw [Config.parse, again]
    exact Config.ofEntries_congr distinct (Toml.distinct_of_parse? again) alike run

theorem obeys_of_accepted (options : Options) (launcher : Launcher) (tag : String)
    (accepted : Config.parse document = .ok config) :
    options.Obeys launcher tag document (options.override config)
      (Sync.ofConfig (options.override config) options.root launcher tag) where
  parameters := Path.located_join _ _
  manifest := Path.located_join _ _
  versionKey := rfl
  directory := rfl
  tool := rfl
  confined := Sync.confined _
  checks := fun _ finds dry =>
    execute_of_dry (loadSync_of_finds finds accepted) dry
  runs := fun _ finds wet => execute_of_wet (loadSync_of_finds finds accepted) wet

/-- Every setting of a call is that of its flag, else that of the document under its own key, else
its default, whatever the document says besides; and the call reads, writes and builds where these
settings say. -/
theorem settles_of_parse (options : Options) (launcher : Launcher) (tag : String)
    (accepted : Config.parse document = .ok config) :
    (∃ entries, Toml.parse? document = some entries ∧ options.Settles entries config) ∧
      ∃ sync, options.Obeys launcher tag document (options.override config) sync := by
  obtain ⟨entries, read, run⟩ := exists_entries accepted
  exact ⟨⟨entries, read, settles_of_ofEntries options read run⟩, _,
    obeys_of_accepted options launcher tag accepted⟩

end Options

namespace Sample

/-- A document that gives a part of the build command, among keys that name no setting. -/
def sparse : String :=
  "seed = 7\nversion_key = \"V\"\nparams_file = \"p\"\n" ++
    "build = \x7b jobs = 4, program = \"nix\" \x7d\n"

/-- What it configures. -/
def sparseConfig : Config :=
  { Config.default with
    parameters := "p"
    versionKey := "V"
    build := { BuildCommand.default with program := "nix" } }

/-- Options with a root and a manifest that does not depend on it. -/
def rooted : Options :=
  { Options.default with root := "r", manifest := some "/m" }

/-- Files with the document in that root. -/
def planted : Tree where
  entries :=
    [(["r"], .directory directoryMode), (["pin-sync.toml", "r"], .file sparse.toUTF8 fileMode)]
  here := []

end Sample

/-- The path of the document is taken relative to the root, and that of the flag stands for
itself. -/
theorem Options.settles_of_parse_sparse :
    Config.parse Sample.sparse = .ok Sample.sparseConfig ∧
      (∃ entries, Toml.parse? Sample.sparse = some entries ∧
        Sample.rooted.Settles entries Sample.sparseConfig) ∧
      ∃ sync, Sample.rooted.Obeys (Sample.launcher "") "7" Sample.sparse
          (Sample.rooted.override Sample.sparseConfig) sync ∧
        sync.parameters = "r/p" ∧ sync.manifest = "/m" ∧
        (Sample.rooted.execute (Sample.launcher "") "7" Sample.planted).result =
          sync.runResult Sample.planted := by
  have accepted : Config.parse Sample.sparse = .ok Sample.sparseConfig :=
    eq_ok_of_toOption (by decide +kernel)
  have finds : Sample.rooted.Finds Sample.planted Sample.sparse :=
    .discovered _ rfl (by decide +kernel) (eq_ok_of_toOption (by decide +kernel))
  obtain ⟨read, sync, obeys⟩ :=
    settles_of_parse Sample.rooted (Sample.launcher "") "7" accepted
  have parameters := Path.join_of_located obeys.parameters
  have manifest := Path.join_of_located obeys.manifest
  exact ⟨accepted, read, sync, obeys, parameters.symm.trans (by decide +kernel),
    manifest.symm.trans (by decide +kernel), (obeys.runs Sample.planted finds rfl).2⟩

end CommandLine

end ManifestPin
