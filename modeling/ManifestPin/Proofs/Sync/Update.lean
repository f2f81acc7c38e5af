import ManifestPin.Proofs.Files.Hosting
import ManifestPin.Proofs.Sync.Course

/-! # Updating runs

A run that is out of date builds once, with the provisional manifest on file, and then writes the
final manifest.
-/

namespace ManifestPin

open BuildTool (Reports)

namespace Sample

/-- A parameter file and, in a directory, a manifest that pins another version. -/
def tree : Tree where
  entries :=
    [(["p"], .file "V = 2\n".toUTF8 fileMode),
      (["a"], .directory directoryMode),
      (["m", "a"], .file "version = \"1\"\nsha256 = \"abc\"\n".toUTF8 fileMode)]
  here := []

/-- A run on these files. Its tool changes the tree and ends with some diagnostics. -/
def sync (change : Tree → Tree) (diagnostics : String) : Sync where
  parameters := "p"
  manifest := "a/m"
  versionKey := "V"
  directory := "."
  tool :=
    { program := "build"
      invoke _ tree :=
        { tree := change tree, events := [], result := .ok { success := false, diagnostics } } }
  tag := "7"

/-- What the run finds. -/
def inspection : Inspection where
  current := "2"
  manifest := { path := "a/m", content := "version = \"1\"\nsha256 = \"abc\"\n" }
  pin := { version := "1", hash := "abc" }
  agreement := .different

/-- The tree without the manifest's directory. -/
def remove (tree : Tree) : Tree :=
  tree.eraseBelow ["a"]

/-- The tree with a link for the manifest's directory that leads through the manifest's entry. -/
def relink (tree : Tree) : Tree :=
  { remove tree with
    entries :=
      [(["d"], .directory directoryMode), (["sub", "d"], .directory directoryMode),
        (["m", "d"], .link "sub"), (["a"], .link "d/m/..")] ++ (remove tree).entries }

/-- The tree with a link to the manifest at the name of its temporary file. -/
def lay (tree : Tree) : Tree :=
  tree.put [".m.7.tmp", "a"] (.link "m")

theorem compared : Version.agreement "1" "2" = .ok .different := by
  have one : Version.parse "1" = .ok ⟨[1], [], "1"⟩ := rfl
  have two : Version.parse "2" = .ok ⟨[2], [], "2"⟩ := rfl
  have below : Version.compareRelease [1] [2] = .lt := rfl
  have apart : ((⟨[1], [], "1"⟩ : Version) == ⟨[2], [], "2"⟩) = false := by
    change (Version.compare _ _ == .eq) = false
    rw [Version.compare, below]
    rfl
  rw [Version.agreement_of_parse one two, apart]
  rfl

theorem declaration : tree.readText "p" = .ok "V = 2\n" :=
  eq_ok_of_toOption (by decide)

/-- Both files are served, whatever is left at temporary names. -/
theorem serves (tags : String → Prop) (plain : ∀ tag, tags tag → '/' ∉ tag.toList) :
    tree.Serves tags "p" "a/m" "V = 2\n" inspection.manifest.content := by
  have found : tree.slot? "a/m" = .ok (some ⟨["a"], "m", false⟩) :=
    eq_ok_of_toOption (by decide)
  have vacant (tag : String) : tree.get? [Tree.temporaryName tag "m", "a"] = none := by
    have apart := Ne.symm (Tree.temporaryName_ne tag "m")
    simp [tree, Tree.get?, apart]
  have below : ["m", "a"] ≠ [] := List.cons_ne_nil _ _
  refine ⟨⟨_, found, ?_, ?_⟩, fun tag listed => Tree.spare_of_absent ?_⟩
  · refine Tree.readText_of_within ((Tree.Same.refl tree).within.without ?_)
      (eq_ok_of_toOption (by decide))
    rintro location - ⟨tag, -, rfl⟩
    exact vacant tag
  · have read : (tree.erase ["m", "a"]).readText "p" = .ok "V = 2\n" :=
      eq_ok_of_toOption (by decide)
    refine Tree.readText_of_within ((Tree.within_erase tree below).without ?_) read
    rintro location - (rfl | ⟨tag, -, rfl⟩)
    · exact Tree.get?_erase_self tree below
    · refine Option.eq_none_iff_forall_ne_some.mpr fun entry held => ?_
      have there := ((Tree.get?_erase_eq_some below).mp held).2
      cases (vacant tag).symm.trans there
  · exact Tree.standing?_temporary found rfl (plain tag listed) fun _ => vacant tag

theorem builds_of {files : Tree} (change : Tree → Tree) (diagnostics : String)
    (declared : (files.declaredVersion "p" "V").toOption = some ⟨"2", "2"⟩)
    (pinned : (files.pinnedManifest "a/m").toOption = some (inspection.manifest, inspection.pin))
    (saved : (files.replaceText "7" "a/m" inspection.provisional.content).result.toOption =
      some ()) : (sync change diagnostics).Builds files inspection where
  inspected := Sync.inspect_eq_ok_iff.mpr
    ⟨⟨"2", eq_ok_of_toOption declared⟩, eq_ok_of_toOption pinned, compared⟩
  outdated := by decide
  saved := fun _ => eq_ok_of_toOption saved

theorem builds (change : Tree → Tree) (diagnostics : String) :
    (sync change diagnostics).Builds tree inspection :=
  builds_of change diagnostics (by decide) (by decide) (by decide +kernel)

/-- The tree in which the run builds. -/
def provided : Tree :=
  (tree.replaceText "7" "a/m" inspection.provisional.content).tree

/-- How the run ends that is told a hash. -/
theorem ends (change : Tree → Tree) {diagnostics hash : String}
    (reports : Reports inspection.placeholder (.ok { success := false, diagnostics }) hash)
    (written : ((change provided).replaceText "7" "a/m" (inspection.final hash).content).result =
      .ok ()) :
    (sync change diagnostics).runResult tree = .ok (.updated "1" "2" hash) ∧
      ((sync change diagnostics).run tree).tree =
        ((change provided).replaceText "7" "a/m" (inspection.final hash).content).tree := by
  have stands := (builds change diagnostics).stands_of_reports reports
  refine ⟨?_, stands.tree⟩
  change Run.Stands _ (Run.afterFinishing inspection hash ((change provided).replaceText "7" "a/m"
    (inspection.final hash).content).result) _ _ at stands
  rw [written] at stands
  exact Sync.runResult_of_stands stands

/-- Nothing is in the way of the manifest where it has its slot without what stands there. -/
theorem clear {left : Tree}
    (absent : (left.standing? (Tree.temporary "7" "a/m")).isNone = true)
    (found : (left.slot? "a/m").toOption = some (some ⟨["a"], "m", false⟩))
    (kept : ((left.erase ["m", "a"]).slot? "a/m").toOption = some (some ⟨["a"], "m", false⟩)) :
    left.Clear "7" "a/m" :=
  Tree.clear_of_slot? ⟨["a"], "m", false⟩ (Option.isNone_iff_eq_none.mp absent)
    (eq_ok_of_toOption found) (eq_ok_of_toOption kept)

theorem plain_of_absent {files : Tree} {path : String}
    (absent : (files.standing? path).isNone = true) (entry : Entry)
    (held : files.standing? path = some entry) : entry.isFile = true := by
  simp [held] at absent

theorem plain (entry : Entry)
    (held : tree.standing? (Tree.temporary "7" "a/m") = some entry) : entry.isFile = true :=
  plain_of_absent (by decide) entry held

theorem reports_def :
    Reports inspection.placeholder (.ok { success := false, diagnostics := "got: def\n" }) "def" :=
  ⟨⟨_, rfl, by decide⟩, by decide, by decide⟩

theorem told_def : Report.hash? "got: def\n" = some "def" := by
  obtain ⟨output, ran, told⟩ := reports_def.reported
  cases ran
  exact told

/-- Nothing is in the way of the manifest after the only build of a run that leaves the files. -/
theorem clear_calls (diagnostics : String) :
    ∀ call ∈ ((sync id diagnostics).run tree).calls,
      (((sync id diagnostics).tool.invoke call.directory call.tree).tree.makeParent
        "a/m").1.Clear "7" "a/m" := by
  intro call listed
  rw [(builds id diagnostics).calls] at listed
  obtain rfl := List.mem_singleton.mp listed
  have plain (tag : String) (same : tag = "7") : '/' ∉ tag.toList := same ▸ by decide
  have left : provided.Serves (· = "7") "p" "a/m" "V = 2\n" inspection.provisional.content :=
    (serves _ plain).replaceText plain rfl ((builds id diagnostics).saved rfl)
  have same : (sync id diagnostics).built inspection tree = provided := rfl
  change (((sync id diagnostics).built inspection tree).makeParent "a/m").1.Clear "7" "a/m"
  rw [same, left.makeParent]
  exact left.clear rfl

end Sample

namespace Sync

section

variable {sync : Sync} {tree : Tree} {inspection : Inspection} {pinned current hash : String}

/-- A run that is out of date builds once, with the provisional manifest on file; when the build
reports a hash and the final manifest can be written, that is what the file reads afterwards. -/
theorem run_of_builds (builds : sync.Builds tree inspection)
    (plain : ∀ entry, tree.standing? (Tree.temporary sync.tag sync.manifest) = some entry →
      entry.isFile = true) :
    tree.readText sync.manifest = .ok inspection.manifest.content ∧
    (∃ call, (sync.run tree).calls = [call] ∧ call.directory = sync.directory ∧
      call.tree = sync.built inspection tree ∧
      call.tree.readText sync.manifest = .ok inspection.provisional.content) ∧
    ∀ hash, Reports inspection.placeholder (sync.build inspection tree).result hash →
      ((sync.build inspection tree).tree.makeParent sync.manifest).1.Clear sync.tag sync.manifest →
      ((sync.build inspection tree).tree.replaceText sync.tag sync.manifest
        (inspection.final hash).content).result = .ok () →
      sync.runResult tree = .ok (.updated inspection.pin.version inspection.current hash) ∧
        (sync.run tree).tree.readText sync.manifest = .ok (inspection.final hash).content := by
  refine ⟨(Inspection.sound_of_inspect builds.inspected).2.2, ?_, ?_⟩
  · exact ⟨_, builds.calls, rfl, rfl, builds.readText_built fun _ => plain⟩
  · intro hash reports clear written
    have stands := builds.stands_of_reports reports
    rw [written] at stands
    exact ⟨runResult_of_stands stands, builds.readText_run reports clear written⟩

/-- The final manifest is written also when the tool removes the manifest's directory. -/
theorem run_of_builds_removed :
    (Sample.sync Sample.remove "got: def\n").runResult Sample.tree =
        .ok (.updated "1" "2" "def") ∧
      ((Sample.sync Sample.remove "got: def\n").run Sample.tree).tree.readText "a/m" =
        .ok "version = \"2\"\nsha256 = \"def\"\n" := by
  have final : (Sample.inspection.final "def").content =
      "version = \"2\"\nsha256 = \"def\"\n" := by decide
  rw [← final]
  refine (run_of_builds (Sample.builds Sample.remove "got: def\n") Sample.plain).2.2 "def"
    Sample.reports_def ?_ (eq_ok_of_toOption (by decide +kernel))
  exact Sample.clear (by decide +kernel) (by decide +kernel) (by decide +kernel)

/-- The final manifest is not read when its directory was linked through its own entry, or when a
link was laid at the temporary name; nor does the build find the provisional manifest when the link
was there before. -/
theorem run_of_builds_linked :
    ((Sample.sync Sample.relink "got: def\n").Builds Sample.tree Sample.inspection ∧
      (Sample.sync Sample.relink "got: def\n").runResult Sample.tree =
        .ok (.updated "1" "2" "def") ∧
      ((Sample.sync Sample.relink "got: def\n").run Sample.tree).tree.readText "a/m" ≠
        .ok (Sample.inspection.final "def").content) ∧
    ((Sample.sync Sample.lay "got: def\n").Builds Sample.tree Sample.inspection ∧
      (Sample.sync Sample.lay "got: def\n").runResult Sample.tree =
        .ok (.updated "1" "2" "def") ∧
      ((Sample.sync Sample.lay "got: def\n").run Sample.tree).tree.readText "a/m" ≠
        .ok (Sample.inspection.final "def").content) ∧
    ((Sample.sync id "got: def\n").Builds (Sample.lay Sample.tree) Sample.inspection ∧
      ((Sample.sync id "got: def\n").built Sample.inspection (Sample.lay Sample.tree)).readText
        "a/m" ≠ .ok Sample.inspection.provisional.content) := by
  obtain ⟨relinked, relinkedTree⟩ := Sample.ends Sample.relink Sample.reports_def
    (eq_ok_of_toOption (by decide +kernel))
  obtain ⟨laid, laidTree⟩ := Sample.ends Sample.lay Sample.reports_def
    (eq_ok_of_toOption (by decide +kernel))
  refine ⟨⟨Sample.builds _ _, relinked, ?_⟩, ⟨Sample.builds _ _, laid, ?_⟩,
    Sample.builds_of _ _ (by decide +kernel) (by decide +kernel) (by decide +kernel), ?_⟩
  · rw [relinkedTree]
    exact ne_ok_of_toOption (by decide +kernel)
  · rw [laidTree]
    exact ne_ok_of_toOption (by decide +kernel)
  · exact ne_ok_of_toOption (by decide +kernel)

/-- After an update the manifest pins a version equal to the declared one, and the hash up to its
first quote. -/
theorem pinnedValue_of_updated
    (updated : sync.runResult tree = .ok (.updated pinned current hash))
    (clear : ∀ call ∈ (sync.run tree).calls,
      ((sync.tool.invoke call.directory call.tree).tree.makeParent sync.manifest).1.Clear
        sync.tag sync.manifest) :
    (sync.run tree).tree.pinnedValue sync.manifest .hash =
      .ok (String.ofList (hash.toList.takeWhile (· ≠ '"'))) ∧
    ((sync.run tree).tree.pinnedValue sync.manifest .hash = .ok hash ↔ '"' ∉ hash.toList) ∧
    ∃ version, (sync.run tree).tree.pinnedValue sync.manifest .version = .ok version ∧
      Version.agreement version current = .ok .equal := by
  obtain ⟨inspection, builds, rfl, rfl, reports, written⟩ := builds_of_updated updated
  obtain ⟨output, -, reported⟩ := reports.reported
  have single := Report.feed_not_mem_hash? reported
  have left := clear ⟨sync.directory, sync.built inspection tree⟩ (by simp [builds.calls])
  have read := builds.readText_run reports left written
  have path : (inspection.final hash).path = sync.manifest :=
    (Inspection.path_final inspection hash).trans builds.path
  rw [← path] at read ⊢
  have pinned := Tree.pinnedValue_of_value read (builds.sound.hash_final single)
  obtain ⟨version, held, equal⟩ := builds.sound.version_final single
  refine ⟨pinned, ?_, version, Tree.pinnedValue_of_value read held, equal⟩
  rw [pinned, Except.ok.injEq, Manifest.takeWhile_unquoted_iff]

/-- A hash without quotes is read back. -/
theorem pinnedValue_of_updated_plain :
    ((Sample.sync id "got: def\n").run Sample.tree).tree.pinnedValue "a/m" .hash = .ok "def" := by
  have ended := Sample.ends id Sample.reports_def
    (eq_ok_of_toOption (by decide +kernel))
  exact (pinnedValue_of_updated ended.1 (Sample.clear_calls _)).2.1.mpr (by decide)

/-- A hash with a quote is not. -/
theorem pinnedValue_of_updated_quoted :
    (Sample.sync id "got: abc\"def\n").runResult Sample.tree =
        .ok (.updated "1" "2" "abc\"def") ∧
      ((Sample.sync id "got: abc\"def\n").run Sample.tree).tree.pinnedValue "a/m" .hash =
        .ok "abc" := by
  have reports : Reports Sample.inspection.placeholder
      (.ok { success := false, diagnostics := "got: abc\"def\n" }) "abc\"def" :=
    ⟨⟨_, rfl, by decide⟩, by decide, by decide⟩
  obtain ⟨updated, ended⟩ := Sample.ends id reports (eq_ok_of_toOption (by decide +kernel))
  exact ⟨updated, ended ▸ eq_ok_of_toOption (by decide +kernel)⟩

end

end Sync

end ManifestPin
