import ManifestPin.Proofs.Files.Replacement
import ManifestPin.Proofs.Manifest.Editing
import ManifestPin.Proofs.Sync.Inspection

/-! # Rewriting one value in a file

The file of a manifest is read, one value is edited, and the file is replaced. Whatever fails on the
way leaves the file as it was, if nothing at the temporary name leads to it.
-/

namespace ManifestPin.Tree

variable {tree : Tree} {tag path : String} {field : Field} {old new : String}
  {replacement : Replacement} {failure : Failure}

theorem loadManifest_eq_error_iff :
    tree.loadManifest path = .error failure ↔
      ∃ refusal, tree.readText path = .error refusal ∧ failure = .file refusal := by
  unfold loadManifest
  cases tree.readText path <;> simp [eq_comm]

theorem setPinned_eq_ok_iff :
    tree.setPinned tag path field old new = .ok replacement ↔
      ∃ content edited, tree.readText path = .ok content ∧
        Manifest.setValue ⟨path, content⟩ field old new = .ok edited ∧
        replacement = tree.replaceText tag path edited.content := by
  simp only [setPinned, bind_eq_ok_iff, mapError_eq_ok_iff, loadManifest_eq_ok_iff, pure,
    Except.pure, Except.ok.injEq]
  constructor
  · rintro ⟨⟨_, content⟩, ⟨rfl, read⟩, edited, set, rfl⟩
    refine ⟨content, edited, read, set, ?_⟩
    rw [(Manifest.setValue_eq_ok_iff.mp set).path]
  · rintro ⟨content, edited, read, set, rfl⟩
    refine ⟨⟨path, content⟩, ⟨rfl, read⟩, edited, set, ?_⟩
    rw [(Manifest.setValue_eq_ok_iff.mp set).path]

theorem setPinned_eq_error_iff :
    tree.setPinned tag path field old new = .error failure ↔
      (∃ refusal, tree.readText path = .error refusal ∧ failure = .file refusal) ∨
        ∃ content missing, tree.readText path = .ok content ∧
          Manifest.setValue ⟨path, content⟩ field old new = .error missing ∧
          failure = .missingLine missing := by
  simp only [setPinned, bind_eq_error_iff, mapError_eq_error_iff, loadManifest_eq_ok_iff,
    loadManifest_eq_error_iff, pure, Except.pure, reduceCtorEq, and_false, exists_false, or_false]
  refine or_congr_right ⟨?_, ?_⟩
  · rintro ⟨⟨_, content⟩, ⟨rfl, read⟩, missing, set, rfl⟩
    exact ⟨content, missing, read, set, rfl⟩
  · rintro ⟨content, missing, read, set, rfl⟩
    exact ⟨⟨path, content⟩, ⟨rfl, read⟩, missing, set, rfl⟩

namespace Sample

/-- A manifest in which the second version declared is open, with returns at the ends of lines. -/
def versions (second : String) : String :=
  "# version\nversion = \"0\";\r\nversion = \"" ++ second ++ "\";\r\nversion = \"1\";"

/-- The file of such a manifest. -/
def returned : Tree where
  entries := [(["m"], .file (versions "1").toUTF8 fileMode)]
  here := []

/-- A manifest, and a link to it at the name of its temporary file. -/
def tied : Tree where
  entries := [(["m"], .file "version = \"1\";".toUTF8 fileMode), ([".m.7.tmp"], .link "m")]
  here := []

/-- A manifest that has the name of its temporary file as well. -/
def doubled : Tree where
  entries :=
    [(["m"], .file "version = \"1\";".toUTF8 fileMode),
      ([".m.7.tmp"], .file "version = \"1\";".toUTF8 fileMode)]
  here := []
  nodes := [(["m"], 1), ([".m.7.tmp"], 1)]

end Sample

/-- A replacement that fails leaves the file as it was if nothing but a file stands at the temporary
name, which is none of its names. -/
theorem readText_of_error {content text : String} {refusal : FileFailure}
    (read : tree.readText path = .ok content)
    (plain : ∀ entry, tree.standing? (temporary tag path) = some entry → entry.isFile = true)
    (failed : (tree.replaceText tag path text).result = .error refusal) :
    ((∀ slot location, tree.slot? (temporary tag path) = .ok (some slot) →
        tree.place path = .ok (.found location) → tree.shares slot.location location = false) →
      (tree.replaceText tag path text).tree.readText path = .ok content) ∧
    ∀ other, (∀ slot, tree.slot? (temporary tag path) = .ok (some slot) →
        tree.shares slot.location other = false) →
      (tree.replaceText tag path text).tree.get? other = tree.get? other := by
  obtain ⟨location, placed, -⟩ := place_of_readText read
  have directory := makeParent_of_place placed
  have leaves := leaves_of_error (directory.symm ▸ plain) failed
  rw [directory] at leaves
  refine ⟨fun apart => ?_, fun other apart => leaves.get?_of_not_shares apart⟩
  refine readText_of_keepsWays leaves.keepsWays (fun location placed => ?_) read
  exact leaves.get?_of_not_shares fun slot found => apart slot location found placed

/-- Setting a field in a manifest changes one value, on the first line that declares the field with
the old one, and fails where there is none. In a file it does this if nothing but a file stands at
the temporary name. What is refused before the file is written comes without another tree; what
fails after that leaves the file as it was, if the temporary name is none of its names, and
everything else but the file at the temporary name. -/
theorem setPinned_exact (tree : Tree) (tag path : String) (field : Field) (old new : String) :
    (∀ manifest : Manifest,
      ((∃ edited, manifest.setValue field old new = .ok edited) ↔
        ∃ line ∈ manifest.content.toList.splitOn '\n', field.Holds old.toList line) ∧
      (∀ edited, manifest.setValue field old new = .ok edited ↔
        manifest.Edits field old new edited) ∧
      ∀ missing, manifest.setValue field old new = .error missing →
        missing = ⟨manifest.path, .holds field old⟩) ∧
    (∀ failure, tree.setPinned tag path field old new = .error failure ↔
      (∃ refusal, tree.readText path = .error refusal ∧ failure = .file refusal) ∨
        ∃ content missing, tree.readText path = .ok content ∧
          Manifest.setValue ⟨path, content⟩ field old new = .error missing ∧
          failure = .missingLine missing) ∧
    ∀ replacement, tree.setPinned tag path field old new = .ok replacement →
      ∃ content edited, tree.readText path = .ok content ∧
        Manifest.setValue ⟨path, content⟩ field old new = .ok edited ∧
        ((∀ entry, tree.standing? (temporary tag path) = some entry → entry.isFile = true) →
          (replacement.result = .ok () →
            replacement.tree.readText path = .ok edited.content ∧
              ∃ source target, tree.slot? (temporary tag path) = .ok (some source) ∧
                tree.slot? path = .ok (some target) ∧
                tree.Replaces replacement.tree source target edited.content.toUTF8) ∧
          ∀ refusal, replacement.result = .error refusal →
            ((∀ slot location, tree.slot? (temporary tag path) = .ok (some slot) →
                tree.place path = .ok (.found location) →
                tree.shares slot.location location = false) →
              replacement.tree.readText path = .ok content) ∧
            ∀ other, (∀ slot, tree.slot? (temporary tag path) = .ok (some slot) →
                tree.shares slot.location other = false) →
              replacement.tree.get? other = tree.get? other) := by
  refine ⟨fun manifest => ⟨Manifest.exists_setValue_iff, fun edited => Manifest.setValue_eq_ok_iff,
    fun missing set => (Manifest.setValue_eq_error_iff.mp set).2⟩,
    fun failure => setPinned_eq_error_iff, fun replacement sets => ?_⟩
  obtain ⟨content, edited, read, set, rfl⟩ := setPinned_eq_ok_iff.mp sets
  refine ⟨content, edited, read, set, fun plain => ⟨fun written => ?_, fun refusal failed => ?_⟩⟩
  · refine ⟨readText_replaceText_of_readText read plain written, ?_⟩
    obtain ⟨location, placed, -⟩ := place_of_readText read
    have directory := makeParent_of_place placed
    obtain ⟨source, target, standing, reached, -, -, -, replaces⟩ :=
      replace_eq_ok (directory.symm ▸ plain) written
    rw [directory] at standing reached replaces
    exact ⟨source, target, standing, reached, replaces⟩
  · exact readText_of_error read plain failed

/-- The line above declares another version, and the one below is not reached. On a full file system
the manifest stays as it is. -/
theorem setPinned_exact_returned :
    (∃ replacement, Sample.returned.setPinned "7" "m" .version "1" "2" = .ok replacement ∧
      replacement.tree.readText "m" = .ok (Sample.versions "2")) ∧
    (∃ replacement refusal, Sample.returned.filled.setPinned "7" "m" .version "1" "2" =
        .ok replacement ∧ replacement.result = .error refusal ∧
      replacement.tree.readText "m" = .ok (Sample.versions "1")) ∧
    Sample.returned.setPinned "7" "m" .version "9" "2" =
      .error (.missingLine ⟨"m", .holds .version "9"⟩) := by
  have set : Manifest.setValue ⟨"m", Sample.versions "1"⟩ .version "1" "2" =
      .ok ⟨"m", Sample.versions "2"⟩ := by decide +kernel
  have sets {tree : Tree} (read : tree.readText "m" = .ok (Sample.versions "1")) :
      tree.setPinned "7" "m" .version "1" "2" =
        .ok (tree.replaceText "7" "m" (Sample.versions "2")) :=
    setPinned_eq_ok_iff.mpr ⟨_, _, read, set, rfl⟩
  have read : Sample.returned.readText "m" = .ok (Sample.versions "1") :=
    eq_ok_of_toOption (by decide +kernel)
  have crammed : Sample.returned.filled.readText "m" = .ok (Sample.versions "1") :=
    eq_ok_of_toOption (by decide +kernel)
  have plain {tree : Tree} (absent : (tree.standing? (temporary "7" "m")).isNone = true)
      (entry : Entry) (held : tree.standing? (temporary "7" "m") = some entry) :
      entry.isFile = true := by
    simp [held] at absent
  refine ⟨⟨_, sets read, ?_⟩, ?_, ?_⟩
  · obtain ⟨content, edited, again, taken, writes⟩ :=
      (setPinned_exact Sample.returned "7" "m" .version "1" "2").2.2 _ (sets read)
    cases again.symm.trans read
    cases taken.symm.trans set
    exact ((writes (plain (by decide +kernel))).1 (eq_ok_of_toOption (by decide +kernel))).1
  · obtain ⟨content, edited, again, -, writes⟩ :=
      (setPinned_exact Sample.returned.filled "7" "m" .version "1" "2").2.2 _ (sets crammed)
    cases again.symm.trans crammed
    cases failed : (Sample.returned.filled.replaceText "7" "m"
        (Sample.versions "2")).result with
    | ok =>
        have none : (Sample.returned.filled.replaceText "7" "m"
            (Sample.versions "2")).result.toOption = none := by decide +kernel
        simp [failed, Except.toOption] at none
    | error refusal =>
        have keeps := ((writes (plain (by decide +kernel))).2 refusal failed).1
        refine ⟨_, refusal, sets crammed, failed, keeps fun slot location found placed => ?_⟩
        have standing : Sample.returned.filled.slot? (temporary "7" "m") =
            .ok (some ⟨[], ".m.7.tmp", false⟩) := eq_ok_of_toOption (by decide +kernel)
        have target : Sample.returned.filled.place "m" = .ok (.found ["m"]) :=
          eq_ok_of_toOption (by decide +kernel)
        cases standing.symm.trans found
        cases target.symm.trans placed
        decide +kernel
  · have refused : Manifest.setValue ⟨"m", Sample.versions "1"⟩ .version "9" "2" =
        .error ⟨"m", .holds .version "9"⟩ := by decide +kernel
    exact ((setPinned_exact Sample.returned "7" "m" .version "9" "2").2.1 _).mpr
      (.inr ⟨_, _, read, refused, rfl⟩)

/-- Where a link to the manifest stands at the temporary name, the edited text is written through it
and then replaced by the link. Where the temporary name leads to the manifest, be it a link or the
manifest's own name, what fails after the file was opened has emptied it. -/
theorem setPinned_exact_tied :
    (Sample.tied.readText "m" = .ok "version = \"1\";" ∧
      Manifest.setValue ⟨"m", "version = \"1\";"⟩ .version "1" "2" =
        .ok ⟨"m", "version = \"2\";"⟩ ∧
      ∃ replacement, Sample.tied.setPinned "7" "m" .version "1" "2" = .ok replacement ∧
        replacement.result = .ok () ∧
        replacement.tree.readText "m" ≠ .ok "version = \"2\";") ∧
    ∀ tree ∈ [Sample.tied.filled, Sample.doubled.filled],
      tree.readText "m" = .ok "version = \"1\";" ∧
      ∃ replacement refusal, tree.setPinned "7" "m" .version "1" "2" = .ok replacement ∧
        replacement.result = .error refusal ∧ replacement.tree.readText "m" = .ok "" := by
  have set : Manifest.setValue ⟨"m", "version = \"1\";"⟩ .version "1" "2" =
      .ok ⟨"m", "version = \"2\";"⟩ := by
    decide +kernel
  have read : Sample.tied.readText "m" = .ok "version = \"1\";" :=
    eq_ok_of_toOption (by decide +kernel)
  have fails {tree : Tree} (before : (tree.readText "m").toOption = some "version = \"1\";")
      (failed : (tree.replaceText "7" "m" "version = \"2\";").result.toOption = none)
      (after : ((tree.replaceText "7" "m" "version = \"2\";").tree.readText "m").toOption =
        some "") :
      tree.readText "m" = .ok "version = \"1\";" ∧
        ∃ replacement refusal, tree.setPinned "7" "m" .version "1" "2" = .ok replacement ∧
          replacement.result = .error refusal ∧ replacement.tree.readText "m" = .ok "" := by
    have read := eq_ok_of_toOption before
    cases refused : (tree.replaceText "7" "m" "version = \"2\";").result with
    | ok => simp [refused, Except.toOption] at failed
    | error refusal =>
        exact ⟨read, _, refusal, setPinned_eq_ok_iff.mpr ⟨_, _, read, set, rfl⟩, refused,
          eq_ok_of_toOption after⟩
  refine ⟨⟨read, set, _, setPinned_eq_ok_iff.mpr ⟨_, _, read, set, rfl⟩,
    eq_ok_of_toOption (by decide +kernel), ne_ok_of_toOption (by decide +kernel)⟩, ?_⟩
  simp only [List.forall_mem_cons, List.not_mem_nil, false_imp_iff, implies_true, and_true]
  exact ⟨fails (by decide +kernel) (by decide +kernel) (by decide +kernel),
    fails (by decide +kernel) (by decide +kernel) (by decide +kernel)⟩

end ManifestPin.Tree
