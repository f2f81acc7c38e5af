import ManifestPin.Proofs.Declaration
import ManifestPin.Proofs.Results
import ManifestPin.Proofs.Hash.Placeholder
import ManifestPin.Proofs.Manifest.Value
import ManifestPin.Proofs.Version.Order
import ManifestPin.Proofs.Files.Slot
import ManifestPin.Sync.Inspection

/-! # What an inspection finds

An inspection that succeeds has read both files, and what it pins is what the manifest declares. The
manifests that a run derives from it overwrite the pinned values in place.
-/

namespace ManifestPin

variable {tree before after : Tree} {path key : String} {manifest : Manifest} {pin : Pin}
  {declared : DeclaredVersion} {sync : Sync} {inspection : Inspection}

namespace Tree

theorem loadManifest_eq_ok_iff :
    tree.loadManifest path = .ok manifest ↔
      manifest.path = path ∧ tree.readText path = .ok manifest.content := by
  obtain ⟨file, content⟩ := manifest
  unfold loadManifest
  cases tree.readText path with
  | error failure => simp
  | ok found => simp [eq_comm]

theorem pinnedManifest_eq_ok_iff :
    tree.pinnedManifest path = .ok (manifest, pin) ↔
      manifest.path = path ∧ tree.readText path = .ok manifest.content ∧
        manifest.value .version = .ok pin.version ∧ manifest.value .hash = .ok pin.hash := by
  rw [← Manifest.pin_eq_ok_iff, ← and_assoc, ← loadManifest_eq_ok_iff]
  simp only [pinnedManifest, bind_eq_ok_iff, mapError_eq_ok_iff, pure, Except.pure,
    Except.ok.injEq, Prod.mk.injEq]
  constructor
  · rintro ⟨_, loaded, _, read, rfl, rfl⟩
    exact ⟨loaded, read⟩
  · rintro ⟨loaded, read⟩
    exact ⟨manifest, loaded, pin, read, rfl, rfl⟩

theorem pinnedValue_of_value {field : Field} {value : String}
    (read : tree.readText manifest.path = .ok manifest.content)
    (held : manifest.value field = .ok value) :
    tree.pinnedValue manifest.path field = .ok value := by
  simp only [pinnedValue, bind_eq_ok_iff, mapError_eq_ok_iff]
  exact ⟨manifest, loadManifest_eq_ok_iff.mpr ⟨rfl, read⟩, held⟩

/-- The declared version stands for a token of the file. -/
theorem versionOfToken_of_declaredVersion
    (found : tree.declaredVersion path key = .ok declared) :
    Declaration.versionOfToken declared.token = .ok declared.version := by
  simp only [declaredVersion, bind_eq_ok_iff] at found
  obtain ⟨content, -, found⟩ := found
  split at found
  · cases found
  · simp only [bind_eq_ok_iff, mapError_eq_ok_iff, pure, Except.pure] at found
    obtain ⟨version, valid, found⟩ := found
    cases found
    exact valid

/-- The declared version depends on nothing but the text of its file. -/
theorem declaredVersion_congr (same : after.readText path = before.readText path) :
    after.declaredVersion path key = before.declaredVersion path key := by
  rw [declaredVersion, declaredVersion, same]

end Tree

namespace Sync

theorem inspect_eq_ok_iff :
    (sync.inspect tree).2 = .ok inspection ↔
      (∃ token, tree.declaredVersion sync.parameters sync.versionKey =
        .ok ⟨token, inspection.current⟩) ∧
      tree.pinnedManifest sync.manifest = .ok (inspection.manifest, inspection.pin) ∧
      Version.agreement inspection.pin.version inspection.current = .ok inspection.agreement := by
  unfold Sync.inspect
  constructor
  · intro found
    split at found
    · cases found
    next declared declares =>
    simp only at found
    split at found
    · cases found
    next manifest pin pinned =>
    split at found
    · cases found
    next agreement compared =>
    cases found
    exact ⟨⟨declared.token, declares⟩, pinned, compared⟩
  · rintro ⟨⟨token, declares⟩, pinned, compared⟩
    simp only [declares, pinned, compared]

end Sync

namespace Inspection

/-- The manifest with a placeholder pinned, and the declared version if it differs from the pinned
one. -/
def provisional (inspection : Inspection) : Manifest :=
  match inspection.agreement with
  | .different =>
    (inspection.manifest.overwrite .version inspection.current).overwrite .hash
      inspection.placeholder
  | .equal => inspection.manifest.overwrite .hash inspection.placeholder

/-- The provisional manifest with a hash in place of the placeholder. -/
def final (inspection : Inspection) (hash : String) : Manifest :=
  inspection.provisional.overwrite .hash hash

/-- What an inspection knows of what it found. -/
structure Sound (inspection : Inspection) : Prop where
  version : inspection.manifest.value .version = .ok inspection.pin.version
  hash : inspection.manifest.value .hash = .ok inspection.pin.hash
  compared :
    Version.agreement inspection.pin.version inspection.current = .ok inspection.agreement
  unquoted : '"' ∉ inspection.current.toList
  single : '\n' ∉ inspection.current.toList

theorem sound_of_inspect (inspected : (sync.inspect tree).2 = .ok inspection) :
    inspection.Sound ∧ inspection.manifest.path = sync.manifest ∧
      tree.readText sync.manifest = .ok inspection.manifest.content := by
  obtain ⟨⟨token, declares⟩, pinned, compared⟩ := Sync.inspect_eq_ok_iff.mp inspected
  obtain ⟨path, read, version, hash⟩ := Tree.pinnedManifest_eq_ok_iff.mp pinned
  obtain ⟨-, current, -, valid⟩ := Version.parse_of_agreement compared
  obtain ⟨unquoted, single⟩ :=
    Declaration.not_mem_of_parse (Tree.versionOfToken_of_declaredVersion declares) valid
  exact ⟨⟨version, hash, compared, unquoted, single⟩, path, read⟩

@[simp] theorem path_provisional (inspection : Inspection) :
    inspection.provisional.path = inspection.manifest.path := by
  unfold provisional
  split <;> simp only [Manifest.path_overwrite]

@[simp] theorem path_final (inspection : Inspection) (hash : String) :
    (inspection.final hash).path = inspection.manifest.path :=
  path_provisional inspection

/-- An out-of-date manifest with the declared version pinned has a placeholder pinned. -/
theorem placeholder_of_equal (outdated : inspection.isUpToDate = false)
    (equal : inspection.agreement = .equal) : inspection.placeholder = inspection.pin.hash := by
  have pending : inspection.hashPending = true := by simpa [isUpToDate, equal] using outdated
  exact Hash.placeholder_of_isPlaceholder pending

namespace Sound

variable (sound : inspection.Sound)

include sound

/-- Nothing is left to write when only the hash is missing. -/
theorem provisional_of_equal (outdated : inspection.isUpToDate = false)
    (equal : inspection.agreement = .equal) : inspection.provisional = inspection.manifest := by
  simp only [provisional, equal, placeholder_of_equal outdated equal]
  exact Manifest.overwrite_self sound.hash

/-- The pinned hash is still read once the version is replaced. -/
theorem hash_revised :
    (inspection.manifest.overwrite .version inspection.current).value .hash =
      .ok inspection.pin.hash :=
  Manifest.value_overwrite_of_ne (by decide) sound.single sound.hash

theorem hash_provisional :
    inspection.provisional.value .hash = .ok inspection.placeholder := by
  have unquoted := Hash.quote_not_mem_placeholder inspection.pin.hash
  have single := Hash.feed_not_mem_placeholder inspection.pin.hash
  unfold provisional
  split
  · exact Manifest.value_overwrite_of_unquoted sound.hash_revised single unquoted
  · exact Manifest.value_overwrite_of_unquoted sound.hash single unquoted

theorem version_provisional_of_different (different : inspection.agreement = .different) :
    inspection.provisional.value .version = .ok inspection.current := by
  have single := Hash.feed_not_mem_placeholder inspection.pin.hash
  have read := Manifest.value_overwrite_of_unquoted sound.version sound.single sound.unquoted
  simp only [provisional, different]
  exact Manifest.value_overwrite_of_ne (by decide) single read

theorem agreement_current : Version.agreement inspection.current inspection.current = .ok .equal := by
  obtain ⟨-, current, -, valid⟩ := Version.parse_of_agreement sound.compared
  exact Version.agreement_self valid

/-- The provisional manifest pins a version that compares equal to the declared one. -/
theorem version_provisional :
    ∃ version, inspection.provisional.value .version = .ok version ∧
      Version.agreement version inspection.current = .ok .equal := by
  cases agreement : inspection.agreement with
  | different =>
      exact ⟨_, sound.version_provisional_of_different agreement, sound.agreement_current⟩
  | equal =>
      have single := Hash.feed_not_mem_placeholder inspection.pin.hash
      refine ⟨inspection.pin.version, ?_, agreement ▸ sound.compared⟩
      simp only [provisional, agreement]
      exact Manifest.value_overwrite_of_ne (by decide) single sound.version

/-- The final manifest pins the hash up to its first quote. -/
theorem hash_final {hash : String} (single : '\n' ∉ hash.toList) :
    (inspection.final hash).value .hash =
      .ok (String.ofList (hash.toList.takeWhile (· ≠ '"'))) :=
  Manifest.value_overwrite sound.hash_provisional single

/-- The final manifest pins a version that compares equal to the declared one. -/
theorem version_final {hash : String} (single : '\n' ∉ hash.toList) :
    ∃ version, (inspection.final hash).value .version = .ok version ∧
      Version.agreement version inspection.current = .ok .equal := by
  obtain ⟨version, read, equal⟩ := sound.version_provisional
  exact ⟨version, Manifest.value_overwrite_of_ne (by decide) single read, equal⟩

/-- The final manifest of an out-of-date one is another text: it has the declared version's spelling
where the versions differ, and a hash for a placeholder where they do not. -/
theorem content_final_ne {hash : String} (outdated : inspection.isUpToDate = false)
    (single : '\n' ∉ hash.toList) (apart : hash ≠ inspection.placeholder) :
    (inspection.final hash).content ≠ inspection.manifest.content := by
  cases agreement : inspection.agreement with
  | different =>
      intro same
      have read := Manifest.value_overwrite_of_ne (show Field.version ≠ .hash by decide) single
        (sound.version_provisional_of_different agreement)
      have kept := (Manifest.value_eq_ok_congr same .version).mpr sound.version
      have current : inspection.pin.version = inspection.current :=
        Except.ok.inj (kept.symm.trans read)
      have compared := sound.compared
      rw [current, sound.agreement_current, agreement] at compared
      cases compared
  | equal =>
      have pinned := placeholder_of_equal outdated agreement
      rw [final, sound.provisional_of_equal outdated agreement]
      exact Manifest.content_overwrite_ne sound.hash (pinned ▸ apart)

end Sound

end Inspection

namespace Sync

/-- A sound inspection is what is found where its manifest is on file and its version declared. -/
theorem inspect_of_sound (sound : inspection.Sound)
    (declares : ∃ token, tree.declaredVersion sync.parameters sync.versionKey =
      .ok ⟨token, inspection.current⟩)
    (path : inspection.manifest.path = sync.manifest)
    (read : tree.readText sync.manifest = .ok inspection.manifest.content) :
    (sync.inspect tree).2 = .ok inspection :=
  inspect_eq_ok_iff.mpr ⟨declares,
    Tree.pinnedManifest_eq_ok_iff.mpr ⟨path, read, sound.version, sound.hash⟩, sound.compared⟩

/-- What is found later, with the parameter file left alone and another manifest on file. -/
theorem inspect_of_unchanged {later : Inspection}
    (inspected : (sync.inspect before).2 = .ok inspection)
    (unchanged : after.readText sync.parameters = before.readText sync.parameters)
    (sound : later.Sound) (path : later.manifest.path = sync.manifest)
    (current : later.current = inspection.current)
    (read : after.readText sync.manifest = .ok later.manifest.content) :
    (sync.inspect after).2 = .ok later := by
  obtain ⟨⟨token, declared⟩, -, -⟩ := inspect_eq_ok_iff.mp inspected
  refine inspect_of_sound sound ⟨token, ?_⟩ path read
  rw [Tree.declaredVersion_congr unchanged, declared, current]

end Sync

end ManifestPin
