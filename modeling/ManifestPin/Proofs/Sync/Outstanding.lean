import ManifestPin.Proofs.Sync.Stages

/-! # Outstanding updates

An update that was found to be due and is not finished yet. The manifest holds what was found, or the
provisional content if a run got so far, and a later run goes on from there. Once the final content is
on file nothing is left to do.
-/

namespace ManifestPin

open BuildTool (Reports)

namespace Inspection

/-- What is found when the provisional manifest is on file. -/
def pending (found : Inspection) : Inspection :=
  { current := found.current
    manifest := found.provisional
    pin := { version := found.current, hash := found.placeholder }
    agreement := .equal }

/-- What is found when the final manifest is on file. -/
def settled (found : Inspection) (hash : String) : Inspection :=
  { current := found.current
    manifest := found.final hash
    pin := { version := found.current, hash }
    agreement := .equal }

/-- What is found when the final manifest is on file with some spelling of the version. -/
def finished (found : Inspection) (version hash : String) : Inspection :=
  { current := found.current
    manifest := found.final hash
    pin := { version, hash }
    agreement := .equal }

section

variable {found : Inspection} {version hash : String}

/-- With a placeholder pinned an update is not finished. -/
theorem outdated_pending (nonempty : found.pin.hash ≠ "") : found.pending.isUpToDate = false := by
  simp [isUpToDate, hashPending, pending, placeholder, Hash.isPlaceholder_placeholder nonempty]

theorem Sound.pending (sound : found.Sound) (different : found.agreement = .different) :
    found.pending.Sound where
  version := sound.version_provisional_of_different different
  hash := sound.hash_provisional
  compared := sound.agreement_current
  unquoted := sound.unquoted
  single := sound.single

/-- With a hash pinned it is. -/
theorem upToDate_finished (real : Hash.isPlaceholder hash = false) :
    (found.finished version hash).isUpToDate = true := by
  simp [isUpToDate, hashPending, finished, real]

theorem Sound.finished (sound : found.Sound) (single : '\n' ∉ hash.toList)
    (unquoted : '"' ∉ hash.toList)
    (held : found.provisional.value .version = .ok version)
    (equal : Version.agreement version found.current = .ok .equal) :
    (found.finished version hash).Sound where
  version := Manifest.value_overwrite_of_ne (by decide) single held
  hash := Manifest.value_overwrite_of_unquoted sound.hash_provisional single unquoted
  compared := equal
  unquoted := sound.unquoted
  single := sound.single

end

/-- What a later inspection finds while an update is not finished. -/
structure Stale (found inspection : Inspection) : Prop where
  sound : inspection.Sound
  outdated : inspection.isUpToDate = false
  path : inspection.manifest.path = found.manifest.path
  content : inspection.manifest.content = found.manifest.content ∨
    inspection.manifest.content = found.provisional.content
  current : inspection.current = found.current
  placeholder : inspection.placeholder = found.placeholder
  provisional : inspection.provisional = found.provisional

end Inspection

/-- An inspection that found an update to be due, wherever the parameter file has the same text. -/
structure Outstanding (base : Sync) (declaration : String) (found : Inspection) : Prop where
  sound : found.Sound
  path : found.manifest.path = base.manifest
  outdated : found.isUpToDate = false
  declares : ∀ tree : Tree, tree.readText base.parameters = .ok declaration →
    ∃ token, tree.declaredVersion base.parameters base.versionKey = .ok ⟨token, found.current⟩

namespace Outstanding

variable {base : Sync} {declaration : String} {found : Inspection} {tree : Tree}

theorem of_inspect (inspected : (base.inspect tree).2 = .ok found)
    (outdated : found.isUpToDate = false)
    (declared : tree.readText base.parameters = .ok declaration) :
    Outstanding base declaration found := by
  obtain ⟨sound, path, -⟩ := Inspection.sound_of_inspect inspected
  obtain ⟨⟨token, held⟩, -, -⟩ := Sync.inspect_eq_ok_iff.mp inspected
  refine ⟨sound, path, outdated, fun other read => ⟨token, ?_⟩⟩
  rw [← held]
  exact Tree.declaredVersion_congr (read.trans declared.symm)

variable (outstanding : Outstanding base declaration found)

include outstanding

theorem stale : found.Stale found where
  sound := outstanding.sound
  outdated := outstanding.outdated
  path := rfl
  content := .inl rfl
  current := rfl
  placeholder := rfl
  provisional := rfl

/-- A rerun on the provisional manifest has the same placeholder and nothing to write before it
builds. -/
theorem stale_pending (different : found.agreement = .different)
    (unfinished : found.pending.isUpToDate = false) : found.Stale found.pending where
  sound := outstanding.sound.pending different
  outdated := unfinished
  path := found.path_provisional
  content := .inr rfl
  current := rfl
  placeholder := Hash.placeholder_placeholder found.pin.hash
  provisional := (outstanding.sound.pending different).provisional_of_equal unfinished rfl

/-- What is found where the parameter file has the same text and a manifest is on file. -/
theorem inspect_of_readText (sync : Sync) (parameters : sync.parameters = base.parameters)
    (manifest : sync.manifest = base.manifest) (key : sync.versionKey = base.versionKey)
    {inspection : Inspection} (sound : inspection.Sound)
    (path : inspection.manifest.path = base.manifest)
    (current : inspection.current = found.current)
    (declared : tree.readText base.parameters = .ok declaration)
    (read : tree.readText base.manifest = .ok inspection.manifest.content) :
    (sync.inspect tree).2 = .ok inspection := by
  have declares := outstanding.declares tree declared
  rw [← current, ← parameters, ← key] at declares
  exact Sync.inspect_of_sound sound declares (path.trans manifest.symm) (manifest ▸ read)

end Outstanding

/-- Later inspections lead to the same final manifests. -/
theorem Inspection.Stale.final {found inspection : Inspection} (stale : found.Stale inspection)
    (hash : String) : inspection.final hash = found.final hash := by
  rw [Inspection.final, stale.provisional, Inspection.final]

/-- A build goes on to the final manifest with a hash that it tells, or to what was found. -/
theorem Inspection.Stale.builds {found inspection : Inspection} (stale : found.Stale inspection)
    (sync : Sync) {run : Run} {tree : Tree} {calls : List BuildCall}
    (stands : run.Stands (.building inspection found.provisional) tree calls) :
    (∃ told, Reports found.placeholder (sync.tool.invoke sync.directory tree).result told ∧
        (run.step sync).Stands (.finishing inspection (found.final told) told)
          (sync.tool.invoke sync.directory tree).tree (calls ++ [⟨sync.directory, tree⟩])) ∨
      ∃ failure, (run.step sync).Stands (.restoring inspection failure)
        (sync.tool.invoke sync.directory tree).tree (calls ++ [⟨sync.directory, tree⟩]) := by
  rw [← stale.provisional] at stands
  have next := stands.build sync stale.sound
  rw [stale.placeholder] at next
  rcases BuildTool.reports_or_fails sync.tool found.placeholder
    (sync.tool.invoke sync.directory tree).result with ⟨told, reports⟩ | ⟨failure, fails⟩
  · rw [BuildTool.tell_of_reports reports] at next
    simp only [stale.final told] at next
    exact .inl ⟨told, reports, next⟩
  · rw [BuildTool.tell_of_fails fails] at next
    exact .inr ⟨failure, next⟩

end ManifestPin
