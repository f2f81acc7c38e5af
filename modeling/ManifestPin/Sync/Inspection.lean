import ManifestPin.Build
import ManifestPin.Files.Replace

/-! # Inspections

What a run has to know before it changes anything: the declared version, the manifest, what it
pins, and how the two versions compare. -/

namespace ManifestPin

/-- What is kept in step: a manifest with the version that a parameter file declares. -/
structure Sync where
  /-- The file that declares the version. -/
  parameters : String
  /-- The manifest's file. -/
  manifest : String
  /-- The key that declares the version. -/
  versionKey : String
  /-- The directory in which the build runs. -/
  directory : String
  /-- The build tool. -/
  tool : BuildTool
  /-- What tells the temporary files of this run from those of others. -/
  tag : String

/-- The state found at the start of a run. -/
structure Inspection where
  /-- The declared version. -/
  current : String
  /-- The manifest. -/
  manifest : Manifest
  /-- The pinned values. -/
  pin : Pin
  /-- How the pinned version and the declared one compare. -/
  agreement : Version.Agreement
  deriving DecidableEq, Repr

namespace Inspection

/-- Whether the pinned hash is a placeholder that an interrupted run left. -/
def hashPending (inspection : Inspection) : Bool :=
  Hash.isPlaceholder inspection.pin.hash

/-- Whether nothing has to be done. -/
def isUpToDate (inspection : Inspection) : Bool :=
  inspection.agreement = .equal && !inspection.hashPending

/-- The placeholder for the pinned hash. -/
def placeholder (inspection : Inspection) : String :=
  Hash.placeholder inspection.pin.hash

end Inspection

/-- A token that a parameter file declares, and the version that it stands for. -/
structure DeclaredVersion where
  token : String
  version : String
  deriving DecidableEq, Repr

namespace Tree

/-- The first version that a parameter file declares under a key. -/
def declaredVersion (tree : Tree) (path key : String) : Except Failure DeclaredVersion := do
  let content ← (tree.readText path).mapError Failure.file
  match Declaration.findToken? content key with
  | none => .error (.missingLine ⟨path, .declaration key⟩)
  | some token => do
    let version ← (Declaration.versionOfToken token).mapError Failure.invalidVersion
    return { token, version }

/-- The manifest in a file. -/
def loadManifest (tree : Tree) (path : String) : Except Failure Manifest :=
  match tree.readText path with
  | .ok content => .ok { path, content }
  | .error failure => .error (.file failure)

/-- The value that a manifest's file pins. -/
def pinnedValue (tree : Tree) (path : String) (field : Field) : Except Failure String := do
  let manifest ← tree.loadManifest path
  (manifest.value field).mapError Failure.missingLine

/-- The manifest in a file, and what it pins. -/
def pinnedManifest (tree : Tree) (path : String) : Except Failure (Manifest × Pin) := do
  let manifest ← tree.loadManifest path
  let pin ← manifest.pin.mapError Failure.missingLine
  return (manifest, pin)

/-- Replaces an old value in a manifest's file, on the first line that declares the field with
it. -/
def setPinned (tree : Tree) (tag path : String) (field : Field) (old new : String) :
    Except Failure Replacement := do
  let manifest ← tree.loadManifest path
  let manifest ← (manifest.setValue field old new).mapError Failure.missingLine
  return tree.replaceText tag manifest.path manifest.content

end Tree

namespace Sync

/-- The events of a declared version that was read. -/
def declarationEvents (sync : Sync) (declared : DeclaredVersion) : List Event :=
  [.declarationRead sync.parameters declared.token declared.version,
    .currentVersion declared.version]

/-- The warning about a placeholder left by an interrupted run. -/
def placeholderEvents (pin : Pin) : List Event :=
  if Hash.isPlaceholder pin.hash then [.placeholderPinned pin.hash] else []

/-- Reads both files and compares the versions. The first thing that is wrong is reported, the
parameter file before the manifest. -/
def inspect (sync : Sync) (tree : Tree) : List Event × Except Failure Inspection :=
  match tree.declaredVersion sync.parameters sync.versionKey with
  | .error failure => ([], .error failure)
  | .ok declared =>
    let events := sync.declarationEvents declared
    match tree.pinnedManifest sync.manifest with
    | .error failure => (events, .error failure)
    | .ok (manifest, pin) =>
      let events := events ++ [.pinRead pin]
      match Version.agreement pin.version declared.version with
      | .error invalid => (events, .error (.invalidVersion invalid))
      | .ok agreement =>
        (events ++ placeholderEvents pin,
          .ok { current := declared.version, manifest, pin, agreement })

end Sync

end ManifestPin
