import ManifestPin.Manifest.Field

/-! # Manifests

A packaging manifest held in memory: the two values that it pins are read from, and written to,
the lines that declare them. -/

namespace ManifestPin

/-- What a line has to look like. -/
inductive LinePattern where
  /-- The line declares the field. -/
  | anyValue (field : Field)
  /-- The line declares the field with a given value. -/
  | holds (field : Field) (value : String)
  /-- The line declares a version under a key. -/
  | declaration (key : String)
  deriving DecidableEq, Repr

/-- How messages show a pattern. -/
def LinePattern.text : LinePattern → String
  | .anyValue field => field.key ++ " = \"<value>\""
  | .holds field value => field.key ++ " = \"" ++ value ++ "\""
  | .declaration key => key ++ " = <version>"

/-- A file without a line of a pattern. -/
structure MissingLine where
  /-- The path of the file. -/
  path : String
  /-- What the line would have to look like. -/
  pattern : LinePattern
  deriving DecidableEq, Repr

/-- The wording of a missing line. -/
def MissingLine.message (missing : MissingLine) : String :=
  "no line matching `" ++ missing.pattern.text ++ "` in " ++ missing.path

/-- The two values that a manifest pins. -/
structure Pin where
  /-- The pinned version. -/
  version : String
  /-- The pinned hash. -/
  hash : String
  deriving DecidableEq, Repr

/-- A packaging manifest and the path of its file. -/
structure Manifest where
  /-- The path of the file. -/
  path : String
  /-- The whole content. -/
  content : String
  deriving DecidableEq, Repr

namespace Manifest

/-- The value on the first line that declares a field. -/
def value (manifest : Manifest) (field : Field) : Except MissingLine String :=
  match field.valueIn? manifest.content.toList with
  | some value => .ok (String.ofList value)
  | none => .error ⟨manifest.path, .anyValue field⟩

/-- The pinned version and hash. A missing version is reported before a missing hash. -/
def pin (manifest : Manifest) : Except MissingLine Pin := do
  let version ← manifest.value .version
  let hash ← manifest.value .hash
  return { version, hash }

/-- The manifest with an old value replaced on the first line that declares the field with it.
Every other character is kept. -/
def setValue (manifest : Manifest) (field : Field) (old new : String) :
    Except MissingLine Manifest :=
  match field.edit? old.toList new.toList manifest.content.toList with
  | some content => .ok { manifest with content := String.ofList content }
  | none => .error ⟨manifest.path, .holds field old⟩

end Manifest

end ManifestPin
