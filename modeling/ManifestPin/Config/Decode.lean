import ManifestPin.Config.Basic
import ManifestPin.Toml.Document

/-! # Configuration documents

A document sets some of the settings; the others keep their defaults. Keys that name no setting are
ignored. The first value of a wrong kind, in the order of the document, refuses it. -/

namespace ManifestPin

/-- What a setting has to be. -/
inductive Expected where
  | path
  | text
  | sequence
  | buildCommand
  deriving DecidableEq, Repr

/-- How messages name what a setting has to be. -/
def Expected.description : Expected → String
  | .path => "path string"
  | .text => "a string"
  | .sequence => "a sequence"
  | .buildCommand => "struct BuildSection"

/-- Why a document is no configuration. -/
inductive ConfigFault where
  /-- The text is no document. -/
  | malformed
  /-- A setting has a value of another kind. -/
  | wrongKind (found : Toml.Kind) (expected : Expected)
  deriving DecidableEq, Repr

/-- The wording of a value of a wrong kind. -/
def ConfigFault.detail? : ConfigFault → Option String
  | .malformed => none
  | .wrongKind found expected =>
    some ("invalid type: " ++ found.description ++ ", expected " ++ expected.description)

/-- The wording of a fault. -/
def ConfigFault.message (fault : ConfigFault) : String :=
  match fault.detail? with
  | none => "TOML parse error"
  | some detail => "TOML parse error: " ++ detail

namespace Toml.Value

/-- The text that a value has to be. -/
def asText (expected : Expected) (value : Value) : Except ConfigFault String :=
  match value with
  | .text content => .ok content
  | value => .error (.wrongKind value.kind expected)

/-- The list of texts that a value has to be. -/
def asTexts (value : Value) : Except ConfigFault (List String) :=
  match value.elements? with
  | some elements => elements.mapM (asText .text)
  | none => .error (.wrongKind value.kind .sequence)

end Toml.Value

namespace BuildCommand

/-- The command with one entry of a table applied. -/
def setEntry (build : BuildCommand) (entry : String × Toml.Value) :
    Except ConfigFault BuildCommand := do
  if entry.1 = "program" then return { build with program := ← entry.2.asText .text }
  else if entry.1 = "args" then return { build with arguments := ← entry.2.asTexts }
  else return build

/-- The command whose parts are elements of a sequence: program, then arguments. -/
def ofElements (elements : List Toml.Value) : Except ConfigFault BuildCommand := do
  match elements with
  | [] => return default
  | [program] => return { default with program := ← program.asText .text }
  | program :: arguments :: _ =>
    return { program := ← program.asText .text, arguments := ← arguments.asTexts }

/-- The command that a value has to be. -/
def ofValue (value : Toml.Value) : Except ConfigFault BuildCommand :=
  match value.entries?, value.elements? with
  | some entries, _ => entries.foldlM setEntry default
  | none, some elements => ofElements elements
  | none, none => .error (.wrongKind value.kind .buildCommand)

end BuildCommand

namespace Config

/-- The configuration with one entry of a document applied. -/
def setEntry (config : Config) (entry : String × Toml.Value) : Except ConfigFault Config := do
  if entry.1 = "params_file" then return { config with parameters := ← entry.2.asText .path }
  else if entry.1 = "manifest_file" then return { config with manifest := ← entry.2.asText .path }
  else if entry.1 = "version_key" then return { config with versionKey := ← entry.2.asText .text }
  else if entry.1 = "build" then return { config with build := ← BuildCommand.ofValue entry.2 }
  else return config

/-- The configuration that the entries of a document state. -/
def ofEntries (entries : Toml.Entries) : Except ConfigFault Config :=
  entries.foldlM setEntry default

/-- The configuration that a document states. -/
def parse (document : String) : Except ConfigFault Config :=
  match Toml.parse? document with
  | some entries => ofEntries entries
  | none => .error .malformed

end Config

end ManifestPin
