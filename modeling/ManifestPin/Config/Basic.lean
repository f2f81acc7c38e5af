import ManifestPin.Declaration
import ManifestPin.Files.Path
import ManifestPin.Text.Quoted

/-! # Configurations

The five settings of a run. Each has a default, so a run needs no configuration at all. -/

namespace ManifestPin

/-- The command that builds the package. -/
structure BuildCommand where
  /-- The program. -/
  program : String
  /-- Its arguments. -/
  arguments : List String
  deriving DecidableEq, Repr

/-- The build command unless another one is configured. -/
def BuildCommand.default : BuildCommand :=
  { program := "nix-build", arguments := ["nix", "-A", "lbstanza-bin"] }

/-- The settings of a run. -/
structure Config where
  /-- The file that declares the version. -/
  parameters : String
  /-- The manifest that pins version and hash. -/
  manifest : String
  /-- The key that declares the version. -/
  versionKey : String
  /-- The command that builds the package. -/
  build : BuildCommand
  deriving DecidableEq, Repr

namespace Config

/-- The settings that hold unless others are configured. -/
def default : Config :=
  { parameters := "compiler/stz-params.stanza"
    manifest := "nix/lbstanza-bin/default.nix"
    versionKey := Declaration.defaultKey
    build := BuildCommand.default }

/-- The configuration with its file paths taken relative to a root. -/
def resolve (config : Config) (root : String) : Config :=
  { config with
    parameters := Path.join root config.parameters
    manifest := Path.join root config.manifest }

/-- A configuration as diagnostics show it. -/
def diagnostic (config : Config) : String :=
  "SyncConfig \x7b params_file: " ++ Text.quote config.parameters ++
    ", manifest_file: " ++ Text.quote config.manifest ++
    ", version_key: " ++ Text.quote config.versionKey ++
    ", build: BuildSection \x7b program: " ++ Text.quote config.build.program ++
    ", args: " ++ Text.quoteList config.build.arguments ++ " \x7d \x7d"

end Config

end ManifestPin
