import ManifestPin.Config.Decode
import ManifestPin.Files.Fault
import ManifestPin.Manifest.Basic
import ManifestPin.Version.Basic

/-! # Failures

Everything that can stop a run, by its cause. -/

namespace ManifestPin

/-- Why a program cannot be started. -/
inductive LaunchFault where
  /-- The operating system refuses it. -/
  | system (fault : SystemFault)
  /-- The program's name or an argument holds a NUL character. -/
  | nulInText
  deriving DecidableEq, Repr

/-- The wording of a launch fault. -/
def LaunchFault.message : LaunchFault → String
  | .system fault => fault.message
  | .nulInText => "nul byte found in provided data"

/-- Why a build does not tell the hash. -/
inductive DiscoveryFault where
  /-- Its diagnostics, of which the end is kept, report none. -/
  | unreported (tail : String)
  /-- The reported hash is a placeholder. -/
  | placeholder (hash : String)
  deriving DecidableEq, Repr

/-- The detail that a message shows. -/
def DiscoveryFault.detail : DiscoveryFault → String
  | .unreported tail => tail
  | .placeholder hash => "reported hash `" ++ hash ++ "` is a placeholder"

/-- Why a run stops. -/
inductive Failure where
  /-- A file lacks a line that it needs. -/
  | missingLine (missing : MissingLine)
  /-- The build does not tell the hash. -/
  | undiscovered (program : String) (fault : DiscoveryFault)
  /-- The build cannot be started. -/
  | notStarted (program : String) (fault : LaunchFault)
  /-- A text denotes no version. -/
  | invalidVersion (invalid : InvalidVersion)
  /-- A file operation fails. -/
  | file (failure : FileFailure)
  /-- A document is no configuration. -/
  | config (path : String) (fault : ConfigFault)
  deriving DecidableEq, Repr

namespace Failure

/-- The wording of a failure. -/
def message : Failure → String
  | .missingLine missing => missing.message
  | .undiscovered program fault =>
    "`" ++ program ++ "` did not report an expected hash (no `got:` marker); stderr:\n" ++
      fault.detail
  | .notStarted program fault => "failed to run `" ++ program ++ "`: " ++ fault.message
  | .invalidVersion invalid =>
    "invalid version '" ++ invalid.version ++ "': " ++ invalid.fault.message
  | .file failure => failure.message
  | .config path fault => "Failed to parse config at " ++ path ++ ": " ++ fault.message

end Failure

end ManifestPin
