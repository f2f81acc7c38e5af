import ManifestPin.Event
import ManifestPin.Files.Tree
import ManifestPin.Report

/-! # Builds

A build tool is run to learn the hash of what it fetches: with a placeholder pinned it fails, and
reports the hash that it got. -/

namespace ManifestPin

/-- What a build that ran came to. -/
structure BuildOutput where
  /-- Whether the build succeeded. -/
  success : Bool
  /-- What it wrote to its error stream. -/
  diagnostics : String
  deriving DecidableEq, Repr

/-- What running a build tool came to. -/
structure BuildResult where
  /-- The tree that the tool left. -/
  tree : Tree
  /-- What happened. -/
  events : List Event
  /-- The output, unless the tool could not run. -/
  result : Except Failure BuildOutput

/-- A program that builds the package. -/
structure BuildTool where
  /-- The name of the program, for messages. -/
  program : String
  /-- Runs the program in a directory. -/
  invoke : (directory : String) → Tree → BuildResult

/-- What looking for a hash came to. -/
structure Discovery where
  /-- The tree that the tool left. -/
  tree : Tree
  /-- What happened. -/
  events : List Event
  /-- The hash that the tool reported. -/
  result : Except Failure String

namespace BuildTool

/-- The hash that a build's diagnostics report. -/
def readReport (tool : BuildTool) (output : BuildOutput) : Except Failure String :=
  match Report.hash? output.diagnostics with
  | some hash => .ok hash
  | none => .error (.undiscovered tool.program (.unreported (Report.tail output.diagnostics)))

/-- The events that reading a build's diagnostics gives rise to. -/
def reportEvents (tool : BuildTool) (output : BuildOutput) : List Event :=
  (if output.success then [Event.buildSucceeded tool.program] else []) ++
    (Report.hash? output.diagnostics).toList.map Event.hashReported

/-- Runs the tool in a directory and reads the hash that it reports. -/
def discover (tool : BuildTool) (directory : String) (tree : Tree) : Discovery :=
  let build := tool.invoke directory tree
  match build.result with
  | .error failure => { tree := build.tree, events := build.events, result := .error failure }
  | .ok output =>
    { tree := build.tree
      events := build.events ++ tool.reportEvents output
      result := tool.readReport output }

/-- Refuses a hash that could pass for no real one. -/
def checkHash (tool : BuildTool) (placeholder hash : String) : Except Failure String :=
  if hash = placeholder || Hash.isPlaceholder hash then
    .error (.undiscovered tool.program (.placeholder hash))
  else .ok hash

end BuildTool

end ManifestPin
