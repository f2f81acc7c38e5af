import ManifestPin.CommandLine.Program
import ManifestPin.Launch
import Std.Data.HashMap

/-! # Entry point

Takes the files that a call is about into a tree, answers the call on that tree, and writes back
what the call changed. -/

namespace ManifestPin.Disk

/-- How many directories deep the repository is taken in. -/
def depth : Nat :=
  32

/-- The location of a path that starts at the root. -/
def locate (path : String) : Location :=
  ((Path.pieces path).filter fun piece => piece ≠ "").reverse

/-- The path of a location, from the root. -/
def pathOf (location : Location) : String :=
  "/" ++ "/".intercalate location.reverse

/-- Directories at a location and above it. -/
def above : Location → List (Location × Entry)
  | [] => []
  | name :: outer => (name :: outer, .directory directoryMode) :: above outer

/-- The file of a path, if there is one, with the directories above it. Any file may be run. -/
def takeFile (path : String) : IO (List (Location × Entry)) := do
  try
    let real := (← IO.FS.realPath path).toString
    let content ← IO.FS.readBinFile real
    let location := locate real
    return (location, .file content 0o755) :: above location.tail
  catch _ => return []

/-- What is below a directory. Hidden directories are left out. -/
def takeBelow : Nat → String → IO (List (Location × Entry))
  | 0, _ => return []
  | depth + 1, path => do
    try
      let mut taken := []
      for entry in ← (← IO.FS.realPath path).readDir do
        let inner := entry.path.toString
        if !(← entry.path.isDir) then
          try
            let content ← IO.FS.readBinFile inner
            taken := (locate inner, .file content 0o755) :: taken
          catch _ => taken := taken
        else if !entry.fileName.startsWith "." then
          taken := (locate inner, .directory directoryMode) :: taken
          taken := (← takeBelow depth inner) ++ taken
      return taken
    catch _ => return []

/-- A directory, with those above it and what is below it. -/
def takeDirectory (path : String) : IO (List (Location × Entry)) := do
  try
    let real := (← IO.FS.realPath path).toString
    return above (locate real) ++ (← takeBelow depth real)
  catch _ => return []

/-- The tree that a request is answered on: the repository and the files that the options or the
configuration name. -/
def takeIn (request : CommandLine.Request) : IO Tree := do
  let here := locate (← IO.currentDir).toString
  let bare : Tree :=
    { entries := above here ++ Shell.Installed.entries, here }
  match request with
  | .run options => do
    let repository ← takeDirectory options.root
    let configured ← options.config.toList.mapM takeFile
    let tree := { bare with entries := bare.entries ++ repository ++ configured.flatten }
    match (options.loadConfig tree).2 with
    | .ok config => do
      let config := config.resolve options.root
      let named ← [config.parameters, config.manifest].mapM takeFile
      return { tree with entries := tree.entries ++ named.flatten }
    | .error _ => return tree
  | _ => return bare

/-- Makes the files the ones of a tree, where that differs from the tree that was taken in. -/
def giveBack (before after : Tree) : IO Unit := do
  let old := Std.HashMap.ofList before.entries
  let new := Std.HashMap.ofList after.entries
  for (location, entry) in before.entries do
    if entry.isFile && !new.contains location then
      IO.FS.removeFile (pathOf location)
  for (location, entry) in after.entries do
    match entry, old[location]? with
    | .directory _, none => IO.FS.createDirAll (pathOf location)
    | _, _ => pure ()
  for (location, entry) in after.entries do
    match entry, old[location]? with
    | .file content _, some (.file held _) =>
      if content.data ≠ held.data then IO.FS.writeBinFile (pathOf location) content
    | .file content _, _ => IO.FS.writeBinFile (pathOf location) content
    | _, _ => pure ()

/-- What the call finds around it. The variable `RUST_LOG` selects the events that are shown. -/
def surroundings : IO CommandLine.Environment := do
  let plain := (← IO.getEnv "NO_COLOR").isSome
  let forced := (← IO.getEnv "CLICOLOR_FORCE").any (· ≠ "0")
  let tag := toString (← IO.rand 2 99999)
  return {
    directives := ← IO.getEnv "RUST_LOG"
    styled := forced || (!plain && (← (← IO.getStdout).isTty))
    time := toString (← IO.monoMsNow)
    tag
    launcher := Launch.launcher tag
    printable := true }

end ManifestPin.Disk

/-- Answers one call of the program. -/
def main (arguments : List String) : IO UInt32 := do
  let environment ← ManifestPin.Disk.surroundings
  let request := ManifestPin.CommandLine.Request.ofArguments arguments
  let tree ← ManifestPin.Disk.takeIn request
  let call := environment.answer request tree
  ManifestPin.Disk.giveBack tree call.tree
  IO.print call.output
  IO.eprint call.diagnostics
  return call.exitCode.toUInt32
