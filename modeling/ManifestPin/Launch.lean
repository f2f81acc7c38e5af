import ManifestPin.Command
import ManifestPin.Shell.Installed

/-! # Launching programs

A launcher that runs the programs of a small system, a shell and its utilities. A program runs in a
directory with an empty input, its output is discarded, and its error stream is kept. -/

namespace ManifestPin

/-- What a program that ran left. -/
structure Residue where
  /-- The files. -/
  tree : Tree
  /-- How it ended. -/
  ended : Shell.Ended
  /-- What it wrote to its error stream. -/
  diagnostics : ByteArray

namespace Launch

/-- The variables that a program finds. -/
def environment : List Shell.Variable :=
  [("HOME", "/root"), ("PATH", Shell.Machine.usualPath)].map fun (name, value) =>
    { name, value := some (.text value), exported := true }

/-- The state in which a process starts a program: nothing to read, an output that is lost, and a
pipe for the error stream. -/
def initial (starter name : String) (tree : Tree) : Shell.Machine :=
  { tree
    starter := some starter
    dialect := .standard
    name
    bindings := environment
    descriptors := [(0, 0), (1, 1), (2, 2)]
    streams := #[.nothing, .nothing, .pipe 0]
    pipes := #[ByteArray.empty] }

/-- Runs the program at a path. -/
def runPath (name path : String) (arguments : List String) (machine : Shell.Machine) :
    Except SystemFault Residue :=
  match Shell.Installed.launcher Shell.Installed.launchLevels name path arguments machine with
  | (.error fault, _) => .error fault
  | (.ok ended, after) =>
    .ok { tree := after.tree, ended, diagnostics := after.pipes.getD 0 ByteArray.empty }

/-- Runs the first program of a name in some directories. A program that is not there is passed
over; one that may not be run is too, but if no other is found, that is the fault. -/
def runFirst (name : String) (arguments : List String) (machine : Shell.Machine) :
    (fault : SystemFault) → (directories : List String) → Except SystemFault Residue
  | fault, [] => .error fault
  | fault, directory :: rest =>
    match runPath name (directory ++ "/" ++ name) arguments machine with
    | .error .permissionDenied => runFirst name arguments machine .permissionDenied rest
    | .error .noEntry => runFirst name arguments machine fault rest
    | .error .notDirectory => runFirst name arguments machine fault rest
    | result => result

/-- Runs a program in the current directory of a tree. A name without a slash is searched in the
directories for programs. -/
def runProgram (starter program : String) (arguments : List String) (tree : Tree) :
    Except SystemFault Residue :=
  let name := Shell.spread program
  let arguments := arguments.map Shell.spread
  let machine := initial starter name tree
  if program.toList.contains '/' then runPath name name arguments machine
  else if program = "" then .error .noEntry
  else if Tree.nameLimit < program.utf8ByteSize then .error .nameTooLong
  else runFirst name arguments machine .noEntry (Shell.piecesAt ':' Shell.Machine.usualPath)

/-- Runs a program in a directory. -/
def runIn (starter program : String) (arguments : List String) (directory : String)
    (tree : Tree) : Except SystemFault Residue := do
  let location ← tree.resolve directory
  if !tree.holdsDirectory location then .error .notDirectory
  else
    let residue ← runProgram starter program arguments { tree with here := location }
    return { residue with tree := { residue.tree with here := tree.here } }

/-- The launcher of the process of a number. -/
def launcher (starter : String) : Launcher := fun command directory tree =>
  match runIn starter command.program command.arguments directory tree with
  | .error fault => { tree, result := .error (.system fault) }
  | .ok residue =>
    { tree := residue.tree
      result :=
        .ok { success := residue.ended = .status 0, diagnostics := residue.diagnostics } }

end Launch

end ManifestPin
