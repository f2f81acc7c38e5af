import ManifestPin.Shell.Session
import ManifestPin.Shell.Starting
import ManifestPin.Shell.Utility.Comparing
import ManifestPin.Shell.Utility.Contents
import ManifestPin.Shell.Utility.Digests
import ManifestPin.Shell.Utility.Dumping
import ManifestPin.Shell.Utility.Editing
import ManifestPin.Shell.Utility.Expressions
import ManifestPin.Shell.Utility.Fields
import ManifestPin.Shell.Utility.Files
import ManifestPin.Shell.Utility.Finding
import ManifestPin.Shell.Utility.Ordering
import ManifestPin.Shell.Utility.Paths
import ManifestPin.Shell.Utility.Printing
import ManifestPin.Shell.Utility.Processes
import ManifestPin.Shell.Utility.Search

/-! # Installed programs

The programs that there are, what each of them does, and a tree in which they can be found. -/

namespace ManifestPin.Shell

namespace Installed

/-- A program that always ends with a status. -/
def ending (status : Nat) : Utility := fun _ => return status

/-- The utilities that run no other programs. -/
def utilities : List (String × Utility) :=
  [("true", ending 0), ("false", ending 1), ("sync", ending 0), ("sleep", Utility.sleep),
    ("cat", Utility.cat), ("tac", Utility.tac), ("rev", Utility.rev), ("tee", Utility.tee),
    ("head", Utility.head), ("tail", Utility.tail), ("wc", Utility.wc), ("nl", Utility.nl),
    ("fold", Utility.fold), ("paste", Utility.paste), ("cut", Utility.cut), ("tr", Utility.tr),
    ("rm", Utility.rm), ("rmdir", Utility.rmdir), ("mkdir", Utility.mkdir),
    ("touch", Utility.touch), ("truncate", Utility.truncate), ("mktemp", Utility.mktemp),
    ("mv", Utility.mv), ("cp", Utility.cp), ("install", Utility.install), ("ln", Utility.ln),
    ("chmod", Utility.chmod), ("ls", Utility.ls), ("stat", Utility.stat),
    ("sort", Utility.sort), ("uniq", Utility.uniq), ("comm", Utility.comm),
    ("basename", Utility.basename), ("dirname", Utility.dirname), ("pwd", Utility.pwd),
    ("readlink", Utility.readlink), ("realpath", Utility.realpath), ("echo", Utility.echo),
    ("printf", Utility.printf), ("yes", Utility.yes), ("seq", Utility.seq),
    ("grep", Utility.grep .basic), ("egrep", Utility.grep .extended),
    ("fgrep", Utility.grep .fixed), ("sed", Utility.sed), ("expr", Utility.expr), ("test", Utility.test),
    ("[", Utility.bracket), ("printenv", Utility.printenv), ("cmp", Utility.cmp),
    ("diff", Utility.diff), ("od", Utility.od), ("base64", Utility.lettered .sixtyFour),
    ("base32", Utility.lettered .thirtyTwo)] ++ Utility.digestPrograms

/-- The utilities that run other programs. -/
def launching : List (String × (Launcher → Utility)) :=
  [("env", Utility.env), ("find", Utility.find), ("xargs", Utility.xargs), ("timeout", Utility.timeout),
    ("nohup", Utility.nohup), ("nice", Utility.nice), ("stdbuf", Utility.stdbuf),
    ("setsid", Utility.setsid)]

/-- The shells, each with its dialect. -/
def shells : List (String × Dialect) :=
  [("dash", .standard), ("bash", .extended)]

/-- The names of all installed programs. -/
def names : List String :=
  shells.map (·.1) ++ utilities.map (·.1) ++ launching.map (·.1)

/-- Runs a utility whose output is closed: what it writes cannot be written. One of them finds out
before it does anything. -/
def withoutOutput (program : String) (body : Task Nat) : Task Nat := do
  if program = "cat" then
    Utility.report "standard output: Bad file descriptor"
    return 1
  else
    let machine ← get
    let (piped, pipe) := machine.addPipe ByteArray.empty
    set (piped.openStream 1 (.pipe pipe))
    let status ← body
    if ((← get).pipes.getD pipe ByteArray.empty).isEmpty then return status
    else
      Utility.report "write error: Bad file descriptor"
      return 1

/-- Runs a utility under a name. -/
def runUtility (program name : String) (utility : Utility) (arguments : List String) :
    Task Ended := do
  modify fun machine => { machine with name }
  let status ←
    if ← Task.hasOutput then utility arguments
    else withoutOutput program (utility arguments)
  return .status status

/-- Runs an installed program. -/
def run (launch : Launcher) (start : Start) : Task Ended :=
  match shells.lookup start.program with
  | some dialect => runShell launch dialect start.name start.arguments
  | none =>
    let utility? := (utilities.lookup start.program).orElse fun _ =>
      (launching.lookup start.program).map fun utility => utility launch
    match utility? with
    | some utility => runUtility start.program start.name utility start.arguments
    | none => return .status 127

/-- Runs the programs at paths. Programs that run each other are at most `depth` levels deep. -/
def launcher : (depth : Nat) → Launcher
  | 0 => fun _ _ _ => return .error .inputOutput
  | depth + 1 => fun name path arguments machine =>
    match machine.startOf scriptLimit name path arguments with
    | .error fault => (.error fault, machine)
    | .ok start =>
      match run (launcher depth) start machine.asProgram with
      | (ended, after) => (.ok ended, machine.join after)

/-- How many levels of programs run each other. -/
def launchLevels : Nat :=
  100

/-! ## Where programs are -/

/-- The directories of a bare system, its device, and its installed programs. -/
def entries : List (Location × Entry) :=
  let directory (location : Location) : Location × Entry := (location, .directory directoryMode)
  let program (name : String) : Location × Entry :=
    ([name, "bin", "usr"], .file (content name) 0o755)
  [directory ["dev"], (["null", "dev"], .sink), (["tmp"], .directory 0o1777), directory ["etc"],
    directory ["home"], directory ["root"], directory ["var"], directory ["usr"],
    directory ["bin", "usr"], (["bin"], .link "usr/bin"),
    (["sh", "bin", "usr"], .link "dash")] ++ names.map program

end Installed

end ManifestPin.Shell
