import ManifestPin.Shell.Grammar
import ManifestPin.Shell.Machine

/-! # Looking up commands

What the name of a command means: a word of the language, a command of the shell, a function, or a
program in one of the directories that are searched. -/

namespace ManifestPin.Shell

/-- The commands of the standard shell that are not special. -/
def standardCommands : List String :=
  ["[", "alias", "bg", "cd", "chdir", "command", "echo", "false", "fg", "getopts", "hash", "jobs",
    "kill", "printf", "pwd", "read", "test", "true", "type", "ulimit", "umask", "unalias", "wait"]

/-- The commands that only the extended shell has. -/
def extendedCommands : List String :=
  ["builtin", "caller", "compgen", "complete", "compopt", "declare", "dirs", "disown", "enable",
    "fc", "help", "history", "let", "logout", "mapfile", "popd", "pushd", "readarray", "shopt", "source",
    "suspend", "typeset"]

/-- Whether a name is that of a command of the shell. -/
def Dialect.hasCommand (dialect : Dialect) (name : String) : Bool :=
  specialCommands.contains name ||
    match dialect with
    | .standard => standardCommands.contains name
    | .extended =>
      name ≠ "chdir" && (standardCommands.contains name || extendedCommands.contains name)

/-- Whether a fault of a command ends a script of the standard shell. -/
def Dialect.isSpecial (dialect : Dialect) (name : String) : Bool :=
  dialect = .standard && specialCommands.contains name

/-- What the name of a command means. -/
inductive Meaning where
  | reserved
  | builtin
  | function (function : Function)
  | program (path : String)
  /-- A file that may not be run. -/
  | refused (path : String)
  | unknown

namespace Machine

/-- A function. -/
def function? (machine : Machine) (name : String) : Option Function :=
  machine.functions.find? fun held => held.name = name

/-- The directories that programs are searched in when none are given. -/
def usualPath : String :=
  "/usr/local/sbin:/usr/local/bin:/usr/sbin:/usr/bin:/sbin:/bin"

/-- The path of a name in a directory. -/
def pathIn (machine : Machine) (directory name : String) : String :=
  match machine.dialect with
  | .standard => if directory = "" then name else directory ++ "/" ++ name
  | .extended =>
    if directory = "" then "./" ++ name
    else if directory.endsWith "/" then directory ++ name
    else directory ++ "/" ++ name

/-- Whether a path leads to a file that may be run. -/
def isRunnable (machine : Machine) (path : String) : Bool :=
  match machine.tree.entry (gather path) with
  | .ok (.file _ mode) => mode &&& 0o111 ≠ 0
  | _ => false

/-- The program of a name: the first file in the directories that may be run, else the first that
may not. -/
def searchIn (machine : Machine) (directories name : String) : Meaning :=
  let paths := (piecesAt ':' directories).map fun directory => machine.pathIn directory name
  match paths.find? machine.isRunnable with
  | some path => .program path
  | none =>
    match paths.find? fun path => machine.tree.isFile (gather path) with
    | some path => .refused path
    | none => .unknown

/-- The program of a name. Names with a slash are paths. -/
def search (machine : Machine) (name : String) : Meaning :=
  if name.toList.contains '/' then
    match machine.tree.entry (gather name) with
    | .ok (.file ..) => if machine.isRunnable name then .program name else .refused name
    | .ok _ => .refused name
    | .error _ => .unknown
  else if name = "" then .unknown
  else machine.searchIn ((machine.text? "PATH").getD usualPath) name

/-- What the name of a command means. Functions come first, unless `bare` leaves them out. -/
def meaning (machine : Machine) (bare : Bool) (name : String) : Meaning :=
  let function? := if bare then none else machine.function? name
  if machine.dialect.isSpecial name then .builtin
  else
    match function? with
    | some held => .function held
    | none => if machine.dialect.hasCommand name then .builtin else machine.search name

end Machine

end ManifestPin.Shell
