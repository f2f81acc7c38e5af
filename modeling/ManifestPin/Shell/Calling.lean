import ManifestPin.Shell.Builtin.Directories
import ManifestPin.Shell.Builtin.Flow
import ManifestPin.Shell.Builtin.Names
import ManifestPin.Shell.Builtin.Output
import ManifestPin.Shell.Builtin.Reading
import ManifestPin.Shell.Redirecting

/-! # Calling commands

A command is called by its name and its arguments: a command of the shell, a function, or a
program. -/

namespace ManifestPin.Shell

/-- The commands of the shell that need no more than its state. -/
def Builtin.named? (dialect : Dialect) (name : String) : Option Builtin :=
  let shared : List (String × Builtin) :=
    [(":", succeed), ("true", succeed), ("false", failing), ("exit", leave), ("return", back),
      ("break", leaveLoops .stop), ("continue", leaveLoops .again), ("shift", shift),
      ("set", setCommand), ("cd", changeDirectory), ("umask", fileMask), ("times", times),
      ("ulimit", limits), ("trap", trap), ("kill", kill), ("export", exportCommand),
      ("readonly", readonlyCommand), ("unset", unset), ("read", read), ("getopts", getopts),
      ("alias", aliasCommand), ("unalias", unaliasCommand), ("hash", hash), ("type", typeCommand),
      ("echo", echo), ("printf", printf), ("test", test), ("[", bracket), ("pwd", pwd),
      ("jobs", jobs), ("bg", resume), ("fg", resume)]
  let own : List (String × Builtin) :=
    match dialect with
    | .standard => [("chdir", changeDirectory), ("local", localCommand)]
    | .extended =>
      [("local", declare true), ("declare", declare false), ("typeset", declare false),
        ("let", letCommand), ("mapfile", mapfile), ("readarray", mapfile), ("shopt", shopt),
        ("compgen", failing), ("complete", succeed), ("compopt", succeed),
        ("dirs", showDirectories), ("pushd", pushDirectory), ("popd", popDirectory),
        ("caller", caller), ("disown", succeed), ("enable", succeed), ("fc", succeed),
        ("help", succeed), ("history", succeed), ("logout", leave), ("suspend", failing)]
  (own ++ shared).lookup name

/-- How the extended shell says that a command is used. -/
def Builtin.usage? (name : String) : Option String :=
  let usages : List (String × String) :=
    [("alias", "[-p] [name[=value] ... ]"), ("cd", "[-L|[-P [-e]] [-@]] [dir]"),
      ("command", "[-pVv] command [arg ...]"), ("exec", "[-cl] [-a name] [command [argument ...]] " ++
        "[redirection ...]"), ("export", "[-fn] [name[=value] ...] or export -p"),
      ("hash", "[-lr] [-p pathname] [-dt] [name ...]"), ("pwd", "[-LP]"),
      ("mapfile", "[-d delim] [-n count] [-O origin] [-s count] [-t] [-u fd] [-C callback] " ++
        "[-c quantum] [array]"),
      ("printf", "[-v var] format [arguments]"),
      ("read", "[-ers] [-a array] [-d delim] [-i text] [-n nchars] [-N nchars] [-p prompt] " ++
        "[-t timeout] [-u fd] [name ...]"),
      ("readonly", "[-aAf] [name[=value] ...] or readonly -p"),
      ("shopt", "[-pqsu] [-o] [optname ...]"), ("trap", "[-lp] [[arg] signal_spec ...]"),
      ("type", "[-afptP] name [name ...]"), ("umask", "[-p] [-S] [mode]"),
      ("unalias", "[-a] name [name ...]"), ("unset", "[-f] [-v] [-n] [name ...]"),
      ("wait", "[-fn] [-p var] [id ...]")]
  (usages.lookup name).map fun usage => name ++ ": usage: " ++ name ++ " " ++ usage

/-- How a command is called. -/
structure Manner where
  /-- Whether its failure does not end the shell. -/
  tested : Bool
  /-- Whether functions are passed over, and faults of special commands are like others. -/
  bare : Bool

namespace Interpreter

/-- The status and the message for a program that cannot be run. -/
def launchFault (dialect : Dialect) (name : String) (fault : SystemFault) : Nat × String :=
  match dialect, fault with
  | .standard, .noEntry => (127, name ++ ": not found")
  | .standard, .notDirectory => (127, name ++ ": not found")
  | .standard, fault => (126, name ++ ": " ++ fault.text)
  | .extended, .noEntry => (127, name ++ ": cannot execute: required file not found")
  | .extended, .badFormat => (126, name ++ ": cannot execute binary file: Exec format error")
  | .extended, fault => (126, name ++ ": " ++ fault.text)

/-- Whether a content is not that of a script, as its first line shows. -/
def isBinary (content : ByteArray) : Bool :=
  (content.toList.take 128).takeWhile (· ≠ 10) |>.contains 0

/-- Runs a program. A file that is no program is run as a script. -/
def launchProgram (interpreter : Interpreter) (name path : String) (arguments : List String) :
    Run (Except SystemFault Ended) := do
  match ← Builtin.task (interpreter.launch name path arguments) with
  | .error .badFormat =>
    let machine ← get
    let content := (machine.tree.readOctets (gather path)).toOption.getD ByteArray.empty
    if isBinary content then return .error .badFormat
    else
      let shell : String := if machine.dialect = .standard then "/bin/sh" else "/bin/bash"
      Builtin.task (interpreter.launch shell shell (path :: arguments))
  | result => return result

/-- Why a path does not lead to a program. -/
def pathFault (machine : Machine) (path : String) : SystemFault :=
  match machine.tree.entry (gather path) with
  | .ok (.directory _) => if machine.dialect = .standard then .permissionDenied else .isDirectory
  | .ok _ => .permissionDenied
  | .error fault => fault

/-- Reports a name that leads to no program, and gives the status for it. -/
def reportMissing (name : String) : Run Nat := do
  let machine ← get
  if name.toList.contains '/' then
    let fault := pathFault machine name
    match machine.dialect, fault with
    | .extended, .noEntry =>
      Run.report (name ++ ": " ++ fault.text)
      return 127
    | dialect, fault =>
      let (status, text) := launchFault dialect name fault
      Run.report text
      return status
  else
    match machine.dialect with
    | .standard =>
      Run.report (name ++ (if name = "" then ": Permission denied" else ": not found"))
      return 127
    | .extended =>
      Run.report (name ++ ": command not found")
      return 127

/-- Runs a program that a name was found to mean. If it takes time, the processes in the background
run meanwhile. -/
def callProgram (interpreter : Interpreter) (name : String) (meaning : Meaning)
    (arguments : List String) : Run Unit := do
  let dialect := (← get).dialect
  match meaning with
  | .program path =>
    let start := (← get).clock
    match ← interpreter.launchProgram name path arguments with
    | .ok ended =>
      if start < (← get).clock then Builtin.task interpreter.runJobs
      notice ended
      Run.exit ended.code
    | .error fault =>
      let shown := if dialect = .standard then name else path
      let (status, text) := launchFault dialect shown fault
      Run.report text
      Run.exit status
  | .refused path =>
    if name.toList.contains '/' then Run.exit (← reportMissing name)
    else
      match dialect with
      | .standard =>
        Run.report (name ++ ": Permission denied")
        Run.exit 127
      | .extended =>
        Run.report (path ++ ": Permission denied")
        Run.exit 126
  | _ => Run.exit (← reportMissing name)

/-- Runs the body of a function with its own parameters and variables. -/
def callFunction (interpreter : Interpreter) (tested : Bool) (function : Function)
    (arguments : List String) : Run Unit := do
  let before ← get
  set { before with
    arguments
    loops := 0
    letter := 0
    lineShift := 0
    functionLine := some function.line
    file := if before.dialect = Dialect.extended then function.file else before.file
    shadowed := some []
    running :=
      { name := function.name, file := function.file, line := before.line, isFunction := true } ::
        before.running }
  let result ← Run.attempt (interpreter.run tested function.body)
  modify fun after =>
    let restored := (after.shadowed.getD []).foldl Machine.restore after
    { restored with
      arguments := before.arguments
      loops := before.loops
      letter := before.letter
      line := before.line
      lineShift := before.lineShift
      functionLine := before.functionLine
      file := before.file
      shadowed := before.shadowed
      running := before.running }
  match result with
  | .ok () => return ()
  | .error .back => return ()
  | .error stop => throw stop

/-- Runs the words of a command as a text. -/
def callEval (interpreter : Interpreter) (tested : Bool) (words : List String) : Run Nat := do
  let text := " ".intercalate words
  let machine ← get
  match machine.dialect with
  | .standard => Run.runText interpreter .words tested 1 text
  | .extended =>
    set { machine with level := machine.level + 1, lineShift := 0, caller := none }
    let result ← Run.attempt (Run.runText interpreter .words tested machine.line text)
    modify fun after => { after with level := machine.level, lineShift := machine.lineShift }
    match result with
    | .ok () => return (← get).status
    | .error stop => throw stop
  return (← get).status

/-- The path of a file that a command names, which is searched like a program. -/
def sourcePath? (machine : Machine) (name : String) : Option String :=
  let isThere (path : String) : Bool := machine.tree.isFile (gather path)
  if name.toList.contains '/' then some name
  else
    let paths := (piecesAt ':' ((machine.text? "PATH").getD Machine.usualPath)).map fun directory =>
      machine.pathIn directory name
    match paths.find? isThere with
    | some path => some path
    | none => if machine.dialect = .extended then some name else none

/-- Runs the commands in a file. -/
def callSource (interpreter : Interpreter) (tested : Bool) (words : List String) : Run Nat := do
  let machine ← get
  let extended := machine.dialect = .extended
  let words := if words.head? = some "--" then words.tail else words
  match words with
  | [] =>
    if extended then
      Run.report "filename argument required"
      Builtin.task (Task.complain ".: usage: . filename [arguments]")
      return 2
    else return 0
  | name :: arguments =>
    match sourcePath? machine name with
    | none => Run.fail (name ++ ": not found") 2
    | some path =>
      match machine.readPath path with
      | .error fault =>
        if extended then
          Run.calling none (Run.report (path ++ ": " ++ fault.text))
          return 1
        else
          let cause := if fault = .noEntry || fault = .notDirectory then "No such file" else fault.text
          Run.fail ("cannot open " ++ path ++ ": " ++ cause) 2
      | .ok content =>
        let text := ofOctets content
        if !extended then
          let result ← Run.attempt
            (Run.calling (some path) (Run.runText interpreter (.sourced path) false 1 text))
          match result with
          | .ok () => return (← get).status
          | .error .back => return (← get).status
          | .error stop => throw stop
        else
          set { machine with
            file := some path
            caller := none
            level := machine.level + 1
            lineShift := 0
            arguments := if arguments.isEmpty then machine.arguments else arguments
            running :=
              { name := "source", file := some path, line := machine.line, isFunction := false } ::
                machine.running }
          let result ← Run.attempt (Run.runText interpreter (.sourced path) tested 1 text)
          modify fun after =>
            { after with
              file := machine.file
              level := machine.level
              lineShift := machine.lineShift
              arguments := if arguments.isEmpty then after.arguments else machine.arguments
              running := machine.running
              line := machine.line }
          match result with
          | .ok () => return (← get).status
          | .error .back => return (← get).status
          | .error stop => throw stop

/-- Becomes a program. -/
def callExec (interpreter : Interpreter) (words : List String) : Run Nat := do
  let extended ← Run.isExtended
  let (found, words) ← (if extended then Builtin.options "cla:" words
    else return ([], if words.head? = some "--" then words.tail else words))
  match words with
  | [] => return (← get).status
  | name :: arguments =>
    let machine ← get
    let refuse (status : Nat) (standard : String) (own : String) : Run Nat := do
      Run.report (if extended then own else standard)
      Run.exit status
      throw .leave
    match machine.search name with
    | .program path =>
      let shown := (found.lookup 'a').getD name
      match ← interpreter.launchProgram shown path arguments with
      | .ok ended =>
        throw (.replaced ended)
      | .error fault =>
        let (status, text) := launchFault machine.dialect name fault
        refuse status text (name ++ ": cannot execute: " ++ fault.text)
    | .refused path =>
      if extended then Run.calling none (Run.report (path ++ ": Permission denied"))
      refuse 126 (name ++ ": Permission denied") (path ++ ": cannot execute: Permission denied")
    | _ =>
      let fault := if name.toList.contains '/' then pathFault machine name else .noEntry
      refuse (if fault = .noEntry then 127 else 126)
        (launchFault .standard name fault).2
        (if name.toList.contains '/' then name ++ ": cannot execute: " ++ fault.text
          else name ++ ": not found")

/-- What a command of the shell does. -/
def builtin? (interpreter : Interpreter) (manner : Manner) (dialect : Dialect) (name : String) :
    Option Builtin :=
  match name with
  | "eval" => some (interpreter.callEval manner.tested)
  | "." => some (interpreter.callSource manner.tested)
  | "source" => some (interpreter.callSource manner.tested)
  | "exec" => some interpreter.callExec
  | "wait" => some interpreter.wait
  | name => Builtin.named? dialect name

/-- Calls a command of the shell. -/
def callBuiltin (manner : Manner) (name : String) (builtin : Builtin)
    (arguments : List String) : Run Unit := do
  let machine ← get
  match ← Run.attempt (Run.calling (some name) (builtin arguments)) with
  | .ok status => Run.exit status
  | .error .fault =>
    match machine.dialect with
    | .standard => if machine.dialect.isSpecial name && !manner.bare then throw .fault
    | .extended =>
      if (← get).status = 2 then
        match Builtin.usage? name with
        | some usage => Builtin.task (Task.complain usage)
        | none => return ()
  | .error stop => throw stop

/-- What the words of the command `command` ask for: to describe a name, or to call a command. -/
def commandRequest (words : List String) : Run (Option Bool × List String) :=
  Run.calling (some "command") (do
    let (found, words) ← Builtin.options "pvV" words
    if Builtin.has found 'V' then return (some false, words)
    else if Builtin.has found 'v' then return (some true, words)
    else return (none, words))

/-- Calls the command that words name. -/
def call (interpreter : Interpreter) (manner : Manner) : (fuel : Nat) → List String → Run Unit
  | 0, _ => throw .exhausted
  | _ + 1, [] => Run.exit 0
  | fuel + 1, name :: arguments => do
    let machine ← get
    match machine.meaning manner.bare name with
    | .function function => interpreter.callFunction manner.tested function arguments
    | .builtin =>
      match name with
      | "command" =>
        match ← Run.attempt (commandRequest arguments) with
        | .ok (none, words) => interpreter.call { manner with bare := true } fuel words
        | .ok (some short, words) =>
          Run.calling (some "command") (do Run.exit (← Builtin.describeCommands short words))
        | .error .fault =>
          if machine.dialect = .extended then
            Builtin.task (Task.complain ((Builtin.usage? "command").getD ""))
        | .error stop => throw stop
      | "builtin" =>
        match arguments with
        | [] => Run.exit 0
        | inner :: rest =>
          if machine.dialect.hasCommand inner then
            interpreter.call { manner with bare := true } fuel (inner :: rest)
          else
            Run.calling (some "builtin") (Run.report (inner ++ ": not a shell builtin"))
            Run.exit 1
      | name =>
        match interpreter.builtin? manner machine.dialect name with
        | some builtin => callBuiltin manner name builtin arguments
        | none => Run.exit 0
    | meaning => interpreter.callProgram name meaning arguments

end Interpreter

end ManifestPin.Shell
