import ManifestPin.Shell.Evaluate

/-! # Shells as programs

A shell is a program whose arguments are options, commands or a file that holds them, and positional
parameters. -/

namespace ManifestPin.Shell

namespace Machine

/-- The variables that a shell sets when it starts. -/
def ownVariables (dialect : Dialect) : List (String × String) :=
  match dialect with
  | .standard =>
    [("IFS", " \t\n"), ("OPTIND", "1"), ("PS1", "# "), ("PS2", "> "), ("PS4", "+ ")]
  | .extended =>
    [("BASH", "/usr/bin/bash"), ("BASH_VERSION", "5.2.15(1)-release"), ("HOSTTYPE", "x86_64"),
      ("IFS", " \t\n"), ("MACHTYPE", "x86_64-pc-linux-gnu"), ("OPTERR", "1"), ("OPTIND", "1"),
      ("OSTYPE", "linux-gnu"), ("PS4", "+ "), ("TERM", "dumb"), ("SHELL", "/bin/bash")]

/-- The options that are on when a shell starts. -/
def ownModes : Dialect → List String
  | .standard => []
  | .extended =>
    ["braceexpand", "hashall", "interactive-comments", "sourcepath", "checkwinsize",
      "globskipdots", "patsub_replacement"]

/-- The machine with a variable set and given to programs. -/
def exporting (machine : Machine) (name text : String) : Machine :=
  machine.keep { name, value := some (.text text), exported := true }

/-- The path of the current directory as it was reached, if the variable for it is right. -/
def reached (machine : Machine) : String :=
  match machine.text? "PWD" with
  | some path =>
    if path.startsWith "/" &&
        (machine.tree.resolve (gather path)).toOption = some machine.tree.here then path
    else machine.directory
  | none => machine.directory

/-- The state in which a shell starts. -/
def asShell (machine : Machine) (dialect : Dialect) (name : String) : Machine :=
  let here := machine.reached
  let start : Machine :=
    { machine with
      dialect
      name
      shell := machine.process
      here
      modes := ownModes dialect }
  let setting (machine : Machine) (entry : String × String) : Machine :=
    let isKept := dialect = .extended && entry.1 ≠ "IFS" && entry.1 ≠ "OPTIND" &&
      (machine.held? entry.1).isSome
    let fixed := dialect = .standard && (entry.1 = "PS1" || entry.1 = "PS2" || entry.1 = "PS4") &&
      (machine.held? entry.1).isSome
    if isKept || fixed then machine
    else machine.keep { name := entry.1, value := some (.text entry.2) }
  let start := ((ownVariables dialect).foldl setting start).exporting "PWD" here
  match dialect with
  | .standard => start
  | .extended =>
    let start :=
      if (start.held? "OLDPWD").isSome then start
      else start.keep { name := "OLDPWD", value := none, exported := true }
    let level := ((machine.text? "SHLVL").bind String.toNat?).getD 0
    let start := start.exporting "SHLVL" (toString (level + 1))
    match start.text? "PATH" with
    | some _ => start
    | none =>
      start.keep { name := "PATH", value := some (.text (usualPath ++ ":.")) }

end Machine

/-- What the arguments of a shell ask for. -/
structure Invocation where
  /-- Whether commands are given as an argument. -/
  hasCommands : Bool := false
  /-- Whether commands are read from the input. -/
  readsInput : Bool := false
  rest : List String

namespace Interpreter

/-- Refuses the arguments of a shell. -/
def refuseArguments (standard extended : String) : Run α := do
  let machine ← get
  match machine.dialect with
  | .standard => Builtin.task (Task.complain (machine.name ++ ": 0: " ++ standard))
  | .extended => Builtin.task (Task.complain (machine.name ++ ": " ++ extended))
  Run.exit 2
  throw .leave

/-- Takes the letters of an option of a shell. -/
def takeLetters (isOn : Bool) : List Char → Invocation → Run Invocation
  | [], found => return found
  | 'c' :: letters, found => takeLetters isOn letters { found with hasCommands := true }
  | 'o' :: letters, found => do
    match found.rest with
    | name :: rest =>
      let machine ← get
      if (Builtin.modeNames machine.dialect).contains name then
        set (machine.setMode name isOn)
        takeLetters isOn letters { found with rest }
      else refuseArguments ("Illegal option -o " ++ name) (name ++ ": invalid option name")
    | [] =>
      Builtin.listModes !isOn
      takeLetters isOn letters found
  | letter :: letters, found => do
    let machine ← get
    match machine.dialect, letter, found.rest with
    | _, 'l', _ => takeLetters isOn letters found
    | .extended, 's', _ => takeLetters isOn letters { found with readsInput := true }
    | .extended, 'O', name :: rest =>
      set (machine.setMode name isOn)
      takeLetters isOn letters { found with rest }
    | .extended, 'i', _ => takeLetters isOn letters found
    | dialect, letter, _ =>
      match Builtin.modeOfLetter? dialect letter with
      | some mode =>
        set (machine.setMode mode isOn)
        takeLetters isOn letters found
      | none =>
        let option := "-" ++ String.singleton letter
        refuseArguments ("Illegal option " ++ option) (option ++ ": invalid option")

/-- The long options of the extended shell that change nothing here, and whether they take a
value. -/
def longOptions : List (String × Bool) :=
  [("--login", false), ("--noediting", false), ("--noprofile", false), ("--norc", false),
    ("--posix", false), ("--restricted", false), ("--rcfile", true), ("--init-file", true)]

/-- Takes the options of a shell. -/
def takeOptions : (fuel : Nat) → Invocation → Run Invocation
  | 0, found => return found
  | fuel + 1, found => do
    match found.rest with
    | [] => return found
    | word :: rest =>
      let extended ← Run.isExtended
      match word.toList with
      | ['-'] => return { found with rest }
      | ['-', '-'] => return { found with rest }
      | '-' :: letters =>
        match if extended then longOptions.lookup word else none with
        | some takesValue =>
          takeOptions fuel { found with rest := if takesValue then rest.drop 1 else rest }
        | none =>
          if extended && letters.head? = some '-' then
            if word = "--verbose" then
              modify fun machine => machine.setMode "verbose" true
              takeOptions fuel { found with rest }
            else refuseArguments "" (word ++ ": invalid option")
          else takeOptions fuel (← takeLetters true letters { found with rest })
      | '+' :: letters => takeOptions fuel (← takeLetters false letters { found with rest })
      | _ => return found

/-- Runs the commands in the file that a shell was told to read. -/
def runScriptFile (interpreter : Interpreter) (path : String) (arguments : List String) :
    Run Unit := do
  let machine ← get
  match machine.dialect with
  | .standard =>
    match machine.readPath path with
    | .ok content =>
      set { machine with name := path, file := some path, main := some path, arguments }
      Run.runText interpreter .file false 1 (ofOctets content)
    | .error .isDirectory => Run.exit 0
    | .error fault =>
      let cause := if fault = .noEntry || fault = .notDirectory then "No such file" else fault.text
      refuseArguments ("cannot open " ++ path ++ ": " ++ cause) ""
  | .extended =>
    let refuse (status : Nat) (text : String) : Run Unit := do
      Builtin.task (Task.complain text)
      Run.exit status
      throw .leave
    match machine.readPath path with
    | .ok content =>
      if isBinary content then refuse 126 (path ++ ": " ++ path ++ ": cannot execute binary file")
      set { machine with name := path, file := some path, main := some path, arguments }
      Run.runText interpreter .file false 1 (ofOctets content)
    | .error .isDirectory => refuse 126 (path ++ ": " ++ path ++ ": Is a directory")
    | .error fault =>
      refuse (if fault = .noEntry then 127 else 126)
        (machine.name ++ ": " ++ path ++ ": " ++ fault.text)

/-- Runs what the arguments of a shell ask for. -/
def runArguments (interpreter : Interpreter) (arguments : List String) : Run Unit := do
  let invocation ← takeOptions (arguments.length + 1) { rest := arguments }
  let readsInput : Run Bool := do
    return invocation.readsInput || (← get).isOn "stdin" || invocation.rest.isEmpty
  if invocation.hasCommands then
    match invocation.rest with
    | [] => refuseArguments "-c requires an argument" "-c: option requires an argument"
    | text :: rest =>
      modify fun machine =>
        let machine : Machine :=
          match rest with
          | name :: arguments => { machine with name, arguments }
          | [] => machine
        if machine.dialect = .extended then machine.setMode "command" true else machine
      Run.runText interpreter .argument false 1 text
  else if ← readsInput then
    modify fun machine => { machine.setMode "stdin" true with arguments := invocation.rest }
    if ← Run.isExtended then Run.runInput interpreter
    else Run.runText interpreter .file false 1 (← Builtin.task Task.readAll)
  else
    match invocation.rest with
    | path :: arguments => interpreter.runScriptFile path arguments
    | [] => return ()

end Interpreter

/-- Runs a shell under a name until it ends. -/
def runShell (launch : Launcher) (dialect : Dialect) (name : String) (arguments : List String) :
    Task Ended := do
  let interpreter := interpreter launch commandLevels
  modify fun machine => machine.asShell dialect name
  interpreter.finishing (interpreter.runArguments arguments)

end ManifestPin.Shell
