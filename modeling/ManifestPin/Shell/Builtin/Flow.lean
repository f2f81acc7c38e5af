import ManifestPin.Shell.Builtin.Basic
import ManifestPin.Shell.Permission

/-! # Commands that steer

The commands of the shell that end loops, functions and the shell itself, that move to other
directories, and that set the options of the shell. -/

namespace ManifestPin.Shell.Builtin

/-- Lists the processes in the background, none of which runs by itself. -/
def jobs : Builtin := fun arguments => do
  let _ ← options (if ← Run.isExtended then "lnprsx" else "lp") arguments
  return 0

/-- Goes on with a process in the background, of which there never is a stopped one. -/
def resume : Builtin := fun arguments => do
  if ← Run.isExtended then
    Run.report "no job control"
    return 1
  else
    match arguments with
    | job :: _ => Run.fail ("No such job: " ++ job) 2
    | [] => Run.fail "No current job" 2

/-- Does nothing. -/
def succeed : Builtin := fun _ => return 0

/-- Fails. -/
def failing : Builtin := fun _ => return 1

/-- The status that an argument asks for, else the last one. -/
def statusArgument (arguments : List String) : Run Nat := do
  match arguments with
  | [] => return (← get).status
  | text :: _ =>
    if ← Run.isExtended then
      match text.toInt? with
      | some value => return (value % 256).toNat
      | none =>
        Run.report (text ++ ": numeric argument required")
        return 2
    else return (← natural text) % 256

/-- Ends the shell. -/
def leave : Builtin := fun arguments => do
  let machine ← get
  if machine.dialect = .extended && 1 < arguments.length then
    Run.report "too many arguments"
    return 1
  let status ← (if arguments.isEmpty then return machine.ending.getD machine.status
    else statusArgument arguments)
  Run.exit status
  throw .leave

/-- Ends the function or the file that is running. -/
def back : Builtin := fun arguments => do
  let machine ← get
  let status ← statusArgument arguments
  if machine.dialect = .extended && machine.running.isEmpty then
    Run.report "can only \x60return' from a function or sourced script"
    return 2
  Run.exit status
  throw .back

/-- The number of loops that an argument names, else one. -/
def loopCount (arguments : List String) : Run Nat := do
  match arguments with
  | [] => return 1
  | text :: _ =>
    if ← Run.isExtended then
      match text.toInt? with
      | some value =>
        if 0 < value then return value.toNat
        Run.report (text ++ ": loop count out of range")
        Run.exit 1
        throw (.stop (← get).loops)
      | none =>
        Run.report (text ++ ": numeric argument required")
        Run.exit 128
        throw .leave
    else
      let count ← natural text
      if count = 0 then Run.fail ("Illegal number: " ++ text) 2 else return count

/-- Ends loops, or their current rounds. -/
def leaveLoops (leaving : Nat → Stop) : Builtin := fun arguments => do
  let machine ← get
  if machine.loops = 0 then
    if machine.dialect = .extended then
      Run.report "only meaningful in a \x60for', \x60while', or \x60until' loop"
    else
      let _ ← loopCount arguments
    return 0
  let count ← loopCount arguments
  Run.exit 0
  throw (leaving (min count machine.loops))

/-- Drops positional parameters. -/
def shift : Builtin := fun arguments => do
  let machine ← get
  let drop (count : Nat) : Run Nat := do
    modify fun machine => { machine with arguments := machine.arguments.drop count }
    return 0
  match machine.dialect, arguments with
  | _, [] =>
    if machine.arguments.isEmpty then
      if machine.dialect = .extended then return 1 else Run.fail "can't shift that many" 2
    else drop 1
  | .standard, text :: _ =>
    let count ← natural text
    if machine.arguments.length < count then Run.fail "can't shift that many" 2 else drop count
  | .extended, [text] =>
    match text.toInt? with
    | none =>
      Run.report (text ++ ": numeric argument required")
      return 1
    | some count =>
      if count < 0 then
        Run.report (text ++ ": shift count out of range")
        return 1
      else if machine.arguments.length < count.toNat then return 1
      else drop count.toNat
  | .extended, _ =>
    Run.report "too many arguments"
    return 1

/-- The options of the standard shell, in the order in which it lists them. -/
def standardModes : List String :=
  ["errexit", "noglob", "ignoreeof", "interactive", "monitor", "noexec", "stdin", "xtrace",
    "verbose", "vi", "emacs", "noclobber", "allexport", "notify", "nounset", "privileged", "nolog",
    "debug"]

/-- The options of the extended shell, in the order in which it lists them. -/
def extendedModes : List String :=
  ["allexport", "braceexpand", "emacs", "errexit", "errtrace", "functrace", "hashall", "histexpand",
    "history", "ignoreeof", "interactive-comments", "keyword", "monitor", "noclobber", "noexec",
    "noglob", "nolog", "notify", "nounset", "onecmd", "physical", "pipefail", "posix", "privileged",
    "verbose", "vi", "xtrace"]

/-- The options of a shell. -/
def modeNames : Dialect → List String
  | .standard => standardModes
  | .extended => extendedModes

/-- The option that a letter stands for. -/
def modeOfLetter? (dialect : Dialect) (letter : Char) : Option String :=
  let standard : List (Char × String) :=
    [('e', "errexit"), ('f', "noglob"), ('n', "noexec"), ('x', "xtrace"), ('v', "verbose"),
      ('C', "noclobber"), ('a', "allexport"), ('u', "nounset"), ('b', "notify"), ('m', "monitor")]
  let own : List (Char × String) :=
    match dialect with
    | .standard =>
      [('I', "ignoreeof"), ('i', "interactive"), ('s', "stdin"), ('V', "vi"), ('E', "emacs"),
        ('p', "privileged")]
    | .extended =>
      [('h', "hashall"), ('B', "braceexpand"), ('E', "errtrace"), ('T', "functrace"),
        ('H', "histexpand"), ('P', "physical"), ('k', "keyword"), ('t', "onecmd"),
        ('p', "privileged")]
  (standard ++ own).lookup letter

/-- The usage of `set` in the extended shell. -/
def setUsage : String :=
  "set: usage: set [-abefhkmnptuvxBCEHPT] [-o option-name] [--] [-] [arg ...]"

/-- Lists the options of the shell: as a table, or as commands that set them. -/
def listModes (asCommands : Bool) : Run Unit := do
  let machine ← get
  let line (name : String) : String :=
    let isOn := machine.isOn name
    if asCommands then "set " ++ (if isOn then "-o " else "+o ") ++ name
    else
      let state := if isOn then "on" else "off"
      match machine.dialect with
      | .standard => padEnd 16 name ++ state
      | .extended => padEnd 15 name ++ "\t" ++ state
  if machine.dialect = .standard && !asCommands then print "Current option settings\n"
  print (asLines ((modeNames machine.dialect).map line))

/-- Sets an option of the shell by its name. -/
def setNamedMode (isOn : Bool) (name : String) : Run Unit := do
  let machine ← get
  if (modeNames machine.dialect).contains name then set (machine.setMode name isOn)
  else refuseOption ("Illegal option -o " ++ name) (name ++ ": invalid option name")

/-- Sets the options that letters stand for, and gives what is left of the arguments. -/
def setLetters (isOn : Bool) : List Char → List String → Run (List String)
  | [], rest => return rest
  | 'o' :: letters, rest => do
    match rest with
    | name :: rest =>
      setNamedMode isOn name
      setLetters isOn letters rest
    | [] =>
      listModes !isOn
      setLetters isOn letters []
  | letter :: letters, rest => do
    match modeOfLetter? (← get).dialect letter with
    | some name =>
      modify fun machine => machine.setMode name isOn
      setLetters isOn letters rest
    | none =>
      let option := (if isOn then "-" else "+") ++ String.singleton letter
      if ← Run.isExtended then
        Run.report (option ++ ": invalid option")
        task (Task.complain setUsage)
        Run.exit 2
        throw .fault
      else Run.fail ("Illegal option -" ++ String.singleton letter) 2

/-- Sets options of the shell, and gives the positional parameters that arguments ask for. -/
def setModes : (fuel : Nat) → List String → Run (Option (List String))
  | 0, _ => return none
  | _ + 1, [] => return none
  | fuel + 1, word :: rest => do
    match word.toList with
    | ['-', '-'] => return some rest
    | ['-'] =>
      modify fun machine => (machine.setMode "xtrace" false).setMode "verbose" false
      return if rest.isEmpty then none else some rest
    | ['+'] => return if rest.isEmpty then none else some rest
    | '-' :: letters => setModes fuel (← setLetters true letters rest)
    | '+' :: letters => setModes fuel (← setLetters false letters rest)
    | _ => return some (word :: rest)

/-- Lists the variables that have values. -/
def listVariables : Run Unit := do
  let machine ← get
  let held := machine.bindings.mergeSort fun a b => a.name ≤ b.name
  let line (entry : Variable) : Option String :=
    (entry.value.bind Value.text?).map fun text =>
      entry.name ++ "=" ++
        (if machine.dialect = .standard then apostrophized text else listed text)
  print (asLines (held.filterMap line))

/-- Sets options of the shell and the positional parameters. -/
def setCommand : Builtin := fun arguments => do
  if arguments.isEmpty then
    listVariables
    return 0
  match ← setModes (arguments.length + 1) arguments with
  | some parameters =>
    modify fun machine => { machine with arguments := parameters, letter := 0 }
    return 0
  | none => return 0

/-- The path without empty pieces and dots, where two dots drop the piece before them. -/
def normalPath (path : String) : String :=
  let pieces := (piecesAt '/' path).foldl
    (fun held piece =>
      if piece = "" || piece = "." then held
      else if piece = ".." then held.tail
      else piece :: held)
    ([] : List String)
  "/" ++ "/".intercalate pieces.reverse

/-- Moves to a directory, and tells whether that went well. -/
def moveTo (physical : Bool) (path : String) : Run (Option SystemFault) := do
  let machine ← get
  let logical :=
    if path.toList.head? = some '/' then normalPath path
    else normalPath (machine.here ++ "/" ++ path)
  match machine.tree.resolve (gather (if physical then path else logical)) with
  | .error fault => return some fault
  | .ok location =>
    if !machine.tree.holdsDirectory location then return some .notDirectory
    let moved := { machine with tree := { machine.tree with here := location } }
    let here := if physical then moved.directory else logical
    let old := machine.text? "PWD"
    let setting (machine : Machine) (name : String) (text : String) : Machine :=
      let machine := machine.assign name text
      if machine.dialect = .standard then
        machine.keep { (machine.held? name).getD { name, value := none } with
          value := some (.text text), exported := true }
      else machine
    set (setting (setting { moved with here } "OLDPWD" (old.getD machine.here)) "PWD" here)
    return none

/-- The directories in which the directory of a path is searched. -/
def searched (machine : Machine) (path : String) : List String :=
  let isPlain :=
    !(["/", "./", "../"].any fun start => path.startsWith start) && path ≠ "." && path ≠ ".."
  if isPlain then ((machine.text? "CDPATH").map (piecesAt ':')).getD [] else []

/-- Changes the current directory. -/
def changeDirectory : Builtin := fun arguments => do
  let (found, operands) ← options "LPe@" arguments
  let machine ← get
  if machine.dialect = .extended && 1 < operands.length then
    Run.report "too many arguments"
    return 1
  let physical := ((found.map (·.1)).filter fun c => c = 'L' || c = 'P').getLast? = some 'P'
  let (target?, shown) : Option String × Bool :=
    match operands with
    | [] => (machine.text? "HOME", false)
    | "-" :: _ => (machine.text? "OLDPWD", true)
    | path :: _ => (some path, false)
  match target? with
  | none =>
    if machine.dialect = .standard then return 0
    Run.report (if shown then "OLDPWD not set" else "HOME not set")
    return 1
  | some "" =>
    return 0
  | some target =>
    let isFound (start : String) : Bool :=
      start ≠ "" && machine.tree.isDirectory (gather (start ++ "/" ++ target))
    let through := (searched machine target).find? isFound
    let path :=
      match through with
      | some start => start ++ "/" ++ target
      | none => target
    match ← moveTo physical path with
    | none =>
      if shown || through.isSome then print ((← get).here ++ "\n")
      return 0
    | some fault =>
      refuse ("can't cd to " ++ target) (target ++ ": " ++ fault.text) 1

/-- Shows or sets the permission bits that new files do not get. -/
def fileMask : Builtin := fun arguments => do
  let (found, operands) ← options "Sp" arguments
  let machine ← get
  match operands with
  | [] =>
    let text :=
      if has found 'S' then Permission.maskText machine.mask
      else padStart 4 '0' (digitsOf 8 machine.mask)
    print (text ++ "\n")
    return 0
  | text :: _ =>
    let first := text.toList.headD ' '
    if first.isDigit then
      if text.toList.all isOctal then
        set { machine with mask := numberOf 8 text.toList &&& 0o777 }
        return 0
      else refuse ("Illegal number: " ++ text) (text ++ ": octal number out of range") 1
    else
      let left := Permission.clear 0o777 machine.mask
      match Permission.change? 0 false text left with
      | some bits =>
        set { machine with mask := Permission.clear 0o777 bits }
        return 0
      | none =>
        refuse ("Illegal mode: " ++ text)
          ("\x60" ++ String.ofList (text.toList.take 1) ++ "': invalid symbolic mode operator") 1

/-- Shows how much time the shell has used: none. -/
def times : Builtin := fun _ => do
  let line := if ← Run.isExtended then "0m0.000s 0m0.000s\n" else "0m0.000000s 0m0.000000s\n"
  print (line ++ line)
  return 0

/-- Tells in which line and file the running function was called, or one around it. -/
def caller : Builtin := fun arguments => do
  let machine ← get
  let file (index : Nat) : String := machine.callFiles.getD index "NULL"
  match arguments with
  | [] =>
    match machine.callLines with
    | line :: _ =>
      print (line ++ " " ++ file 1 ++ "\n")
      return 0
    | [] => return 1
  | text :: _ =>
    let index := text.toNat?.getD 0
    match machine.callLines[index]?, machine.callNames[index + 1]? with
    | some line, some name =>
      print (line ++ " " ++ name ++ " " ++ file (index + 1) ++ "\n")
      return 0
    | _, _ => return 1

/-- Shows the limits of the shell, which are none, or takes others. -/
def limits : Builtin := fun arguments => do
  let known := if ← Run.isExtended then "SHabcdefiklmnpqrstuvxPRT" else "SHabcdefiklmnpqrstuvwx"
  let known := if ← Run.isExtended then known else "HSatfdsmcnprvwl"
  let (_, operands) ← options known arguments
  match operands with
  | [] =>
    print "unlimited\n"
    return 0
  | [word] =>
    if isNumeral word || word = "unlimited" then return 0
    else if (← Run.isExtended) && (word = "hard" || word = "soft") then return 0
    else refuse "bad number" (word ++ ": invalid number") 1
  | _ => if ← Run.isExtended then return 0 else Run.fail "too many arguments" 2

end ManifestPin.Shell.Builtin
