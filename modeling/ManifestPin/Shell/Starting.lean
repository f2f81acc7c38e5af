import ManifestPin.Shell.Lookup

/-! # Starting programs

How a path leads to an installed program: directly, or through scripts whose first lines name the
programs that run them. -/

namespace ManifestPin.Shell

namespace Installed

/-- What the content of every installed program starts with. -/
def mark : String :=
  "\x7fELF"

/-- The content of the file of an installed program. -/
def content (name : String) : ByteArray :=
  toOctets (mark ++ name)

/-- The name of the installed program in a file. -/
def nameOf? (content : ByteArray) : Option String :=
  let text := ofOctets (content.extract 0 64)
  if text.startsWith mark then some (text.drop mark.length).toString else none

end Installed

/-- An installed program, and what it is started with. -/
structure Start where
  program : String
  /-- The name that it is called by. -/
  name : String
  arguments : List String

/-- How many octets of the first line of a script are looked at. -/
def scriptLineLimit : Nat :=
  256

/-- The program that the first line of a script names, with the one argument that may follow. -/
def interpreter? (content : ByteArray) : Option (String × Option String) :=
  match (ofOctets (content.extract 0 scriptLineLimit)).toList with
  | '#' :: '!' :: rest =>
    let line := rest.takeWhile (· ≠ '\n')
    let isWhole := line.length < rest.length || content.size < scriptLineLimit
    let ends (c : Char) : Bool := isBlank c || c = '\x00'
    let behind := line.dropWhile isBlank
    let name := behind.takeWhile fun c => !ends c
    let argument := ((behind.drop name.length).takeWhile (· ≠ '\x00')).dropWhile isBlank
    let argument := (argument.reverse.dropWhile isBlank).reverse
    if name.isEmpty || (!isWhole && name.length = behind.length) then none
    else
      some (String.ofList name, if argument.isEmpty then none else some (String.ofList argument))
  | _ => none

/-- How many scripts may stand for each other. -/
def scriptLimit : Nat :=
  5

namespace Machine

/-- How a path leads to an installed program through at most `scripts` scripts. -/
def startOf (machine : Machine) : (scripts : Nat) → (name path : String) →
    (arguments : List String) → Except SystemFault Start
  | scripts, name, path, arguments => do
    match ← machine.tree.entry (gather path) with
    | .file content mode =>
      if mode &&& 0o111 = 0 then throw .permissionDenied
      match Installed.nameOf? content with
      | some program => return { program, name, arguments }
      | none =>
        match interpreter? content with
        | none => throw .badFormat
        | some (program, argument) =>
          match scripts with
          | 0 => throw .tooManyLinks
          | scripts + 1 =>
            machine.startOf scripts program program (argument.toList ++ path :: arguments)
    | _ => throw .permissionDenied

/-- The state in which a program starts: of the variables it gets those that are exported. -/
def asProgram (machine : Machine) : Machine :=
  { machine.apart with
    parent := machine.starter.getD (toString machine.process)
    starter := none
    traps := []
    ignored := machine.ignored ++
      (machine.traps.filter fun entry => entry.2 = "").map (·.1)
    bindings := machine.environment.map fun held =>
      { name := held.name, value := (held.value.bind Value.text?).map Value.text, exported := true }
    functions := []
    aliases := []
    modes := []
    caller := none
    file := none
    arguments := []
    status := 0
    line := 1
    lineShift := 0
    level := 0
    functionLine := none
    loops := 0
    shadowed := none
    running := []
    main := none
    subshells := 0
    directories := []
    background := none
    letter := 0
    captured := 0 }

end Machine

end ManifestPin.Shell
