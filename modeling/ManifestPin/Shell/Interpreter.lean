import ManifestPin.Shell.Builtin.Basic
import ManifestPin.Shell.Grammar

/-! # Running texts

The texts that a shell runs are read line by line, and each line is run before the next one is
read. -/

namespace ManifestPin.Shell

/-- What running a command needs: how the commands in it are run, one level deeper. -/
structure Interpreter where
  /-- Runs a command. If it is tested, its failure does not end the shell. -/
  run : (tested : Bool) → Command → Run Unit
  /-- Runs something in a process until it ends. -/
  finish : Run Unit → Task Ended
  /-- Runs the program at a path, under a name and with arguments, in a process of its own. -/
  launch : (name path : String) → (arguments : List String) → Task (Except SystemFault Ended)

/-- Where a text that is run comes from. -/
inductive Origin where
  /-- An argument of the shell. -/
  | argument
  /-- A file, or the input. -/
  | file
  /-- Words of a command. -/
  | words
  /-- The commands for an event. -/
  | event
  /-- A file that a command names. -/
  | sourced (path : String)

namespace Origin

/-- Whether a fault in the text ends the shell. -/
def isMain : Origin → Bool
  | .argument => true
  | .file => true
  | _ => false

/-- What stands in front of messages about faults in the text, in the extended dialect. -/
def place (machine : Machine) : Origin → String
  | .argument => machine.name ++ ": -c"
  | .file => machine.file.getD machine.name
  | .words => machine.file.getD machine.name ++ ": eval"
  | .event => machine.file.getD machine.name ++ ": trap"
  | .sourced path => path

end Origin

namespace Misreading

/-- A line of a text that starts in a line, as messages show it. -/
def shownLine (text : String) (start line : Nat) : String :=
  "\x60" ++ ((piecesAt '\n' text)[line - start]?).getD "" ++ "'"

/-- The messages of the extended dialect about a fault in a text that starts in a line, each
without the place in front. -/
def extendedLines (text : String) (start : Nat) : Misreading → List (Nat × String)
  | .unexpected line .ending _ => [(line, "syntax error: unexpected end of file")]
  | .unexpected line found _ =>
    let line := if found matches .lineEnd then line - 1 else line
    [(line, "syntax error near unexpected token \x60" ++ Reader.token found ++ "'"),
      (line, shownLine text start line)]
  | .unended _ start _ closer =>
    [(start, "unexpected EOF while looking for matching \x60" ++ String.singleton closer ++ "'")]
  | .misjudged line complaint near =>
    (complaint.toList.map fun complaint => (line, complaint)) ++
      [(line, "syntax error near \x60" ++ near ++ "'"), (line, shownLine text start line)]
  | .faulty line _ complaint => [(line, complaint)]

end Misreading

namespace Run

/-- Reports a fault in a text. -/
def reportMisreading (origin : Origin) (text : String) (start : Nat) (misreading : Misreading) :
    Run Unit := do
  let machine ← get
  match machine.dialect with
  | .standard =>
    let (line, complaint) := misreading.standard
    set { machine with line }
    report complaint
  | .extended =>
    for (line, complaint) in misreading.extendedLines text start do
      Builtin.task (Task.complain
        (origin.place machine ++ ": line " ++ toString line ++ ": " ++ complaint))

/-- What is left of a text that is run, and whether any of it has been run. -/
structure TextState where
  source : Source
  ran : Bool

/-- Shows the text that was read, if that is asked for. -/
def showRead (origin : Origin) (before after : Source) : Run Unit := do
  let machine ← get
  let isShown : Bool :=
    match origin, machine.dialect with
    | .file, _ => true
    | .sourced _, _ => true
    | .argument, .extended => true
    | _, _ => false
  if isShown && machine.isOn "verbose" then
    let shown := before.rest.take (before.rest.length - after.rest.length)
    let shown := if shown.getLast? = some '\n' then shown else shown ++ ['\n']
    if !before.rest.isEmpty then set (machine.write 2 (toOctets (String.ofList shown)))

/-- Warns of texts within the script that no line ended. -/
def warnUnended (origin : Origin) (source : Source) : Run Unit := do
  let machine ← get
  if machine.dialect = .extended then
    let place : String :=
      match origin with
      | .sourced path => path
      | _ => machine.file.getD machine.name
    for (delimiter, first, last) in source.unended do
      Builtin.task (Task.complain (place ++ ": line " ++ toString last ++
        ": warning: here-document at line " ++ toString first ++
        " delimited by end-of-file (wanted \x60" ++ delimiter ++ "')"))

/-- Runs the next line of a text. Before it runs, `took` gets to know how many octets it has. -/
def runLine (interpreter : Interpreter) (origin : Origin) (tested : Bool) (text : String)
    (start : Nat) (took : Nat → Run Unit) (state : TextState) : Run (TextState ⊕ Unit) := do
  let machine ← get
  let source :=
    { state.source with
      aliases :=
        if machine.dialect = .standard || machine.isOn "expand_aliases" then machine.aliases else []
      documents := machine.documents
      dialect := machine.dialect
      unended := [] }
  match Reader.readLine.run source with
  | .error misreading =>
    reportMisreading origin text start misreading
    exit 2
    if machine.dialect = .standard then throw .fault
    else if origin.isMain then throw .leave
    else return .inr ()
  | .ok (read, after) =>
    showRead origin source after
    took (source.rest.length - after.rest.length)
    match read with
    | none =>
      if !state.ran then exit 0
      return .inr ()
    | some command =>
      warnUnended origin after
      set { ← get with documents := after.documents }
      match ← attempt (interpreter.run tested command) with
      | .ok () => return .inl { source := after, ran := true }
      | .error .fault =>
        if machine.dialect = .standard then throw .fault
        else if machine.process ≠ machine.shell then throw .leave
        else return .inl { source := after, ran := true }
      | .error stop => throw stop

/-- A text as a shell reads it. In the extended dialect its last line always has an end, even if that
of a file is escaped. -/
def wholeLines (dialect : Dialect) (origin : Origin) (text : String) : String :=
  let last := text.toList.getLast?
  let isFile : Bool :=
    match origin with
    | .file => true
    | .sourced _ => true
    | _ => false
  if dialect = .standard || text = "" || last = some '\n' then text
  else if last = some '\\' then (if isFile then text ++ "\n\n" else text)
  else text ++ "\n"

/-- Runs a text that starts in a line. -/
def runText (interpreter : Interpreter) (origin : Origin) (tested : Bool) (start : Nat)
    (text : String) : Run Unit := do
  let machine ← get
  let text := wholeLines machine.dialect origin text
  let source : Source :=
    { dialect := machine.dialect, rest := text.toList, line := start
      documents := machine.documents }
  loop (runLine interpreter origin tested text start fun _ => pure ()) patience
    { source, ran := false }

/-- Runs the input as a text, of which each line is taken before it runs. -/
def runInput (interpreter : Interpreter) : Run Unit := do
  let machine ← get
  let source : Source :=
    { dialect := machine.dialect, rest := [], line := 1, documents := machine.documents }
  let took (count : Nat) : Run Unit := modify fun machine => machine.consumeAt 0 count
  let text := ofOctets (machine.pendingAt 0)
  loop
    (fun state => do
      let rest := (wholeLines .extended .file (ofOctets ((← get).pendingAt 0))).toList
      runLine interpreter .file false text 1 took
        { state with source := { state.source with rest } })
    patience { source, ran := false }

end Run

end ManifestPin.Shell
