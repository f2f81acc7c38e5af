import ManifestPin.Shell.Judging

/-! # Evaluation

A command is run on the state of the shell. The evaluator is one recursion on a depth: each level
runs a command by means of the level below it. -/

namespace ManifestPin.Shell

namespace Interpreter

/-- Runs the body of a loop once, and tells whether the loop goes on. -/
def runRound (body : Run Unit) : Run Bool := do
  modify fun machine => { machine with loops := machine.loops + 1 }
  let result ← Run.attempt body
  modify fun machine => { machine with loops := machine.loops - 1 }
  match result with
  | .ok () => return true
  | .error (.stop loops) => if 1 < loops then throw (.stop (loops - 1)) else return false
  | .error (.again loops) => if 1 < loops then throw (.again (loops - 1)) else return true
  | .error stop => throw stop

/-- Runs a body as long as a test comes out as wanted. The status is that of the last round. -/
def runLoop (interpreter : Interpreter) (tested wanted : Bool) (test body : Command) : Run Unit := do
  Run.loop
    (fun (status : Nat) => do
      let goesOn ← runRound (interpreter.run true test)
      if !goesOn then return .inr ()
      let machine ← get
      if (machine.status = 0) != wanted then
        Run.exit status
        return .inr ()
      if ← runRound (interpreter.run tested body) then return .inl (← get).status
      else return .inr ())
    Run.patience 0

/-- Runs a body for each of several values of a variable. -/
def runEach (interpreter : Interpreter) (tested : Bool) (line : Nat) (name written : String)
    (words : Option (List (List Part))) (body : Command) : Run Unit := do
  Run.atLine line
  let values ← (do
    match words with
    | some words => interpreter.powers.words words
    | none => return (← get).arguments)
  Run.exit 0
  let header := "for " ++ name ++ " in " ++ written
  let extended ← Run.isExtended
  let rec go : List String → Run Unit
    | [] => return ()
    | value :: rest => do
      if extended then
        Run.atLine line
        interpreter.trace header
      match ← Run.attempt (Run.assign name value) with
      | .ok () => if ← runRound (interpreter.run tested body) then go rest
      | .error stop => if !extended then throw stop
  if extended && !isName name then
    Run.report ("\x60" ++ name ++ "': not a valid identifier")
    Run.exit 1
  else go values

/-- The value of an expression within a command. An empty one has a default. -/
def computed (interpreter : Interpreter) (parts : List Part) (usual : Int) : Run Int := do
  let text ← interpreter.powers.text .nowhere parts
  if text.toList.all isSpace then return usual
  interpreter.trace ("(( " ++ text ++ " ))")
  Run.evaluate (some "((") text

/-- Runs a body as long as an expression is not zero. -/
def runCounted (interpreter : Interpreter) (tested : Bool) (line : Nat)
    (start test step : List Part) (body : Command) : Run Unit := do
  Run.atLine line
  Run.exit 0
  let _ ← interpreter.computed start 1
  Run.loop
    (fun (_ : Unit) => do
      if (← interpreter.computed test 1) = 0 then return .inr ()
      else if ← runRound (interpreter.run tested body) then
        let _ ← interpreter.computed step 1
        return .inl ()
      else return .inr ())
    Run.patience ()

/-- Runs the branch whose pattern matches a text, and those that it goes on with. `entered` tells
that a branch is run whatever its patterns are. -/
def runBranches (interpreter : Interpreter) (tested : Bool) (text : String) :
    (entered : Bool) → List (List (List Part) × Command × BranchEnd) → Run Unit
  | _, [] => return ()
  | entered, (patterns, body, next) :: rest => do
    let nocase := (← get).isOn "nocasematch"
    let grouped := (← get).dialect = .extended
    let matching : Run Bool :=
      patterns.anyM fun parts => do
        let pattern ← interpreter.powers.pattern parts
        if nocase then
          return Pattern.accepts grouped (pattern.map fun entry => (entry.1.toLower, entry.2))
            (text.map Char.toLower)
        else return Pattern.accepts grouped pattern text
    if entered || (← matching) then
      if !body.isSkip then interpreter.run tested body else Run.exit 0
      match next with
      | .leave => return ()
      | .fall => interpreter.runBranches tested text true rest
      | .retry => interpreter.runBranches tested text false rest
    else interpreter.runBranches tested text false rest

/-- Runs a choice between branches. -/
def runChoice (interpreter : Interpreter) (tested : Bool) (line : Nat) (written : String)
    (word : List Part) (branches : List (List (List Part) × Command × BranchEnd)) : Run Unit := do
  Run.atLine line
  if ← Run.isExtended then interpreter.trace ("case " ++ written ++ " in")
  let text ← interpreter.powers.text .start word
  Run.exit 0
  interpreter.runBranches tested text false branches

/-- Runs commands in processes of their own, each of which reads what the one before it writes, and
gives how they end. -/
def runStages (interpreter : Interpreter) (tested : Bool) (input : Option Nat) :
    List Command → Run (List Ended)
  | [] => return []
  | stage :: rest => do
    let machine ← get
    let (piped, pipe) := machine.addPipe ByteArray.empty
    set piped
    let ended ← interpreter.apart (do
      modify fun machine =>
        let machine :=
          match input with
          | some input => machine.openStream 0 (.pipe input)
          | none => machine
        if rest.isEmpty then machine else machine.openStream 1 (.pipe pipe)
      interpreter.run tested stage)
    notice ended
    return ended :: (← interpreter.runStages tested (some pipe) rest)

/-- Keeps the statuses of the commands of a pipeline, in the extended dialect. -/
def keepStatuses (statuses : List Nat) : Run Unit := do
  let machine ← get
  if machine.dialect = .extended then
    let entries := statuses.zipIdx.map fun (status, index) => (index, toString status)
    set (machine.keep { name := "PIPESTATUS", value := some (.list entries) })

/-- Runs commands joined by pipes. -/
def runPipeline (interpreter : Interpreter) (tested : Bool) (stages : List Command) : Run Unit := do
  let ended ← interpreter.runStages tested none stages
  let statuses := ended.map Ended.code
  let last := statuses.getLast?.getD 0
  let failed := (statuses.filter (· ≠ 0)).getLast?.getD 0
  Run.exit (if (← get).isOn "pipefail" then failed else last)
  keepStatuses statuses

/-- Runs commands in a process of their own. -/
def runSubshell (interpreter : Interpreter) (tested : Bool) (line : Nat) (body : Command) :
    Run Unit := do
  Run.atLine line
  let ended ← interpreter.apart (interpreter.run tested body)
  notice ended
  Run.exit ended.code

/-- Puts commands in the background. They run once something waits for them. -/
def runBackground (body : Command) : Run Unit := do
  let machine ← get
  set { machine.enlist body none with background := some machine.fresh, status := 0 }

/-- Runs commands one after the other. -/
def runSequence (interpreter : Interpreter) (tested : Bool) : List Command → Run Unit
  | [] => return ()
  | command :: rest => do
    interpreter.run tested command
    interpreter.runSequence tested rest

/-- Defines a function. -/
def defineFunction (function : Function) : Run Unit := do
  let machine ← get
  set { machine with
    functions := function :: machine.functions.filter fun held => held.name ≠ function.name
    status := 0 }

/-- Whether the failure of a command ends a shell that was told to end so. -/
def isChecked : Command → Bool
  | .simple .. => true
  | .pipeline _ => true
  | .subshell .. => true
  | .judge .. => true
  | .compute .. => true
  | _ => false

/-- Runs a command by means of the level below. -/
def runCommand (interpreter : Interpreter) (tested : Bool) : Command → Run Unit
  | .simple line assignments words redirections =>
    interpreter.runSimple tested line assignments words redirections
  | .redirected line body redirections => do
    Run.atLine line
    interpreter.redirected redirections (interpreter.run tested body)
    interpreter.runReaders
  | .pipeline stages => interpreter.runPipeline tested stages
  | .negated body => do
    interpreter.run true body
    modify fun machine => machine.withStatus (if machine.status = 0 then 1 else 0)
  | .both first second => do
    interpreter.run true first
    if (← get).status = 0 then interpreter.run tested second
  | .either first second => do
    interpreter.run true first
    if (← get).status ≠ 0 then interpreter.run tested second
  | .sequence commands => interpreter.runSequence tested commands
  | .background body => runBackground body
  | .subshell line body => interpreter.runSubshell tested line body
  | .conditional test body otherwise => do
    interpreter.run true test
    if (← get).status = 0 then interpreter.run tested body
    else
      match otherwise with
      | some otherwise => interpreter.run tested otherwise
      | none => Run.exit 0
  | .loop wanted test body => interpreter.runLoop tested wanted test body
  | .each line name written words body =>
    interpreter.runEach tested line name written words body
  | .counted line start test step body =>
    interpreter.runCounted tested line start test step body
  | .choice line written word branches =>
    interpreter.runChoice tested line written word branches
  | .define line name body => do
    defineFunction { name, line, file := (← get).file, body }
  | .judge line condition => do
    Run.atLine line
    interpreter.runJudgement condition
  | .compute line expression => do
    Run.atLine line
    match ← Run.attempt (interpreter.computed expression 0) with
    | .ok value => Run.exit (if value = 0 then 1 else 0)
    | .error .fault => Run.exit 1
    | .error stop => throw stop

/-- Runs a command, takes signals, and ends the shell after a failure if it was told to. -/
def runChecked (interpreter : Interpreter) (tested : Bool) (command : Command) : Run Unit := do
  if (← get).isOn "noexec" then return ()
  interpreter.runCommand tested command
  interpreter.takeSignals
  let machine ← get
  if machine.status ≠ 0 && isChecked command && !tested then
    if machine.dialect = .extended && (machine.functionLine.isNone || machine.isOn "errtrace") then
      interpreter.runEvent "ERR"
    if machine.isOn "errexit" then throw .leave

end Interpreter

/-- How a program at a path is run, under a name and with arguments. -/
abbrev Launcher := (name path : String) → (arguments : List String) →
  Task (Except SystemFault Ended)

/-- The interpreter whose commands stand at most `depth` levels within each other. -/
def interpreter (launch : Launcher) : (depth : Nat) → Interpreter
  | 0 =>
    { run := fun _ _ => throw .exhausted
      finish := fun _ => return .signal 11
      launch }
  | depth + 1 =>
    let inner := interpreter launch depth
    { run := inner.runChecked
      finish := inner.finishing
      launch }

/-- How many levels of commands stand within each other. -/
def commandLevels : Nat :=
  3000

end ManifestPin.Shell
