import ManifestPin.Shell.Builtin.Signals
import ManifestPin.Shell.Expansion
import ManifestPin.Shell.Interpreter

/-! # Processes

Commands that run in processes of their own, what they write, those in the background, and the
signals that processes take. -/

namespace ManifestPin.Shell

namespace Machine

/-- The machine without the commands for an event. -/
def untrap (machine : Machine) (event : String) : Machine :=
  { machine with traps := machine.traps.filter fun entry => entry.1 ≠ event }

/-- The machine after a process in the background ended. -/
def settle (machine : Machine) (process : Nat) (ended : Ended) : Machine :=
  let settled (job : Job) : Job :=
    if job.process = process then { job with waiting := none, ended } else job
  { machine with jobs := machine.jobs.map settled }

end Machine

namespace Interpreter

/-- Runs the commands for the end of the shell. The shell keeps its status unless they end it with
another one. -/
def runEnd (interpreter : Interpreter) : Run Unit := do
  let machine ← get
  match machine.traps.lookup "EXIT" with
  | none => return ()
  | some commands =>
    let status := machine.status
    set { machine.untrap "EXIT" with
      ending := some status, loops := 0, functionLine := none, lineShift := 0 }
    match ← Run.attempt (Run.runText interpreter .event true 1 commands) with
    | .error .leave => return ()
    | .error .fault => if ← Run.isExtended then Run.exit status
    | _ => Run.exit status

/-- Runs a process in the background that has not run yet. -/
def runJob (interpreter : Interpreter) (job : Job) : Task Unit := fun machine =>
  match job.waiting with
  | none => ((), machine)
  | some (fork, body) =>
    let started := (machine.settle job.process (.status 0)).resume fork job.process
    match interpreter.finish (interpreter.run false body) started with
    | (ended, after) => ((), (machine.join after).settle job.process ended)

/-- Runs all processes in the background that have not run yet. -/
def runJobs (interpreter : Interpreter) : Task Unit := do
  for job in (← get).jobs do
    interpreter.runJob job

/-- Runs something as a process, up to its end. -/
def finishing (interpreter : Interpreter) (action : Run Unit) : Task Ended := do
  let result ← action.run
  let ended : Ended ← (do
    match result with
    | .error (.killed signal) =>
      if (← get).dialect = .extended then
        let _ ← interpreter.runEnd.run
      return .signal signal
    | .error (.replaced ended) => return ended
    | .error .exhausted => return .signal 11
    | _ =>
      match ← interpreter.runEnd.run with
      | .error (.killed signal) => return .signal signal
      | _ => return .status (← get).status)
  interpreter.runJobs
  return ended

/-- Runs something in a process of its own that goes on as the shell is. -/
def apart (interpreter : Interpreter) (action : Run Unit) : Run Ended := fun machine =>
  match interpreter.finishing action machine.apart with
  | (ended, after) => (.ok ended, machine.join after)

/-- Reports a process that a signal ended. -/
def notice (ended : Ended) : Run Unit := do
  match ended with
  | .status _ => return ()
  | .signal signal =>
    if !(← Run.isExtended) && signal ≠ 2 && signal ≠ 13 then
      Builtin.task (Task.complain (Signal.description signal))

/-- Whether commands do nothing but name a file to be read. -/
def readFile? : Command → Option (List Part)
  | .simple _ [] [] [.file 0 .read target] => some target
  | _ => none

/-- The line of the first simple command in a command. -/
def firstLine? : Command → Option Nat
  | .simple line .. => some line
  | .redirected _ body _ => firstLine? body
  | .pipeline (first :: _) => firstLine? first
  | .negated body => firstLine? body
  | .both first _ => firstLine? first
  | .either first _ => firstLine? first
  | .sequence (first :: _) => firstLine? first
  | .background body => firstLine? body
  | .subshell _ body => firstLine? body
  | .conditional test _ _ => firstLine? test
  | .loop _ test _ => firstLine? test
  | .each line .. => some line
  | .counted line .. => some line
  | .choice line .. => some line
  | .define line .. => some line
  | .judge line _ => some line
  | .compute line _ => some line
  | _ => none

/-- Runs commands and gives what they write to their output. -/
def capture (interpreter : Interpreter) (body : Command) : Run String := do
  let machine ← get
  let (piped, pipe) := machine.addPipe ByteArray.empty
  set piped
  let extended := machine.dialect = .extended
  let ended ← interpreter.apart (do
    modify fun machine =>
      let machine := machine.openStream 1 (.pipe pipe)
      if extended then
        let shift : Int := machine.line + machine.lineShift - (firstLine? body).getD machine.line
        { machine.setMode "errexit" (machine.isOn "errexit" && machine.isOn "inherit_errexit") with
          level := machine.level + 1
          lineShift := shift }
      else machine
    interpreter.run false body)
  notice ended
  modify fun machine =>
    let machine := { machine with captured := ended.code }
    if extended then machine.withStatus ended.code else machine
  return ofOctets ((← get).pipes.getD pipe ByteArray.empty)

/-- Waits for processes in the background: the given ones, or all. -/
def wait (interpreter : Interpreter) : Builtin := fun arguments => do
  let machine ← get
  let extended := machine.dialect = .extended
  let (found, operands) ← Builtin.options (if extended then "fnp:" else "") arguments
  if operands.isEmpty then
    let known := machine.jobs
    Builtin.task interpreter.runJobs
    let machine ← get
    if Builtin.has found 'n' then
      match known.head? with
      | none => return 127
      | some job =>
        let ended := (machine.jobs.find? fun held => held.process = job.process).map (·.ended)
        set { machine with jobs := machine.jobs.drop 1 }
        return (ended.map Ended.code).getD 127
    set { machine with jobs := [] }
    return 0
  let mut status := 0
  for text in operands do
    let machine ← get
    match Builtin.jobOf? machine text with
    | some job =>
      Builtin.task interpreter.runJobs
      let machine ← get
      match machine.jobs.find? fun held => held.process = job.process with
      | some held =>
        notice held.ended
        status := held.ended.code
      | none => status := 127
    | none =>
      if text.startsWith "%" then
        if extended then Run.report (text ++ ": no such job")
        else return ← Run.fail ("No such job: " ++ text) 2
        status := 127
      else if isNumeral text then
        if extended then Run.report ("pid " ++ text ++ " is not a child of this shell")
        status := 127
      else if extended then
        Run.report ("\x60" ++ text ++ "': not a pid or valid job spec")
        status := 1
      else return ← Run.fail ("Illegal number: " ++ text) 2
  return status

/-- Takes the signals that were sent to the process: runs the commands for them, or ends. -/
def takeSignals (interpreter : Interpreter) : Run Unit := do
  let machine ← get
  if machine.signals.isEmpty then return ()
  let (own, others) := machine.signals.partition fun entry => entry.1 = machine.process
  set { machine with signals := others }
  for (_, signal) in own do
    let machine ← get
    let kept := signal = 9 || signal = 19
    let name := Signal.name signal
    let isIgnored := machine.ignored.contains name
    match if kept then none else if isIgnored then some "" else machine.traps.lookup name with
    | some "" => pure ()
    | some commands =>
      Run.runText interpreter .event true 1 commands
      Run.exit machine.status
    | none => if !Signal.isHarmless signal then throw (.killed signal)

/-- Runs the commands for an event that is no signal. -/
def runEvent (interpreter : Interpreter) (event : String) : Run Unit := do
  let machine ← get
  match machine.traps.lookup event with
  | none => return ()
  | some "" => return ()
  | some commands =>
    set (machine.untrap event)
    let result ← Run.attempt (Run.runText interpreter .event true machine.line commands)
    modify fun after =>
      { after with
        status := machine.status
        traps :=
          if (after.traps.lookup event).isSome then after.traps
          else (event, commands) :: after.traps }
    match result with
    | .ok () => return ()
    | .error stop => throw stop

end Interpreter

end ManifestPin.Shell
