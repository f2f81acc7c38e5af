import ManifestPin.Shell.Builtin.Basic
import ManifestPin.Shell.Signal

/-! # Commands for signals

The commands of the shell that send signals, and that say what to run when they arrive. -/

namespace ManifestPin.Shell.Builtin

/-- The events of the extended dialect that are no signals. -/
def pseudoSignals : List String :=
  ["ERR", "DEBUG", "RETURN"]

/-- The name under which the commands for a signal are kept. -/
def trapName? (dialect : Dialect) (text : String) : Option String :=
  let wanted := text.map Char.toUpper
  if dialect = .extended && pseudoSignals.contains wanted then some wanted
  else (Signal.number? dialect text).map Signal.name

/-- The lines that list the commands for signals, in the order of their numbers. -/
def trapLines (machine : Machine) (wanted : String → Bool) : List String :=
  let shown (name : String) : String :=
    if pseudoSignals.contains name then name
    else Signal.nameIn machine.dialect ((Signal.number? machine.dialect name).getD 0)
  let quoted (text : String) : String :=
    if machine.dialect = .standard then apostrophized text
    else "'" ++ text.replace "'" "'\\''" ++ "'"
  ((List.range Signal.count).map Signal.name ++ pseudoSignals).filterMap fun name =>
    if wanted name then
      (machine.traps.lookup name).map fun commands =>
        "trap -- " ++ quoted commands ++ " " ++ shown name
    else none

/-- The table of signals of the extended dialect: five in a line. -/
def signalTable : String :=
  let numbers := (List.range Signal.count).filter fun number =>
    number ≠ 0 && number ≠ 32 && number ≠ 33
  String.join (numbers.zipIdx.map fun (number, index) =>
    let entry := padStart 2 ' ' (toString number) ++ ") SIG" ++ Signal.name number
    let isLast := index + 1 = numbers.length
    entry ++ (if isLast then "\t\n" else if index % 5 = 4 then "\n" else "\t"))

/-- Says what to run when signals arrive. -/
def trap : Builtin := fun arguments => do
  let machine ← get
  let extended := machine.dialect = .extended
  let (found, operands) ← options (if extended then "lp" else "") arguments
  let isNumber (text : String) : Bool :=
    isNumeral text && (Signal.number? machine.dialect text).isSome
  if has found 'l' then
    print signalTable
    return 0
  if has found 'p' || operands.isEmpty then
    let names := operands.filterMap (trapName? machine.dialect)
    print (asLines (trapLines machine fun name => operands.isEmpty || names.contains name))
    return 0
  let (action, signals) : Option String × List String :=
    match operands with
    | [only] => (none, [only])
    | first :: rest =>
      if isNumber first then (none, first :: rest)
      else (if first = "-" then none else some first, rest)
    | [] => (none, [])
  if extended && operands.length = 1 && signals.any fun text =>
      (trapName? machine.dialect text).isNone then
    task (Task.complain "trap: usage: trap [-lp] [[arg] signal_spec ...]")
    return 2
  let mut status := 0
  for text in signals do
    match trapName? machine.dialect text with
    | some name =>
      modify fun machine =>
        let others := machine.traps.filter fun entry => entry.1 ≠ name
        { machine with
          traps :=
            match action with
            | some commands => (name, commands) :: others
            | none => others }
    | none =>
      if extended then
        Run.report (text ++ ": invalid signal specification")
        status := 1
      else
        task (Task.complain ("trap: " ++ text ++ ": bad trap"))
        return 1
  return status

/-- The usage of `kill`. -/
def killUsage : Run Nat := do
  if ← Run.isExtended then
    task (Task.complain ("kill: usage: kill [-s sigspec | -n signum | -sigspec] pid | jobspec ... " ++
      "or kill -l [sigspec]"))
    return 2
  else
    Run.fail ("Usage: kill [-s sigspec | -signum | -sigspec] [pid | job]... or\n" ++
      "kill -l [exitstatus]") 2

/-- Lists signals, or the names of signals that ended processes with given statuses. -/
def listSignals (operands : List String) : Run Nat := do
  let extended ← Run.isExtended
  if operands.isEmpty then
    print (if extended then signalTable
      else asLines ((List.range Signal.count).map fun number =>
        if number = 0 then "0" else Signal.nameIn .standard number))
    return 0
  let mut status := 0
  for text in (if extended then operands else operands.take 1) do
    if extended && !isNumeral text then
      match Signal.number? .extended text with
      | some number => print (toString number ++ "\n")
      | none =>
        Run.report (text ++ ": invalid signal specification")
        status := 1
    else
      let value ← natural text
      let number := if 128 < value then value - 128 else value
      if 0 < number && number < Signal.count then
        let shown := if extended then Signal.name number else Signal.nameIn .standard number
        print (shown ++ "\n")
      else if extended then
        Run.report (text ++ ": invalid signal specification")
        status := 1
      else return ← Run.fail ("invalid signal number or exit status: " ++ text) 2
  return status

/-- The job that an argument names. -/
def jobOf? (machine : Machine) (text : String) : Option Job :=
  match text.toList with
  | ['%'] => machine.jobs.getLast?
  | ['%', '%'] => machine.jobs.getLast?
  | ['%', '+'] => machine.jobs.getLast?
  | '%' :: digits => if digits.all Char.isDigit then machine.jobs[numberOf 10 digits - 1]? else none
  | _ => (text.toNat?).bind fun process => machine.jobs.find? fun job => job.process = process

/-- Sends a signal to a process: to a waiting one in the background, which ends, or to one that
runs. Gives whether there is such a process. -/
def send (signal process : Nat) : Run Bool := do
  let machine ← get
  match machine.jobs.find? fun job => job.process = process with
  | some job =>
    if job.waiting.isNone then return false
    if Signal.isHarmless signal then return true
    let stopped (held : Job) : Job :=
      if held.process = process then { held with waiting := none, ended := .signal signal }
      else held
    set { machine with jobs := machine.jobs.map stopped }
    return true
  | none =>
    if process = machine.process || process = machine.shell || process = 0 then
      let target := if process = 0 then machine.process else process
      if signal ≠ 0 then
        set { machine with signals := machine.signals ++ [(target, signal)] }
      return true
    else return process = 1

/-- Sends a signal to the processes that operands name. -/
def sendAll (signal : Nat) (operands : List String) : Run Nat := do
  let mut status := 0
  for text in operands do
    let machine ← get
    let extended := machine.dialect = .extended
    let isJob := text.startsWith "%"
    let digits := if text.startsWith "-" then (text.drop 1).toString else text
    let target? : Option Nat :=
      if isJob then (jobOf? machine text).map (·.process) else
        if isNumeral digits then some (numberOf 10 digits.toList) else none
    match target? with
    | some process =>
      if !(← send signal process) then
        Run.report (if extended then "(" ++ text ++ ") - No such process"
          else "No such process\n")
        status := 1
    | none =>
      if extended then
        Run.report (text ++ ": " ++
          (if isJob then "no such job" else "arguments must be process or job IDs"))
        status := 1
      else
        return ← Run.fail ((if isJob then "No such job: " else "Illegal number: ") ++ text) 2
  return status

/-- Sends a signal to processes. -/
def kill : Builtin := fun arguments => do
  let machine ← get
  let extended := machine.dialect = .extended
  let bad (text : String) : Run Nat := do
    if extended then
      Run.report (text ++ ": invalid signal specification")
      return 1
    else Run.fail ("invalid signal number or name: " ++ text) 2
  let sending (signal : Nat) (operands : List String) : Run Nat :=
    if operands.isEmpty then killUsage else sendAll signal operands
  match arguments with
  | [] => killUsage
  | "-l" :: operands => listSignals operands
  | "-L" :: operands => if extended then listSignals operands else Run.fail "Illegal option -L" 2
  | "-s" :: text :: operands =>
    match Signal.number? machine.dialect text with
    | some signal => sending signal operands
    | none => bad text
  | "-n" :: text :: operands =>
    if !extended then Run.fail "Illegal option -n" 2
    else
      match Signal.number? machine.dialect text with
      | some signal => sending signal operands
      | none => bad text
  | "--" :: operands => sending 15 operands
  | first :: operands =>
    match first.toList with
    | '-' :: letter :: letters =>
      let text := String.ofList (letter :: letters)
      match Signal.number? machine.dialect text with
      | some signal => sending signal operands
      | none =>
        if extended then bad text
        else Run.fail ("Illegal option -" ++ String.singleton letter) 2
    | _ => sending 15 arguments

end ManifestPin.Shell.Builtin
