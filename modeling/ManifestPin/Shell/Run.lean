import ManifestPin.Shell.Machine

/-! # Runs

A run of a shell changes its state and may stop before its end. What is wrong with a script is
reported to the error stream under the name of the shell and the line of the command. -/

namespace ManifestPin.Shell

/-- Why a run stops before its end. -/
inductive Stop where
  /-- The shell ends. -/
  | leave
  /-- An error, which ends the script of a standard shell and the line of an extended one. -/
  | fault
  /-- The function or the file that is running ends. -/
  | back
  /-- A number of enclosing loops end. -/
  | stop (loops : Nat)
  /-- An enclosing loop goes on with its next round. -/
  | again (loops : Nat)
  /-- The process ends by a signal. -/
  | killed (signal : Nat)
  /-- The process has become another program, which has ended. -/
  | replaced (ended : Ended)
  /-- The run is too deep. -/
  | exhausted
  deriving DecidableEq, Repr

/-- A run of a shell. -/
abbrev Run := ExceptT Stop Task

namespace Run

/-- Whether the shell reads the extended dialect. -/
def isExtended : Run Bool := do
  return (← get).dialect = .extended

/-- Sets the exit status. -/
def exit (status : Nat) : Run Unit :=
  modify fun machine => machine.withStatus status

/-- A message of a shell: its name, the line and the command in front. -/
def message (machine : Machine) (text : String) : String :=
  let caller : String :=
    match machine.caller with
    | some caller => caller ++ ": "
    | none => ""
  match machine.dialect with
  | .standard => machine.name ++ ": " ++ toString machine.line ++ ": " ++ caller ++ text
  | .extended =>
    let place : String :=
      match machine.file with
      | some file => file
      | none => if machine.functionLine.isSome then "environment" else machine.name
    place ++ ": line " ++ toString machine.line ++ ": " ++ caller ++ text

/-- Reports a message. -/
def report (text : String) : Run Unit := do
  let machine ← get
  Task.complain (message machine text)

/-- Reports an error and stops. -/
def fail (text : String) (status : Nat) : Run α := do
  report text
  exit status
  throw .fault

/-- Moves on to a line. In the extended dialect the lines of commands in words are counted from the
line of the command. -/
def atLine (line : Nat) : Run Unit :=
  modify fun machine =>
    match machine.dialect with
    | .standard => { machine with line }
    | .extended => { machine with line := (line + machine.lineShift).toNat }

/-- Does something under the name of a command, for messages. -/
def calling (caller : Option String) (action : Run α) : Run α := fun machine =>
  match action { machine with caller } with
  | (result, after) => (result, { after with caller := machine.caller })

/-- Does something and gives what became of it. -/
def attempt (action : Run α) : Run (Except Stop α) := fun machine =>
  match action.run machine with
  | (result, after) => (.ok result, after)

/-- Repeats a step until it gives a result. -/
@[specialize] def loop {σ α : Type} (step : σ → Run (σ ⊕ α)) : Nat → σ → Run α
  | 0, _ => throw .exhausted
  | fuel + 1, state => do
    match ← step state with
    | .inl state => loop step fuel state
    | .inr result => return result

/-- How many steps a loop may take. -/
def patience : Nat :=
  0x10000000

/-- Refuses to set a variable that is read-only. In the extended dialect only the commands that
declare variables stand in front of the message. -/
def refuseReadOnly (name : String) : Run α := do
  let machine ← get
  match machine.dialect with
  | .standard => fail (name ++ ": is read only") 2
  | .extended =>
    let declares := machine.caller.any ["declare", "local", "typeset"].contains
    let shown := if declares then machine else { machine with caller := none }
    Task.complain (message shown (name ++ ": readonly variable"))
    exit 1
    throw .fault

/-- Assigns a variable, unless it is read-only. -/
def assign (name text : String) : Run Unit := do
  let machine ← get
  match machine.held? name with
  | some held =>
    if held.readOnly then refuseReadOnly name
    else set (machine.assign name text)
  | none => set (machine.assign name text)

end Run

end ManifestPin.Shell
