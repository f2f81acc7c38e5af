import ManifestPin.Shell.Builtin.Flow

/-! # Remembered directories

Commands that change the current directory and remember those that it was before, in a stack. -/

namespace ManifestPin.Shell.Builtin

/-- A path with a tilde in place of the home directory. -/
def withTilde (machine : Machine) (path : String) : String :=
  match machine.text? "HOME" with
  | some home =>
    if home = "" || home = "/" then path
    else if path = home then "~"
    else if path.startsWith (home ++ "/") then "~" ++ (path.drop home.length).toString
    else path
  | none => path

/-- The current directory and those that are remembered. -/
def directoryStack (machine : Machine) : List String :=
  machine.here :: machine.directories

/-- Writes the stack on one line. -/
def printStack : Run Unit := do
  let machine ← get
  print (" ".intercalate ((directoryStack machine).map (withTilde machine)) ++ "\n")

/-- The index in the stack that an argument names, counted from the top or, behind a hyphen, from
the bottom. -/
inductive StackIndex where
  | top (index : Nat)
  | bottom (index : Nat)

namespace StackIndex

/-- The index that an argument names. -/
def ofText? (text : String) : Option StackIndex :=
  match text.toList with
  | '+' :: digits => if isNumeral (String.ofList digits) then some (.top (numberOf 10 digits)) else none
  | '-' :: digits =>
    if isNumeral (String.ofList digits) then some (.bottom (numberOf 10 digits)) else none
  | _ => none

/-- The place in a stack of a size. -/
def place? (size : Nat) : StackIndex → Option Nat
  | .top index => if index < size then some index else none
  | .bottom index => if index < size then some (size - 1 - index) else none

end StackIndex

/-- Refuses an index that the stack does not have. -/
def refuseIndex (text : String) : Run Nat := do
  if (← get).directories.isEmpty then Run.report "directory stack empty"
  else Run.report (text ++ ": directory stack index out of range")
  return 1

/-- Refuses an argument, and tells how the command is used. -/
def refuseArgument (complaint usage : String) : Run Nat := do
  Run.report complaint
  task (Task.complain usage)
  return 2

/-- Moves to a directory and remembers others. -/
def moveAndRemember (path : String) (directories : List String) : Run Nat := do
  match ← moveTo false path with
  | some fault =>
    Run.report (path ++ ": " ++ fault.text)
    return 1
  | none =>
    modify fun machine => { machine with directories }
    printStack
    return 0

/-- Moves to a directory and remembers the current one, or turns the stack. -/
def pushDirectory : Builtin := fun arguments => do
  let stays := arguments.head? = some "-n"
  let operands := if stays then arguments.drop 1 else arguments
  let operands := if operands.head? = some "--" then operands.drop 1 else operands
  let machine ← get
  let stack := directoryStack machine
  match operands with
  | [] =>
    match machine.directories with
    | [] =>
      Run.report "no other directory"
      return 1
    | next :: rest =>
      if stays then return 0 else moveAndRemember next (machine.here :: rest)
  | _ :: _ :: _ =>
    Run.report "too many arguments"
    return 1
  | [word] =>
    match StackIndex.ofText? word with
    | some index =>
      match index.place? stack.length with
      | none => refuseIndex word
      | some 0 =>
        printStack
        return 0
      | some place =>
        let turned := stack.drop place ++ stack.take place
        match turned with
        | top :: rest => if stays then return 0 else moveAndRemember top rest
        | [] => return 0
    | none =>
      if 1 < word.length && word.startsWith "-" then
        refuseArgument (word ++ ": invalid number") "pushd: usage: pushd [-n] [+N | -N | dir]"
      else if stays then
        set { machine with directories := word :: machine.directories }
        printStack
        return 0
      else moveAndRemember word stack

/-- Moves back to the directory that is remembered last, or forgets another one. -/
def popDirectory : Builtin := fun arguments => do
  let stays := arguments.head? = some "-n"
  let operands := if stays then arguments.drop 1 else arguments
  let machine ← get
  let stack := directoryStack machine
  let forget (place : Nat) : Run Nat := do
    set { machine with directories := (stack.eraseIdx place).drop 1 }
    printStack
    return 0
  match operands with
  | [] =>
    match machine.directories with
    | [] =>
      Run.report "directory stack empty"
      return 1
    | next :: rest => if stays then forget 1 else moveAndRemember next rest
  | word :: _ =>
    match StackIndex.ofText? word with
    | none =>
      let complaint :=
        if word.startsWith "-" then word ++ ": invalid number" else word ++ ": invalid argument"
      refuseArgument complaint "popd: usage: popd [-n] [+N | -N]"
    | some index =>
      match machine.directories, index.place? stack.length with
      | [], _ => refuseIndex word
      | _, none => refuseIndex word
      | next :: rest, some 0 =>
        if stays then forget 1 else moveAndRemember next rest
      | _, some place => forget place

/-- Shows the stack, or clears it. -/
def showDirectories : Builtin := fun arguments => do
  let machine ← get
  let isIndex (word : String) : Bool := (StackIndex.ofText? word).isSome
  let letters := (arguments.filter fun word => word.startsWith "-" && !isIndex word).flatMap
    fun word => word.toList.drop 1
  match letters.find? fun c => !("clpv".toList.contains c) with
  | some c =>
    refuseArgument ("-" ++ String.singleton c ++ ": invalid number")
      "dirs: usage: dirs [-clpv] [+N] [-N]"
  | none =>
    if letters.contains 'c' then
      set { machine with directories := [] }
      return 0
    let shown (path : String) : String :=
      if letters.contains 'l' then path else withTilde machine path
    let stack := (directoryStack machine).map shown
    match arguments.find? isIndex with
    | some word =>
      match (StackIndex.ofText? word).bind (·.place? stack.length) with
      | some place =>
        print (stack.getD place "" ++ "\n")
        return 0
      | none => refuseIndex word
    | none =>
      if letters.contains 'v' then
        print (asLines (stack.zipIdx.map fun (path, index) =>
          padStart 2 ' ' (toString index) ++ "  " ++ path))
      else if letters.contains 'p' then print (asLines stack)
      else print (" ".intercalate stack ++ "\n")
      return 0

end ManifestPin.Shell.Builtin
