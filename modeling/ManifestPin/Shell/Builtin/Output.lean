import ManifestPin.Shell.Builtin.Basic
import ManifestPin.Shell.Format
import ManifestPin.Shell.Test

/-! # Commands that print and test

The commands of the shell that write texts, and those that tell by their status whether a condition
holds. -/

namespace ManifestPin.Shell.Builtin

/-- Writes a text, and tells by the status whether there is an output. -/
def emit (name text : String) : Run Nat := do
  if ← task Task.hasOutput then
    print text
    return 0
  else if text = "" then return 0
  else
    if ← Run.isExtended then Run.report "write error: Bad file descriptor"
    else Run.report (name ++ ": I/O error")
    return 1

/-- Whether a word is an option of the extended `echo`. -/
def isEchoOption (word : String) : Bool :=
  match word.toList with
  | '-' :: letter :: letters => (letter :: letters).all fun c => c = 'n' || c = 'e' || c = 'E'
  | _ => false

/-- The words of the standard `echo` with blanks between them, and whether an escape ends all
output. -/
def echoWords : List String → String × Bool
  | [] => ("", false)
  | word :: rest =>
    let (text, stopped) := Format.unescapeText .standard word
    if stopped || rest.isEmpty then (text, stopped)
    else
      let (more, stopped) := echoWords rest
      (text ++ " " ++ more, stopped)

/-- Writes words with blanks between them and a line end. -/
def echo : Builtin := fun words => do
  match (← get).dialect with
  | .standard =>
    let silent := words.head? = some "-n"
    let (text, stopped) := echoWords (if silent then words.tail else words)
    emit "echo" (if silent || stopped then text else text ++ "\n")
  | .extended =>
    let letters := (words.takeWhile isEchoOption).flatMap String.toList
    let text := " ".intercalate (words.dropWhile isEchoOption)
    let escapes := (letters.filter fun c => c = 'e' || c = 'E').getLast? = some 'e'
    let (text, stopped) :=
      if escapes then Format.unescapeText .extended text else (text, false)
    emit "echo" (if stopped || letters.contains 'n' then text else text ++ "\n")

/-- Writes what printing came to. The extended shell writes whole lines before it complains, the
standard one only complains first. -/
def emitPrinted (printer : Printer) (printed : Format.Printed) : Run Nat := do
  let mut waiting := ""
  for output in printed.outputs do
    match output with
    | .text text => waiting := waiting ++ text
    | .complaint complaint =>
      if printer = .extended then
        let rest := String.ofList ((waiting.toList.reverse.takeWhile (· ≠ '\n')).reverse)
        let _ ← emit "printf" (waiting.dropEnd rest.length).toString
        waiting := rest
      Run.report (complaint.message printer)
  emit "printf" waiting

/-- Writes a format with its arguments. -/
def printf : Builtin := fun arguments => do
  let extended ← Run.isExtended
  let (found, arguments) ← options (if extended then "v:" else "") arguments
  match arguments with
  | [] =>
    if extended then
      task (Task.complain "printf: usage: printf [-v var] format [arguments]")
      return 2
    else Run.fail "usage: printf format [arg ...]" 2
  | format :: arguments =>
    let printer : Printer := if extended then .extended else .standard
    let printed := Format.print printer format arguments
    let status ← (match found.lookup 'v' with
      | some name => do
        for complaint in printed.complaints do
          Run.report (complaint.message printer)
        Run.assign name printed.text
        return 0
      | none => emitPrinted printer printed)
    if printed.complaints.isEmpty then return status
    else if printed.complaints.any Format.Complaint.isFatal then return if extended then 1 else 2
    else return 1

/-- The status of a judgement. -/
def verdict (judged : Except String Bool) : Run Nat := do
  match judged with
  | .ok holds => return if holds then 0 else 1
  | .error complaint =>
    Run.report complaint
    return 2

/-- Tells whether a condition holds. -/
def test : Builtin := fun words => do
  verdict (Test.judge (← get) words)

/-- Tells whether a condition between brackets holds. -/
def bracket : Builtin := fun words => do
  verdict (Test.judgeBracketed (← get) words)

/-- Writes the path of the current directory. -/
def pwd : Builtin := fun arguments => do
  let (found, _) ← options "LP" arguments
  let machine ← get
  emit "pwd" ((if has found 'P' then machine.directory else machine.here) ++ "\n")

end ManifestPin.Shell.Builtin
