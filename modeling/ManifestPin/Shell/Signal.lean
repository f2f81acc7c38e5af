import ManifestPin.Shell.Script

/-! # Signals

The names, numbers and descriptions of the signals that processes send to each other. -/

namespace ManifestPin.Shell.Signal

/-- The names of the signals, by their numbers from one on, and what a shell says about a process
that one of them ended. -/
def table : List (String × String) :=
  [("HUP", "Hangup"), ("INT", "Interrupt"), ("QUIT", "Quit"), ("ILL", "Illegal instruction"),
    ("TRAP", "Trace/breakpoint trap"), ("ABRT", "Aborted"), ("BUS", "Bus error"),
    ("FPE", "Floating point exception"), ("KILL", "Killed"), ("USR1", "User defined signal 1"),
    ("SEGV", "Segmentation fault"), ("USR2", "User defined signal 2"), ("PIPE", "Broken pipe"),
    ("ALRM", "Alarm clock"), ("TERM", "Terminated"), ("STKFLT", "Stack fault"),
    ("CHLD", "Child exited"), ("CONT", "Continued"), ("STOP", "Stopped (signal)"),
    ("TSTP", "Stopped"), ("TTIN", "Stopped (tty input)"), ("TTOU", "Stopped (tty output)"),
    ("URG", "Urgent I/O condition"), ("XCPU", "CPU time limit exceeded"),
    ("XFSZ", "File size limit exceeded"), ("VTALRM", "Virtual timer expired"),
    ("PROF", "Profiling timer expired"), ("WINCH", "Window changed"), ("IO", "I/O possible"),
    ("PWR", "Power failure"), ("SYS", "Bad system call")]

/-- The number that follows that of the last signal. -/
def count : Nat :=
  65

/-- The first and the last number of the signals for all purposes. -/
def firstFree : Nat :=
  34

/-- The name of a signal. -/
def name (number : Nat) : String :=
  if number = 0 then "EXIT"
  else
    match table[number - 1]? with
    | some (name, _) => name
    | none =>
      if number < firstFree then toString number
      else if number = firstFree then "RTMIN"
      else if number < 50 then "RTMIN+" ++ toString (number - firstFree)
      else if number < 64 then "RTMAX-" ++ toString (64 - number)
      else "RTMAX"

/-- The name of a signal in a dialect. The standard one has no name for the sixteenth. -/
def nameIn (dialect : Dialect) (number : Nat) : String :=
  match dialect with
  | .standard => if number = 16 then "16" else name number
  | .extended =>
    if number = 0 || (31 < number && number < firstFree) then name number else "SIG" ++ name number

/-- What a shell says about a process that a signal ended. -/
def description (number : Nat) : String :=
  match table[number - 1]? with
  | some (_, text) => text
  | none =>
    if number < firstFree then "Unknown signal " ++ toString number
    else "Real-time signal " ++ toString (number - firstFree)

/-- The number of a signal. The extended dialect takes names also in small letters and with the
common beginning. -/
def number? (dialect : Dialect) (text : String) : Option Nat :=
  if isNumeral text then
    let number := numberOf 10 text.toList
    if number < count then some number else none
  else
    let wanted := text.map Char.toUpper
    let wanted :=
      if dialect = .extended && wanted.startsWith "SIG" then (wanted.drop 3).toString else wanted
    (List.range count).find? fun number => name number = wanted

/-- Signals that do nothing to a process that has no commands for them. -/
def isHarmless (number : Nat) : Bool :=
  number = 0 || number = 17 || number = 18 || number = 23 || number = 28 ||
    (19 ≤ number && number ≤ 22)

end ManifestPin.Shell.Signal
