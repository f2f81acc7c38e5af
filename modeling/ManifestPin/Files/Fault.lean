/-! # File faults

Why an operation on a file is refused. -/

namespace ManifestPin

/-- A reason to refuse a call that does not lie in what there is: no permission, no room, a mount
that is read-only or busy, a device that fails. -/
structure Denial where
  /-- The number of the fault. -/
  number : Nat
  /-- Its wording. -/
  text : String
  deriving DecidableEq, Repr

/-- A refusal by the operating system. -/
inductive SystemFault where
  | noEntry
  | inputOutput
  | argumentsTooLong
  | badFormat
  | permissionDenied
  | busy
  | exists
  | notDirectory
  | isDirectory
  | invalidArgument
  | nameTooLong
  | directoryNotEmpty
  | tooManyLinks
  | denied (denial : Denial)
  deriving DecidableEq, Repr

namespace SystemFault

/-- The number of a fault. -/
def number : SystemFault → Nat
  | .noEntry => 2
  | .inputOutput => 5
  | .argumentsTooLong => 7
  | .badFormat => 8
  | .permissionDenied => 13
  | .busy => 16
  | .exists => 17
  | .notDirectory => 20
  | .isDirectory => 21
  | .invalidArgument => 22
  | .nameTooLong => 36
  | .directoryNotEmpty => 39
  | .tooManyLinks => 40
  | .denied denial => denial.number

/-- The wording of a fault, without its number. -/
def text : SystemFault → String
  | .noEntry => "No such file or directory"
  | .inputOutput => "Input/output error"
  | .argumentsTooLong => "Argument list too long"
  | .badFormat => "Exec format error"
  | .permissionDenied => "Permission denied"
  | .busy => "Device or resource busy"
  | .exists => "File exists"
  | .notDirectory => "Not a directory"
  | .isDirectory => "Is a directory"
  | .invalidArgument => "Invalid argument"
  | .nameTooLong => "File name too long"
  | .directoryNotEmpty => "Directory not empty"
  | .tooManyLinks => "Too many levels of symbolic links"
  | .denied denial => denial.text

/-- The wording of a fault and its number. -/
def message (fault : SystemFault) : String :=
  fault.text ++ " (os error " ++ toString fault.number ++ ")"

end SystemFault

/-- Why a file operation fails. -/
inductive FileFault where
  /-- The operating system refuses it. -/
  | system (fault : SystemFault)
  /-- The content is not text. -/
  | notText
  /-- The path holds a NUL character. -/
  | nulInPath
  /-- The lock on what is written cannot be taken or given back. -/
  | lock
  deriving DecidableEq, Repr

/-- The wording of a file fault. A lock that fails is not explained. -/
def FileFault.message : FileFault → String
  | .system fault => fault.message
  | .notText => "stream did not contain valid UTF-8"
  | .nulInPath => "file name contained an unexpected NUL byte"
  | .lock => ""

/-- A file operation that fails at a path. -/
structure FileFailure where
  /-- The path as the message shows it. -/
  path : String
  /-- Why the operation fails. -/
  fault : FileFault
  deriving DecidableEq, Repr

/-- The wording of a failed file operation. -/
def FileFailure.message (failure : FileFailure) : String :=
  match failure.fault with
  | .lock => "Lock acquisition failed for " ++ failure.path
  | fault => "I/O error at " ++ failure.path ++ ": " ++ fault.message

end ManifestPin
