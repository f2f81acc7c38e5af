import ManifestPin.Files.Replace
import ManifestPin.Shell.Utility.Basic

/-! # Utilities on paths

The programs that take paths apart and follow them. -/

namespace ManifestPin.Shell.Utility

/-- A path without slashes at its end, unless it is made of slashes only. -/
def trimSlashes (path : String) : String :=
  let kept := path.toList.reverse.dropWhile (· = '/')
  if kept.isEmpty && path ≠ "" then "/" else String.ofList kept.reverse

/-- The last name of a path. -/
def lastName (path : String) : String :=
  let trimmed := trimSlashes path
  if trimmed = "/" then "/" else (piecesAt '/' trimmed).getLast?.getD ""

/-- A path without its last name. -/
def parentPath (path : String) : String :=
  let trimmed := trimSlashes path
  let before := trimmed.toList.reverse.dropWhile (· ≠ '/')
  if before.isEmpty then "."
  else trimSlashes (String.ofList before.reverse)

/-- Writes the last names of paths. -/
def basename : Utility :=
  withOptions
    { letters := "as:z", inOrder := true
      names := [("multiple", 'a'), ("suffix", 's'), ("zero", 'z')] } 1
    fun taken => do
      let shown (ending path : String) : String :=
        let name := lastName path
        if name ≠ ending && ending ≠ "" && name.endsWith ending then
          (name.dropEnd ending.length).toString
        else name
      let lineEnd := if taken.has 'z' then "\x00" else "\n"
      if taken.has 'a' || taken.has 's' then
        if taken.operands.isEmpty then return ← refuseUsage "missing operand" 1
        for path in taken.operands do
          Task.print (shown ((taken.value? 's').getD "") path ++ lineEnd)
        return 0
      match taken.operands with
      | [] => refuseUsage "missing operand" 1
      | [path] =>
        Task.print (shown "" path ++ lineEnd)
        return 0
      | [path, ending] =>
        Task.print (shown ending path ++ lineEnd)
        return 0
      | _ :: _ :: extra :: _ => refuseUsage ("extra operand " ++ quote extra) 1

/-- Writes paths without their last names. -/
def dirname : Utility :=
  withOptions { letters := "z", names := [("zero", 'z')] } 1 fun taken => do
    if taken.operands.isEmpty then return ← refuseUsage "missing operand" 1
    for path in taken.operands do
      Task.print (parentPath path ++ if taken.has 'z' then "\x00" else "\n")
    return 0

/-- Writes the path of the current directory. -/
def pwd : Utility :=
  withOptions { letters := "LP" } 1 fun _ => do
    Task.print ((← get).directory ++ "\n")
    return 0

/-- The text of the location of an entry. -/
def locationText (location : Location) : String :=
  "/" ++ "/".intercalate (location.reverse.map spread)

/-- The location that a path leads to, where its last name need not be there. -/
def canonical? (machine : Machine) (path : String) : Except SystemFault Location :=
  match machine.tree.place (gather path) with
  | .ok (.found location) => .ok location
  | .ok (.vacant directory name) => .ok (name :: directory)
  | .error fault => .error fault

/-- Writes where links lead. -/
def readlink : Utility :=
  withOptions
    { letters := "femnqsvz", names := [("canonicalize", 'f'), ("canonicalize-existing", 'e'),
        ("canonicalize-missing", 'm'), ("no-newline", 'n'), ("verbose", 'v')] } 1
    fun taken => do
      if taken.operands.isEmpty then return ← refuseUsage "missing operand" 1
      let machine ← get
      let target? (path : String) : Except SystemFault String :=
        if taken.has 'e' then (machine.tree.resolve (gather path)).map locationText
        else if taken.has 'f' || taken.has 'm' then (canonical? machine path).map locationText
        else
          match machine.tree.slot? (gather path) with
          | .ok (some slot) =>
            match machine.tree.get? slot.location with
            | some (.link target) => .ok (spread target)
            | some _ => .error .invalidArgument
            | none => .error .noEntry
          | .ok none => .error .invalidArgument
          | .error fault => .error fault
      forEach taken.operands fun path => do
        match target? path with
        | .ok target =>
          let bare := taken.has 'n' && taken.operands.length = 1
          Task.print (target ++ if bare then "" else "\n")
          return 0
        | .error fault =>
          if taken.has 'v' then
            report (quoteIfActive path ++ ": " ++ fault.text)
          return 1

/-- Writes the paths of entries from the root, without links. -/
def realpath : Utility :=
  withOptions
    { letters := "emLPqsz", names := [("canonicalize-existing", 'e'),
        ("canonicalize-missing", 'm'), ("quiet", 'q')] } 1
    fun taken => do
      if taken.operands.isEmpty then return ← refuseUsage "missing operand" 1
      let machine ← get
      forEach taken.operands fun path => do
        let result :=
          if taken.has 'e' then machine.tree.resolve (gather path) else canonical? machine path
        match result with
        | .ok location =>
          Task.print (locationText location ++ "\n")
          return 0
        | .error fault =>
          if !taken.has 'q' then
            report (quoteIfActive path ++ ": " ++ fault.text)
          return 1

end ManifestPin.Shell.Utility
