import ManifestPin.Shell.Run

/-! # Opening files for descriptors

Where a redirection makes a descriptor lead, and what is reported when it cannot. -/

namespace ManifestPin.Shell

namespace Machine

/-- The descriptor that a path names. -/
def descriptorOf? (path : String) : Option Nat :=
  match path with
  | "/dev/stdin" => some 0
  | "/dev/stdout" => some 1
  | "/dev/stderr" => some 2
  | path =>
    let number (start : String) : Option Nat :=
      if path.startsWith start then (path.drop start.length).toString.toNat? else none
    (number "/dev/fd/").orElse fun _ => number "/proc/self/fd/"

/-- Where a path leads, with descriptors that are named by paths. -/
def readPath (machine : Machine) (path : String) : Except SystemFault ByteArray :=
  match descriptorOf? path with
  | some descriptor =>
    if (machine.descriptors.lookup descriptor).isSome then .ok (machine.pendingAt descriptor)
    else .error .noEntry
  | none => machine.tree.readOctets (gather path)

/-- The machine with an empty file at a path, and the location of the file. -/
def createFile (machine : Machine) (path : String) : Except SystemFault (Machine × Location) :=
  let isNew := (machine.tree.entry (gather path)).toOption.isNone
  match machine.tree.truncate (gather path) with
  | .ok (tree, location) =>
    let tree := if isNew then tree.update location (·.withMode machine.newMode) else tree
    .ok ({ machine with tree }, location)
  | .error fault => .error fault

/-- The stream of the file at a location. -/
def streamAt (machine : Machine) (location : Location) (appends : Bool) : Stream :=
  match machine.tree.get? location with
  | some (.file ..) => .file location 0 appends
  | some (.directory _) => .directory
  | _ => .nothing

/-- Opens a path for a descriptor. -/
def openPath (machine : Machine) (descriptor : Nat) (mode : OpenMode) (path : String) :
    Except SystemFault Machine := do
  match descriptorOf? path with
  | some source =>
    match machine.descriptors.lookup source with
    | some index => return machine.copyStream descriptor index
    | none => throw .noEntry
  | none =>
    match mode with
    | .read =>
      let location ← machine.tree.resolve (gather path)
      return machine.openStream descriptor (machine.streamAt location false)
    | .write =>
      let (machine, location) ← machine.createFile path
      return machine.openStream descriptor (machine.streamAt location false)
    | .clobber =>
      let (machine, location) ← machine.createFile path
      return machine.openStream descriptor (machine.streamAt location false)
    | _ =>
      match machine.tree.place (gather path) with
      | .ok (.found location) =>
        if machine.tree.holdsDirectory location then throw .isDirectory
        else return machine.openStream descriptor (machine.streamAt location (mode = .append))
      | .ok (.vacant ..) =>
        let (machine, location) ← machine.createFile path
        return machine.openStream descriptor (machine.streamAt location (mode = .append))
      | .error fault => throw fault

/-- Whether a path leads to a regular file. -/
def holdsFile (machine : Machine) (path : String) : Bool :=
  machine.tree.isFile (gather path)

end Machine

namespace Run

/-- Refuses a redirection. -/
def refuseOpening (standard extended : String) : Run α := do
  if ← isExtended then fail extended 1 else fail standard 2

/-- Opens a file for a descriptor. -/
def openFile (descriptor : Nat) (mode : OpenMode) (path : String) : Run Unit := do
  let machine ← get
  if mode = .write && machine.isOn "noclobber" && machine.holdsFile path then
    refuseOpening ("cannot create " ++ path ++ ": File exists")
      (path ++ ": cannot overwrite existing file")
  match machine.openPath descriptor mode path with
  | .ok machine => set machine
  | .error fault =>
    let (action, missing) : String × String :=
      if mode = .read then ("cannot open ", "No such file")
      else ("cannot create ", "Directory nonexistent")
    let cause :=
      if fault = .noEntry || fault = .notDirectory then missing else fault.text
    refuseOpening (action ++ path ++ ": " ++ cause) (path ++ ": " ++ fault.text)

/-- Makes a descriptor lead where another one does, or nowhere. -/
def copyDescriptor (descriptor : Nat) (target : String) : Run Unit := do
  let machine ← get
  if target = "-" then set (machine.closeStream descriptor)
  else
    let moves := target.endsWith "-" && machine.dialect = .extended
    let source := if moves then (target.dropEnd 1).toString else target
    if !isNumeral source || (machine.dialect = .standard && 1 < source.length) then
      if machine.dialect = .extended then fail (target ++ ": ambiguous redirect") 1
      else
        report "Syntax error: Bad fd number"
        exit 2
        throw .leave
    match machine.descriptors.lookup (numberOf 10 source.toList) with
    | some index =>
      let machine := machine.copyStream descriptor index
      set (if moves then machine.closeStream (numberOf 10 source.toList) else machine)
    | none => refuseOpening (source ++ ": Bad file descriptor") (source ++ ": Bad file descriptor")

/-- Makes a descriptor read a text. -/
def openText (descriptor : Nat) (text : String) : Run Unit :=
  modify fun machine =>
    let (machine, index) := machine.addPipe (toOctets text)
    machine.openStream descriptor (.pipe index)

end Run

end ManifestPin.Shell
