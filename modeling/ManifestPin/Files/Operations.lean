import ManifestPin.Files.Walk

/-! # Operations on files

Reading, creating, moving and removing entries at the ends of paths. -/

namespace ManifestPin.Tree

/-- The content of the file that a path leads to. -/
def readOctets (tree : Tree) (path : String) : Except SystemFault ByteArray := do
  match ← tree.entry path with
  | .file content _ => .ok content
  | .directory _ => .error .isDirectory
  | .link _ => .error .tooManyLinks
  | .sink => .ok ByteArray.empty

/-- Makes the file that a path leads to ready to be written, and gives its location. A file that
is missing is created; one that is there loses its content. -/
def truncate (tree : Tree) (path : String) : Except SystemFault (Tree × Location) := do
  match ← tree.place path with
  | .vacant directory name =>
    let location := name :: directory
    tree.allow .openFile location
    .ok (tree.put location (.file ByteArray.empty fileMode), location)
  | .found location =>
    tree.allow .openFile location
    if tree.holdsDirectory location then .error .isDirectory
    else .ok (tree.update location (·.withContent ByteArray.empty), location)

/-- Writes the content of the file that a path leads to, creating it if needed. -/
def write (tree : Tree) (path : String) (content : ByteArray) : Except SystemFault Tree := do
  let (tree, location) ← tree.truncate path
  .ok (tree.update location (·.withContent content))

/-- Refuses a slot whose name is too long. -/
def checkName (slot : Slot) : Except SystemFault Unit :=
  if nameLimit < slot.name.utf8ByteSize then .error .nameTooLong else .ok ()

/-- Creates an entry at a path that leads nowhere yet. -/
def create (tree : Tree) (path : String) (entry : Entry) : Except SystemFault Tree := do
  match ← tree.slot? path with
  | none => .error .exists
  | some slot =>
    checkName slot
    match tree.get? slot.location with
    | some _ => .error .exists
    | none => .ok (tree.put slot.location entry)

/-- Creates a directory. -/
def makeDirectory (tree : Tree) (path : String) : Except SystemFault Tree := do
  match ← tree.slot? path with
  | none => .error .exists
  | some slot =>
    tree.allow .makeDirectory slot.location
    tree.create path (.directory directoryMode)

/-- Gives the file at one location the name at the end of a path as well, if that is free. -/
def linkTo (tree : Tree) (location : Location) (path : String) : Except SystemFault Tree := do
  match ← tree.slot? path with
  | none => .error .exists
  | some slot =>
    checkName slot
    match tree.get? slot.location with
    | some _ => .error .exists
    | none => .ok (tree.link location slot.location)

/-- Removes the file or link at the end of a path. -/
def removeFile (tree : Tree) (path : String) : Except SystemFault Tree := do
  match ← tree.slot? path with
  | none => .error .isDirectory
  | some slot =>
    checkName slot
    tree.allow .unlink slot.location
    match tree.get? slot.location with
    | none => .error .noEntry
    | some (.directory _) => .error .isDirectory
    | some entry =>
      if slot.slash && !entry.isDirectory then .error .notDirectory
      else .ok (tree.erase slot.location)

/-- Refuses to move an entry onto what a slot holds already. -/
def checkReplaceable (tree : Tree) (source target : Slot) (entry : Entry) :
    Except SystemFault Unit :=
  if !entry.isDirectory && (source.slash || target.slash) then .error .notDirectory
  else if entry.isDirectory && source.location ≠ target.location &&
      source.location.isSuffixOf target.location then .error .invalidArgument
  else
    match entry.isDirectory, tree.get? target.location with
    | false, some (.directory _) => .error .isDirectory
    | false, _ => .ok ()
    | true, some (.directory _) =>
      if source.location = target.location || (tree.names target.location).isEmpty then .ok ()
      else .error .directoryNotEmpty
    | true, some _ => .error .notDirectory
    | true, none => .ok ()

/-- Moves the entry at the end of a path to another path, in place of what is there. Neither last
name is followed. Between two names of one file nothing happens. -/
def move (tree : Tree) (source target : String) : Except SystemFault Tree := do
  match ← tree.slot? source, ← tree.slot? target with
  | some source, some target =>
    checkName source
    checkName target
    tree.allow .rename target.location
    match tree.get? source.location with
    | none => .error .noEntry
    | some entry =>
      tree.checkReplaceable source target entry
      if tree.shares source.location target.location then .ok tree
      else if entry.isDirectory then .ok (tree.relocate source.location target.location)
      else .ok (tree.carry source.location target.location entry)
  | _, _ => .error .busy

/-- A file operation by path. Paths with a NUL character never reach the operating system. -/
def guarded (path : String) (operation : Except SystemFault α) : Except FileFault α :=
  if path.toList.contains '\x00' then .error .nulInPath
  else operation.mapError FileFault.system

/-- The text of the file that a path leads to. -/
def readText (tree : Tree) (path : String) : Except FileFailure String :=
  match guarded path (tree.readOctets path) with
  | .error fault => .error ⟨path, fault⟩
  | .ok content =>
    match String.fromUTF8? content with
    | some text => .ok text
    | none => .error ⟨path, .notText⟩

end ManifestPin.Tree
