import ManifestPin.Files.Operations

/-! # Replacing files

A file is replaced by writing a temporary file beside it and moving that file into its place, so
that no reader ever sees a part of the new content. -/

namespace ManifestPin

/-- What replacing a file came to. -/
structure Replacement where
  /-- The tree afterwards. -/
  tree : Tree
  /-- Whether the file was replaced. -/
  result : Except FileFailure Unit
  /-- The temporary file that could not be removed, and why. -/
  leftover : Option FileFailure

namespace Tree

/-- Creates the directories of a path, innermost first in the list, and keeps those that are there.
The directories created before a failure remain. -/
def makeDirectories (tree : Tree) : List String → Tree × Except FileFault Unit
  | [] => (tree, .ok ())
  | path :: above =>
    if path = "" then (tree, .ok ())
    else
      match guarded path (tree.makeDirectory path) with
      | .ok tree => (tree, .ok ())
      | .error (.system .noEntry) =>
        match tree.makeDirectories above with
        | (tree, .error fault) => (tree, .error fault)
        | (tree, .ok ()) =>
          match guarded path (tree.makeDirectory path) with
          | .ok tree => (tree, .ok ())
          | .error fault => (tree, if tree.isDirectory path then .ok () else .error fault)
      | .error fault => (tree, if tree.isDirectory path then .ok () else .error fault)

/-- Creates the directory of a path and those above it. -/
def makeParent (tree : Tree) (path : String) : Tree × Except FileFailure Unit :=
  match Path.parent? path with
  | none => (tree, .ok ())
  | some parent =>
    let (tree, result) := tree.makeDirectories (Path.enclosing parent)
    (tree, result.mapError fun fault => ⟨parent, fault⟩)

/-- The path of the temporary file for a path. The tag tells apart those who write at once. -/
def temporary (tag path : String) : String :=
  Path.withFileName path ("." ++ (Path.fileName? path).getD "" ++ "." ++ tag ++ ".tmp")

/-- Gives the temporary file the permission bits of the file that it is to replace, if there is
one. -/
def takeMode (tree : Tree) (location : Location) (temporary path : String) :
    Except FileFailure Tree :=
  match guarded path (tree.status path) with
  | .ok entry =>
    match tree.allow .setMode location with
    | .ok () => .ok (tree.update location (·.withMode entry.mode))
    | .error fault => .error ⟨temporary, .system fault⟩
  | .error (.system .noEntry) => .ok tree
  | .error fault => .error ⟨path, fault⟩

/-- Writes octets to an empty file. What fits in a file system without room for all is written
before that is refused. -/
def writeAll (tree : Tree) (location : Location) (content : ByteArray) :
    Tree × Except SystemFault Unit :=
  match (tree.refusals.room location).filter fun (room, _) => room < content.size with
  | some (room, denial) =>
    (tree.update location (·.withContent (content.extract 0 room)), .error (.denied denial))
  | none => (tree.update location (·.withContent content), .ok ())

/-- Makes the content of a file outlast a crash. A device has none. -/
def sync (tree : Tree) (location : Location) : Except SystemFault Unit := do
  tree.allow .sync location
  match tree.get? location with
  | some .sink => .error .invalidArgument
  | _ => .ok ()

/-- Writes the temporary file under a lock, with the permission bits of the file that it is to
replace. A failure leaves it as far as it was written. -/
def fill (tree : Tree) (location : Location) (temporary path : String) (content : ByteArray) :
    Tree × Except FileFailure Unit :=
  match tree.allow .lock location with
  | .error _ => (tree, .error ⟨path, .lock⟩)
  | .ok () =>
    match tree.takeMode location temporary path with
    | .error failure => (tree, .error failure)
    | .ok locked =>
      match locked.writeAll location content with
      | (written, .error fault) => (written, .error ⟨temporary, .system fault⟩)
      | (written, .ok ()) =>
        match written.sync location with
        | .error fault => (written, .error ⟨temporary, .system fault⟩)
        | .ok () =>
          match written.allow .unlock location with
          | .error _ => (written, .error ⟨path, .lock⟩)
          | .ok () => (written, .ok ())

/-- Removes a temporary file after a failure. -/
def abandon (tree : Tree) (temporary : String) (failure : FileFailure) : Replacement :=
  match guarded temporary (tree.removeFile temporary) with
  | .ok tree => { tree, result := .error failure, leftover := none }
  | .error fault => { tree, result := .error failure, leftover := some ⟨temporary, fault⟩ }

/-- Replaces the file at a path, or creates it and the directories it needs. A link at the path is
itself replaced. After a failure nothing but new directories remains, unless the temporary file
cannot be removed. -/
def replace (tree : Tree) (tag path : String) (content : ByteArray) : Replacement :=
  match tree.makeParent path with
  | (tree, .error failure) => { tree, result := .error failure, leftover := none }
  | (tree, .ok ()) =>
    let temporary := temporary tag path
    match guarded temporary (tree.truncate temporary) with
    | .error fault => { tree, result := .error ⟨temporary, fault⟩, leftover := none }
    | .ok (opened, location) =>
      match opened.fill location temporary path content with
      | (filled, .error failure) => filled.abandon temporary failure
      | (filled, .ok ()) =>
        match guarded path (filled.move temporary path) with
        | .ok tree => { tree, result := .ok (), leftover := none }
        | .error fault => filled.abandon temporary ⟨path, fault⟩

/-- Replaces the text of the file at a path. -/
def replaceText (tree : Tree) (tag path content : String) : Replacement :=
  tree.replace tag path content.toUTF8

end Tree

end ManifestPin
