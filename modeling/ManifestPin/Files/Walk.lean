import ManifestPin.Files.Fault
import ManifestPin.Files.Path
import ManifestPin.Files.Tree

/-! # Following paths

A path is followed piece by piece from the root or the current directory. A symbolic link on the
way is replaced by the pieces of its target, a bounded number of times. -/

namespace ManifestPin

/-- Where a path leads. -/
inductive Place where
  /-- To an entry that is no link. -/
  | found (location : Location)
  /-- To a directory without an entry of the last name. -/
  | vacant (directory : Location) (name : String)
  deriving DecidableEq, Repr

/-- A name in a directory, whether or not there is an entry of that name. -/
structure Slot where
  /-- The directory. -/
  directory : Location
  /-- The name. -/
  name : String
  /-- Whether a slash follows the name. -/
  slash : Bool
  deriving DecidableEq, Repr

/-- The location of a slot. -/
def Slot.location (slot : Slot) : Location :=
  slot.name :: slot.directory

namespace Tree

/-- The greatest length of a name, in octets. -/
def nameLimit : Nat :=
  255

/-- The least length of a path that is refused, in octets. -/
def pathLimit : Nat :=
  4096

/-- How many links are followed on the way. -/
def linkLimit : Nat :=
  40

/-- Follows pieces from a location, up to the first link, from whose directory `follow` goes on
with the pieces of the target and those that are left. -/
def descend (tree : Tree) (follow : Location → List String → Except SystemFault Place) :
    Location → List String → Except SystemFault Place
  | location, [] => .ok (.found location)
  | location, piece :: rest =>
    if !tree.holdsDirectory location then .error .notDirectory
    else if piece = "" || piece = "." then tree.descend follow location rest
    else if piece = ".." then tree.descend follow location.tail rest
    else if nameLimit < piece.utf8ByteSize then .error .nameTooLong
    else
      match tree.get? (piece :: location) with
      | none => if rest.isEmpty then .ok (.vacant location piece) else .error .noEntry
      | some (.link target) =>
        follow (if Path.isRooted target then [] else location) (Path.pieces target ++ rest)
      | some _ => tree.descend follow (piece :: location) rest

/-- Follows pieces from a location through at most `links` links. -/
def walk (tree : Tree) : (links : Nat) → Location → List String → Except SystemFault Place
  | 0 => tree.descend fun _ _ => .error .tooManyLinks
  | links + 1 => tree.descend (tree.walk links)

/-- The location from which a path is followed. -/
def start (tree : Tree) (path : String) : Location :=
  if Path.isRooted path then [] else tree.here

/-- Refuses paths that no walk starts with. -/
def checkPath (path : String) : Except SystemFault Unit :=
  if path = "" then .error .noEntry
  else if pathLimit ≤ path.utf8ByteSize then .error .nameTooLong
  else .ok ()

/-- Where a path leads, all links followed. -/
def place (tree : Tree) (path : String) : Except SystemFault Place := do
  checkPath path
  tree.walk linkLimit (tree.start path) (Path.pieces path)

/-- The location of the entry that a path leads to. -/
def resolve (tree : Tree) (path : String) : Except SystemFault Location := do
  match ← tree.place path with
  | .found location => .ok location
  | .vacant .. => .error .noEntry

/-- The name that a path ends with, in the directory that the rest of the path leads to. A link of
that name is not followed. There is no slot for a path that ends with a dot, two dots or nothing. -/
def slot? (tree : Tree) (path : String) : Except SystemFault (Option Slot) := do
  checkPath path
  match (Path.pieces path).reverse.dropWhile (· = "") with
  | [] => .ok none
  | last :: before =>
    match ← tree.walk linkLimit (tree.start path) before.reverse with
    | .vacant .. => .error .noEntry
    | .found directory =>
      if !tree.holdsDirectory directory then .error .notDirectory
      else if last = "." || last = ".." then .ok none
      else .ok (some ⟨directory, last, Path.endsWithSlash path⟩)

/-- The entry that a path leads to, all links followed. -/
def entry (tree : Tree) (path : String) : Except SystemFault Entry := do
  let location ← tree.resolve path
  match tree.get? location with
  | some entry => .ok entry
  | none => .error .noEntry

/-- The entry that a path leads to, if the file system lets it be looked up. -/
def status (tree : Tree) (path : String) : Except SystemFault Entry := do
  tree.allow .status (← tree.resolve path)
  tree.entry path

/-- Whether a path leads to a directory. -/
def isDirectory (tree : Tree) (path : String) : Bool :=
  match tree.entry path with
  | .ok entry => entry.isDirectory
  | .error _ => false

/-- Whether a path leads to a regular file. -/
def isFile (tree : Tree) (path : String) : Bool :=
  match tree.entry path with
  | .ok entry => entry.isFile
  | .error _ => false

end Tree

end ManifestPin
