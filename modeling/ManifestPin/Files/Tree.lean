import ManifestPin.Files.Fault

/-! # File trees

A file tree holds an entry at each of its locations. A file may have several names: writing at one
location changes those that share its file, and no other. -/

namespace ManifestPin

/-- The names on the way from the root to an entry, innermost first. The root has none. -/
abbrev Location := List String

/-- What a location holds. -/
inductive Entry where
  /-- A regular file. -/
  | file (content : ByteArray) (mode : Nat)
  /-- A directory; its entries are at the locations below it. -/
  | directory (mode : Nat)
  /-- A symbolic link. -/
  | link (target : String)
  /-- A device that is always empty and discards what is written to it. -/
  | sink

namespace Entry

/-- Whether an entry is a directory. -/
def isDirectory : Entry → Bool
  | .directory _ => true
  | _ => false

/-- Whether an entry is a regular file. -/
def isFile : Entry → Bool
  | .file .. => true
  | _ => false

/-- The permission bits of an entry. -/
def mode : Entry → Nat
  | .file _ mode => mode
  | .directory mode => mode
  | .link _ => 0o777
  | .sink => 0o666

/-- An entry with other permission bits. Links and devices keep theirs. -/
def withMode (mode : Nat) : Entry → Entry
  | .file content _ => .file content mode
  | .directory _ => .directory mode
  | entry => entry

/-- An entry after its content has been written. Only regular files hold any. -/
def withContent (content : ByteArray) : Entry → Entry
  | .file _ mode => .file content mode
  | entry => entry

/-- Whether two entries are of a kind that one file has under all its names. -/
def isLike : Entry → Entry → Bool
  | .file .., .file .. => true
  | .link target, .link other => target = other
  | .sink, .sink => true
  | _, _ => false

end Entry

/-- The permission bits of a new file. -/
def fileMode : Nat :=
  0o644

/-- The permission bits of a new directory. -/
def directoryMode : Nat :=
  0o755

/-- A call that makes, looks up, writes, moves or removes an entry. -/
inductive Call where
  | makeDirectory
  | openFile
  | status
  | lock
  | setMode
  | sync
  | unlock
  | rename
  | unlink
  deriving DecidableEq, Repr

/-- What a file system refuses whatever there is: calls at locations, and writing more octets to a
file than there is room for. -/
structure Refusals where
  /-- Why a call is refused at a location. -/
  calls : Call → Location → Option Denial
  /-- How many octets a file at a location takes, and why it takes no more. -/
  room : Location → Option (Nat × Denial)

/-- No refusals. -/
def Refusals.none : Refusals :=
  ⟨fun _ _ => .none, fun _ => .none⟩

/-- A file tree and the directory that relative paths start from. -/
structure Tree where
  /-- The entry at each location that holds one. The root is not listed. -/
  entries : List (Location × Entry)
  /-- The current directory. -/
  here : Location
  /-- The numbers of the files that have more than one name, at each of their locations. -/
  nodes : List (Location × Nat) := []
  /-- What the file system refuses. -/
  refusals : Refusals := .none

namespace Tree

/-- The entry at a location. The root is always a directory. -/
def get? (tree : Tree) (location : Location) : Option Entry :=
  if location = [] then some (.directory directoryMode)
  else (tree.entries.find? fun held => held.1 = location).map (·.2)

/-- Whether a location holds a directory. -/
def holdsDirectory (tree : Tree) (location : Location) : Bool :=
  (tree.get? location).any Entry.isDirectory

/-- The number of the file at a location, if it may have other names. -/
def node? (tree : Tree) (location : Location) : Option Nat :=
  (tree.nodes.find? fun held => held.1 = location).map (·.2)

/-- Whether two locations are names of one file. -/
def shares (tree : Tree) (first second : Location) : Bool :=
  first = second ||
    (tree.node? first).isSome && tree.node? first = tree.node? second &&
      (tree.get? first).any fun entry => (tree.get? second).any entry.isLike

/-- Refuses a call at a location if the file system does. -/
def allow (tree : Tree) (call : Call) (location : Location) : Except SystemFault Unit :=
  match tree.refusals.calls call location with
  | some denial => .error (.denied denial)
  | none => .ok ()

/-- The tree without what a location holds. -/
def erase (tree : Tree) (location : Location) : Tree :=
  { tree with
    entries := tree.entries.filter fun held => held.1 ≠ location
    nodes := tree.nodes.filter fun held => held.1 ≠ location }

/-- The tree with a new entry at a location, in place of what was there. -/
def put (tree : Tree) (location : Location) (entry : Entry) : Tree :=
  let rest := tree.erase location
  { rest with entries := (location, entry) :: rest.entries }

/-- The tree with the entry at a location changed, if there is one, under all names of its file. -/
def update (tree : Tree) (location : Location) (change : Entry → Entry) : Tree :=
  let changed (held : Location × Entry) : Location × Entry :=
    if tree.shares location held.1 then (held.1, change held.2) else held
  { tree with entries := tree.entries.map changed }

/-- The tree without a location and everything below it. -/
def eraseBelow (tree : Tree) (location : Location) : Tree :=
  { tree with
    entries := tree.entries.filter fun held => !location.isSuffixOf held.1
    nodes := tree.nodes.filter fun held => !location.isSuffixOf held.1 }

/-- A location after what another one holds was moved. -/
def relocated (source target location : Location) : Location :=
  if source.isSuffixOf location then
    location.take (location.length - source.length) ++ target
  else location

/-- The tree with a location and everything below it moved to another location. -/
def relocate (tree : Tree) (source target : Location) : Tree :=
  let rest := tree.eraseBelow target
  { rest with
    entries := rest.entries.map fun held => (relocated source target held.1, held.2)
    nodes := rest.nodes.map fun held => (relocated source target held.1, held.2) }

/-- The tree with an entry moved from one location to another, in place of what was there. It stays
the file that it was. -/
def carry (tree : Tree) (source target : Location) (entry : Entry) : Tree :=
  let rest := (tree.erase source).put target entry
  { rest with nodes := ((tree.node? source).map (target, ·)).toList ++ rest.nodes }

/-- The tree with the file at one location under another name as well. -/
def link (tree : Tree) (location other : Location) : Tree :=
  match tree.get? location with
  | none => tree
  | some entry =>
    let rest := tree.put other entry
    let fresh := (tree.nodes.map (·.2)).foldl max 0 + 1
    let node := (tree.node? location).getD fresh
    { rest with nodes := (other, node) :: (location, node) :: rest.nodes }

/-- The names of the entries directly below a location. -/
def names (tree : Tree) (location : Location) : List String :=
  tree.entries.filterMap fun held =>
    match held.1 with
    | [] => none
    | name :: above => if above = location then some name else none

/-- Dropping what is listed for one location does not change what is found for another. -/
theorem find?_filter_ne {α : Type} (entries : List (Location × α)) {location other : Location}
    (apart : location ≠ other) :
    (entries.filter fun held => held.1 ≠ location).find? (fun held => held.1 = other) =
      entries.find? fun held => held.1 = other := by
  induction entries with
  | nil => rfl
  | cons held rest ih =>
    by_cases kept : held.1 = location
    · simp [kept, apart] at ih ⊢
      exact ih
    · by_cases same : held.1 = other
      · simp [same, ne_comm.mp apart]
      · simpa [kept, same] using ih

/-- Reading where an entry was put gives the entry. -/
theorem get?_put_self (tree : Tree) {location : Location} (entry : Entry) (below : location ≠ []) :
    (tree.put location entry).get? location = some entry := by
  simp [get?, put, below]

/-- Putting an entry changes no other location. -/
theorem get?_put_of_ne (tree : Tree) {location other : Location} (entry : Entry)
    (apart : location ≠ other) : (tree.put location entry).get? other = tree.get? other := by
  unfold get? put erase
  split
  · rfl
  · simp only [List.find?_cons, apart, decide_false]
    exact congrArg _ (find?_filter_ne tree.entries apart)

/-- Nothing is left where an entry was erased. -/
theorem get?_erase_self (tree : Tree) {location : Location} (below : location ≠ []) :
    (tree.erase location).get? location = none := by
  simp [get?, erase, below]

/-- Erasing an entry changes no other location. -/
theorem get?_erase_of_ne (tree : Tree) {location other : Location} (apart : location ≠ other) :
    (tree.erase location).get? other = tree.get? other := by
  unfold get? erase
  split
  · rfl
  · exact congrArg _ (find?_filter_ne tree.entries apart)

end Tree

end ManifestPin
