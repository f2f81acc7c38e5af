import ManifestPin.Text.Fields

/-! # Paths

A path is text. Its pieces stand between slashes; a piece that is empty or a single dot names
nothing, except that a path may start with a dot. -/

namespace ManifestPin.Path

/-- The pieces of a path between its slashes. -/
def pieces (path : String) : List String :=
  (Text.splitAt '/' path.toList).map String.ofList

/-- Whether a path starts at the root. -/
def isRooted (path : String) : Bool :=
  path.toList.head? == some '/'

/-- Whether a path ends with a slash. -/
def endsWithSlash (path : String) : Bool :=
  path.toList.getLast? == some '/'

/-- Whether a piece names a directory entry or the parent directory. -/
def isNaming (piece : String) : Bool :=
  piece ≠ "" && piece ≠ "."

/-- Pieces without those at the end that name nothing. -/
def dropUnnamed (pieces : List String) : List String :=
  (pieces.reverse.dropWhile fun piece => !isNaming piece).reverse

/-- The path of a first piece and those after it. An empty first piece stands for the root. -/
def ofPieces (first : String) (rest : List String) : String :=
  match rest with
  | [] => if first = "" then "/" else first
  | rest => "/".intercalate (first :: rest)

/-- The last component of a path and the path of what contains it. The root and the empty path
have none. -/
def lastComponent? (path : String) : Option (String × String) :=
  match pieces path with
  | [] => none
  | first :: rest =>
    match (dropUnnamed rest).reverse with
    | last :: before => some (ofPieces first (dropUnnamed before.reverse), last)
    | [] => if first = "" then none else some ("", first)

/-- The path without its last component. -/
def parent? (path : String) : Option String :=
  (lastComponent? path).map (·.1)

/-- The last component, when it is a name. -/
def fileName? (path : String) : Option String :=
  (lastComponent? path).bind fun last =>
    if last.2 = "." || last.2 = ".." then none else some last.2

/-- A path taken relative to a base. A rooted path stands for itself. -/
def join (base path : String) : String :=
  if isRooted path || base = "" then path
  else if endsWithSlash base then base ++ path
  else base ++ "/" ++ path

/-- The path of a sibling, or of an entry below a path that ends with no name. -/
def withFileName (path name : String) : String :=
  match lastComponent? path, fileName? path with
  | some (parent, _), some _ => join parent name
  | _, _ => join path name

/-- The paths of the directories that contain a path, innermost first, with the path itself in
front. At most `fuel` of them are listed. -/
def enclosingUpTo : Nat → String → List String
  | 0, _ => []
  | fuel + 1, path =>
    match parent? path with
    | none => [path]
    | some parent => path :: enclosingUpTo fuel parent

/-- The path and the paths of the directories that contain it, innermost first. -/
def enclosing (path : String) : List String :=
  enclosingUpTo (path.length + 1) path

end ManifestPin.Path
