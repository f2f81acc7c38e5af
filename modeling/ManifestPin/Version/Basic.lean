import ManifestPin.Text.Blank
import ManifestPin.Text.Fields
import ManifestPin.Version.Identifier
import ManifestPin.Version.Numeral

/-! # Versions

A version is a sequence of release numbers and the identifiers of its pre-release. A text denotes
one either as a semantic version or as numerals separated by dots. -/

namespace ManifestPin

/-- A version, with the text that denotes it. -/
structure Version where
  /-- The release numbers, most significant first. -/
  release : List Nat
  /-- The identifiers of the pre-release; none for a release proper. -/
  preRelease : List Identifier
  /-- The text, without blanks around it. -/
  text : String
  deriving Repr

/-- Why a text denotes no version. -/
inductive VersionFault where
  /-- Nothing but blanks. -/
  | empty
  /-- A component is no numeral. -/
  | component (part : String) (fault : Numeral.Fault)
  /-- A declaration without a letter or number. -/
  | emptyDeclaration
  deriving DecidableEq, Repr

/-- The wording of a fault. -/
def VersionFault.message : VersionFault → String
  | .empty => "empty version"
  | .component part fault => "component '" ++ part ++ "': " ++ fault.message
  | .emptyDeclaration => "declared version is empty"

/-- A text that denotes no version, and why. -/
structure InvalidVersion where
  /-- The text as the message shows it. -/
  version : String
  /-- Why it is refused. -/
  fault : VersionFault
  deriving DecidableEq, Repr

namespace Version

/-- A number of a semantic version's core. -/
def coreNumber? (text : List Char) : Option Nat :=
  if Identifier.isPlainNumeral text then (Numeral.read text).toOption else none

/-- The three numbers of a semantic version's core. -/
def coreNumbers? (text : List Char) : Option (List Nat) :=
  match Text.splitAt '.' text with
  | [major, minor, patch] => [major, minor, patch].mapM coreNumber?
  | _ => none

/-- The identifiers of a pre-release. -/
def identifiers? (text : List Char) : Option (List Identifier) :=
  (Text.splitAt '.' text).mapM Identifier.read?

/-- Whether a text is build metadata. -/
def isBuildMetadata (text : List Char) : Bool :=
  (Text.splitAt '.' text).all Identifier.isBuild

/-- Whether the rest of a semantic version is nothing or build metadata behind a plus sign. -/
def isBuildEnding (rest : List Char) : Bool :=
  match rest with
  | '+' :: metadata => isBuildMetadata metadata
  | rest => rest.isEmpty

/-- Reads a semantic version: three numbers, then optionally a hyphen and a pre-release, then
optionally a plus sign and build metadata, which do not count. -/
def ofSemantic? (text : List Char) : Option Version := do
  let release ← coreNumbers? (text.takeWhile fun c => c ≠ '-' && c ≠ '+')
  match text.dropWhile fun c => c ≠ '-' && c ≠ '+' with
  | '-' :: rest =>
    let preRelease ← identifiers? (rest.takeWhile (· ≠ '+'))
    if isBuildEnding (rest.dropWhile (· ≠ '+')) then
      some ⟨release, preRelease, String.ofList text⟩
    else none
  | rest => if isBuildEnding rest then some ⟨release, [], String.ofList text⟩ else none

/-- Reads one component of a dotted version. -/
def readComponent (whole part : List Char) : Except InvalidVersion Nat :=
  (Numeral.read part).mapError fun fault =>
    ⟨String.ofList whole, .component (String.ofList part) fault⟩

/-- Reads numerals separated by dots. The leftmost bad component refuses the text. -/
def ofDotted (text : List Char) : Except InvalidVersion Version := do
  let release ← (Text.splitAt '.' text).mapM (readComponent text)
  return ⟨release, [], String.ofList text⟩

/-- The version a text denotes, blanks around it ignored. -/
def parse (text : String) : Except InvalidVersion Version :=
  match Text.trim text.toList with
  | [] => .error ⟨text, .empty⟩
  | trimmed =>
    match ofSemantic? trimmed with
    | some version => .ok version
    | none => ofDotted trimmed

/-- The place of the last release number that is not zero. -/
def lastPlace? (release : List Nat) : Option Nat :=
  (List.range release.length).reverse.find? fun place => release.getD place 0 ≠ 0

/-- Release numbers without the zeros at their end. -/
def significant (release : List Nat) : List Nat :=
  release.take ((lastPlace? release).elim 0 (· + 1))

/-- How two sequences rank at the first place at which they differ, of as many places as the longer
one has; a missing number counts as zero. -/
def firstDifference (first second : List Nat) : Ordering :=
  let rank (place : Nat) : Ordering := Ord.compare (first.getD place 0) (second.getD place 0)
  (((List.range (max first.length second.length)).map rank).find? (· ≠ .eq)).getD .eq

/-- Release numbers rank by the first difference of those that are significant. -/
def compareRelease (first second : List Nat) : Ordering :=
  firstDifference (significant first) (significant second)

/-- A release proper ranks above its pre-releases, which rank by their identifiers. -/
def comparePreRelease : List Identifier → List Identifier → Ordering
  | [], [] => .eq
  | [], _ :: _ => .gt
  | _ :: _, [] => .lt
  | a :: as, b :: bs => Ord.compare (a :: as) (b :: bs)

/-- Release numbers decide, then the pre-release. -/
protected def compare (a b : Version) : Ordering :=
  (compareRelease a.release b.release).then (comparePreRelease a.preRelease b.preRelease)

instance : Ord Version := ⟨Version.compare⟩

/-- Any two versions can be compared. -/
protected def partialCompare (a b : Version) : Option Ordering :=
  some (a.compare b)

instance : LT Version := ⟨fun a b => a.partialCompare b = some .lt⟩

instance (a b : Version) : Decidable (a < b) :=
  inferInstanceAs (Decidable (a.partialCompare b = some .lt))

/-- Equal versions, however written, are the same release. -/
instance : BEq Version := ⟨fun a b => a.compare b == .eq⟩

/-- How two version texts relate. -/
inductive Agreement where
  /-- Both denote the same version. -/
  | equal
  /-- They denote different versions. -/
  | different
  deriving DecidableEq, Repr

/-- Compares two version texts. The first one that denotes no version is reported. -/
def agreement (a b : String) : Except InvalidVersion Agreement := do
  let a ← parse a
  let b ← parse b
  return if a == b then .equal else .different

/-- The versions in increasing order; equal ones keep their order. -/
def sort (versions : List Version) : List Version :=
  versions.mergeSort fun a b => (a.compare b).isLE

end Version

end ManifestPin
