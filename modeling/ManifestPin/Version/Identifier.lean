/-! # Pre-release identifiers

The dot-separated identifiers that follow the core of a semantic version, and their precedence. -/

namespace ManifestPin

/-- An identifier of a pre-release. -/
inductive Identifier where
  /-- Digits only. -/
  | numeric (value : Nat)
  /-- At least one letter or hyphen. -/
  | textual (text : String)
  deriving DecidableEq, Repr

namespace Identifier

/-- The characters of identifiers: ASCII letters, digits and the hyphen. -/
def isAllowed (c : Char) : Bool :=
  c.isAlphanum || c = '-'

/-- Digits without a superfluous zero in front. -/
def isPlainNumeral (text : List Char) : Bool :=
  match text with
  | [] => false
  | '0' :: _ :: _ => false
  | text => text.all Char.isDigit

/-- The value of a text of digits. -/
def valueOf (digits : List Char) : Nat :=
  digits.foldl (fun value c => value * 10 + (c.toNat - '0'.toNat)) 0

/-- Whether a text is a build identifier. -/
def isBuild (text : List Char) : Bool :=
  !text.isEmpty && text.all isAllowed

/-- Reads a pre-release identifier. A numeric one has no superfluous zero in front. -/
def read? (text : List Char) : Option Identifier :=
  if !isBuild text then none
  else if text.all Char.isDigit then
    if isPlainNumeral text then some (.numeric (valueOf text)) else none
  else some (.textual (String.ofList text))

/-- Numeric identifiers rank by value and below all others, which rank by their characters. -/
protected def compare : Identifier → Identifier → Ordering
  | .numeric a, .numeric b => Ord.compare a b
  | .numeric _, .textual _ => .lt
  | .textual _, .numeric _ => .gt
  | .textual a, .textual b => Ord.compare a b

instance : Ord Identifier := ⟨Identifier.compare⟩

end Identifier

end ManifestPin
