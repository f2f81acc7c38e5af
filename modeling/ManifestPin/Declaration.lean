import ManifestPin.Text.Alphanumeric
import ManifestPin.Text.Lines
import ManifestPin.Version.Basic

/-! # Declared versions

A parameter file declares a version as a key, an equals sign and a token such as `[0 18 97]`. The
declared version is the words between the token's delimiters, joined with dots. -/

namespace ManifestPin.Declaration

/-- The key that declares a version unless another one is configured. -/
def defaultKey : String :=
  "STANZA-VERSION"

/-- What follows the key, an equals sign and the blanks around it, at the start of a text. -/
def tokenAtStart? (key text : List Char) : Option (List Char) := do
  let rest ← Text.dropStart? key text
  match Text.trimStart rest with
  | '=' :: token => some (Text.trimStart token)
  | _ => none

/-- The token after the leftmost declaration in a line. -/
def tokenInLine? (key : List Char) : List Char → Option (List Char)
  | [] => tokenAtStart? key []
  | c :: rest => (tokenAtStart? key (c :: rest)).orElse fun _ => tokenInLine? key rest

/-- The token of the first line that declares the key. -/
def findToken? (content key : String) : Option String :=
  ((Text.lines content.toList).findSome? (tokenInLine? key.toList)).map String.ofList

/-- A token without the delimiter that it may end with. -/
def dropClosing (token : List Char) : List Char :=
  match token.reverse with
  | c :: rest => if Text.isAlphanumeric c then token else rest.reverse
  | [] => []

/-- The words of a token between its delimiters. -/
def tokenWords (token : List Char) : List (List Char) :=
  Text.words ((dropClosing (Text.trim token)).dropWhile fun c => !Text.isAlphanumeric c)

/-- The version that a token declares, in dotted form. -/
def versionOfToken (token : String) : Except InvalidVersion String :=
  match Text.joinWith ['.'] (tokenWords token.toList) with
  | [] => .error ⟨token, .emptyDeclaration⟩
  | version => .ok (String.ofList version)

end ManifestPin.Declaration
