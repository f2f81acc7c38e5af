import ManifestPin.Text.Lossy

/-! # Octet texts

A shell works on octets. An octet text is a text of which each character stands for the octet of its
number. -/

namespace ManifestPin.Shell

/-- The octet text of octets. -/
def ofOctets (octets : ByteArray) : String :=
  String.ofList (octets.toList.map fun octet => Char.ofNat octet.toNat)

/-- The octets of an octet text. -/
def toOctets (text : String) : ByteArray :=
  ⟨(text.toList.map fun c => UInt8.ofNat c.toNat).toArray⟩

/-- The octet text of a text. -/
def spread (text : String) : String :=
  ofOctets text.toUTF8

/-- The text of an octet text. -/
def gather (text : String) : String :=
  Text.ofOctets (toOctets text)

/-- The blanks that separate words. -/
def isBlank (c : Char) : Bool :=
  c = ' ' || c = '\t'

/-- The blanks that texts of numbers may hold at their ends. -/
def isSpace (c : Char) : Bool :=
  c = ' ' || ('\t' ≤ c && c ≤ '\r')

/-- A character of a name, after its first one. -/
def isNameChar (c : Char) : Bool :=
  c.isAlphanum || c = '_'

/-- A first character of a name. -/
def isNameStart (c : Char) : Bool :=
  c.isAlpha || c = '_'

/-- Whether a text is a name. -/
def isName (text : String) : Bool :=
  match text.toList with
  | [] => false
  | c :: rest => isNameStart c && rest.all isNameChar

/-- Whether a text holds digits only. -/
def isNumeral (text : String) : Bool :=
  text ≠ "" && text.toList.all Char.isDigit

/-- An octal digit. -/
def isOctal (c : Char) : Bool :=
  '0' ≤ c && c ≤ '7'

/-- The value of a digit in a base of up to thirty-six. -/
def digitValue (c : Char) : Nat :=
  if c.isDigit then c.toNat - '0'.toNat
  else if 'a' ≤ c && c ≤ 'z' then c.toNat - 'a'.toNat + 10
  else if 'A' ≤ c && c ≤ 'Z' then c.toNat - 'A'.toNat + 10
  else 99

/-- The number that digits form in a base. -/
def numberOf (base : Nat) (digits : List Char) : Nat :=
  digits.foldl (fun value c => value * base + digitValue c) 0

/-- The digits of a number in a base. -/
def digitsOf (base : Nat) (value : Nat) : String :=
  String.ofList (Nat.toDigits base value)

/-- A text filled up with a character in front to a width. -/
def padStart (width : Nat) (fill : Char) (text : String) : String :=
  String.ofList (List.replicate (width - text.length) fill) ++ text

/-- A text filled up with blanks behind to a width. -/
def padEnd (width : Nat) (text : String) : String :=
  text ++ String.ofList (List.replicate (width - text.length) ' ')

/-- The pieces of a text between occurrences of a character. -/
def piecesAt (separator : Char) (text : String) : List String :=
  (text.toList.foldr
    (fun c pieces =>
      if c = separator then [] :: pieces
      else
        match pieces with
        | piece :: more => (c :: piece) :: more
        | [] => [[c]])
    [[]]).map String.ofList

/-- The lines of a text without their ends. A text that ends with a line feed has no empty last
line. -/
def linesOf (text : String) : List String :=
  let pieces := piecesAt '\n' text
  if pieces.getLast? = some "" then pieces.dropLast else pieces

/-- Texts as lines. -/
def asLines (texts : List String) : String :=
  String.join (texts.map (· ++ "\n"))

end ManifestPin.Shell
