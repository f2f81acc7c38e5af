/-! # Numerals

The decimal numerals below `2 ^ 64`, read from the left: the first problem met refuses the text. -/

namespace ManifestPin.Numeral

/-- Why a text is no numeral. -/
inductive Fault where
  /-- There is no digit at all. -/
  | empty
  /-- A character is not a digit. -/
  | invalidDigit
  /-- The value does not fit into 64 bits. -/
  | tooLarge
  deriving DecidableEq, Repr

/-- The wording of a fault. -/
def Fault.message : Fault → String
  | .empty => "cannot parse integer from empty string"
  | .invalidDigit => "invalid digit found in string"
  | .tooLarge => "number too large to fit in target type"

/-- The least value that does not fit into 64 bits. -/
def limit : Nat :=
  0x10000000000000000

/-- The value of a decimal digit. -/
def digitValue (c : Char) : Nat :=
  c.toNat - '0'.toNat

/-- The value of digits that continue a numeral of the given value. -/
def readDigits (value : Nat) : List Char → Except Fault Nat
  | [] => .ok value
  | c :: rest =>
    if c.isDigit then
      let next := value * 10 + digitValue c
      if next < limit then readDigits next rest else .error .tooLarge
    else .error .invalidDigit

/-- The value of a numeral, which may have one plus sign in front. -/
def read : List Char → Except Fault Nat
  | [] => .error .empty
  | '+' :: c :: rest => readDigits 0 (c :: rest)
  | text => readDigits 0 text

end ManifestPin.Numeral
