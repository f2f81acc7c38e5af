import ManifestPin.Decimal.Binary64
import ManifestPin.Toml.Text

/-! # Numbers

Integers of 64 bits in four bases, and floating-point numbers. An underscore may stand between two
digits. -/

namespace ManifestPin.Toml

/-- Reads the digits that follow a first one. -/
def moreDigits (accepts : Char → Bool) : List Char → Option (List Char × List Char)
  | [] => some ([], [])
  | [c] => if accepts c then some ([c], []) else if c = '_' then none else some ([], [c])
  | c :: next :: rest =>
    if accepts c then withChar c (moreDigits accepts (next :: rest))
    else if c = '_' then
      if accepts next then moreDigits accepts (next :: rest) else none
    else some ([], c :: next :: rest)

/-- Reads one or more digits. -/
def readDigits (accepts : Char → Bool) : List Char → Option (List Char × List Char)
  | [] => none
  | c :: rest => if accepts c then withChar c (moreDigits accepts rest) else none

/-- The value of digits in a base. -/
def valueOf (base : Nat) (digits : List Char) : Nat :=
  digits.foldl (fun value c => value * base + (hexValue? c).getD 0) 0

/-- Whether a sign is there and negative, and the text after it. -/
def readSign : List Char → Bool × List Char
  | '-' :: rest => (true, rest)
  | '+' :: rest => (false, rest)
  | text => (false, text)

/-- A whole number as written: its sign and its digits. -/
structure Whole where
  negative : Bool
  digits : List Char

/-- Reads a whole number in base ten. A zero in front stands alone. -/
def readWhole (text : List Char) : Option (Whole × List Char) :=
  let (negative, text) := readSign text
  match text with
  | '0' :: rest => some (⟨negative, ['0']⟩, rest)
  | text => (readDigits Char.isDigit text).map fun read => (⟨negative, read.1⟩, read.2)

/-- The greatest magnitude of a negative integer of 64 bits. -/
def magnitudeLimit : Nat :=
  0x8000000000000000

/-- An integer that fits into 64 bits. -/
def integerOf? (negative : Bool) (magnitude : Nat) : Option Int :=
  if negative then
    if magnitude ≤ magnitudeLimit then some (-(magnitude : Int)) else none
  else if magnitude < magnitudeLimit then some (magnitude : Int)
  else none

/-- Reads an integer in a base other than ten. -/
def readBased (base : Nat) (accepts : Char → Bool) (text : List Char) :
    Option (Int × List Char) := do
  let (digits, rest) ← readDigits accepts text
  let value ← integerOf? false (valueOf base digits)
  return (value, rest)

/-- Reads an integer. -/
def readInteger (text : List Char) : Option (Int × List Char) :=
  match text with
  | '0' :: 'x' :: rest => readBased 16 (fun c => (hexValue? c).isSome) rest
  | '0' :: 'o' :: rest => readBased 8 (fun c => '0' ≤ c && c ≤ '7') rest
  | '0' :: 'b' :: rest => readBased 2 (fun c => c = '0' || c = '1') rest
  | text => do
    let (whole, rest) ← readWhole text
    let value ← integerOf? whole.negative (valueOf 10 whole.digits)
    return (value, rest)

/-- Reads an exponent. -/
def readExponent (text : List Char) : Option (Int × List Char) :=
  match text with
  | [] => none
  | c :: rest =>
    if c = 'e' || c = 'E' then do
      let (negative, rest) := readSign rest
      let (digits, rest) ← readDigits Char.isDigit rest
      let magnitude : Int := valueOf 10 digits
      return (if negative then -magnitude else magnitude, rest)
    else none

/-- Reads an exponent if the text has one. -/
def readExponentOrZero (text : List Char) : Option (Int × List Char) :=
  match text with
  | 'e' :: _ => readExponent text
  | 'E' :: _ => readExponent text
  | text => some (0, text)

/-- The number of a decimal numeral. One too great for the format is refused unless negative. -/
def floatOf? (whole : Whole) (fraction : List Char) (exponent : Int) : Option Binary64 :=
  match Binary64.ofDecimal whole.negative (valueOf 10 (whole.digits ++ fraction))
      (exponent - fraction.length) with
  | .infinite false => none
  | value => some value

/-- Reads a decimal numeral with a fraction, an exponent or both. -/
def readDecimal (text : List Char) : Option (Binary64 × List Char) := do
  let (whole, rest) ← readWhole text
  match rest with
  | '.' :: rest => do
    let (fraction, rest) ← readDigits Char.isDigit rest
    let (exponent, rest) ← readExponentOrZero rest
    let value ← floatOf? whole fraction exponent
    return (value, rest)
  | rest => do
    let (exponent, rest) ← readExponent rest
    let value ← floatOf? whole [] exponent
    return (value, rest)

/-- Reads a floating-point number that is named rather than written in digits. -/
def readNamedFloat (text : List Char) : Option (Binary64 × List Char) :=
  match readSign text with
  | (negative, 'i' :: 'n' :: 'f' :: rest) => some (.infinite negative, rest)
  | (_, 'n' :: 'a' :: 'n' :: rest) => some (.notANumber, rest)
  | _ => none

/-- Reads a floating-point number. -/
def readFloat (text : List Char) : Option (Binary64 × List Char) :=
  (readDecimal text).orElse fun _ => readNamedFloat text

end ManifestPin.Toml
