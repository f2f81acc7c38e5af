/-! # Binary floating-point numbers

The numbers of the 64-bit binary format, read from decimal numerals and written with the fewest
digits that read back, all in exact integer arithmetic. -/

namespace ManifestPin

/-- A number of the 64-bit binary format. -/
inductive Binary64 where
  | notANumber
  | infinite (negative : Bool)
  /-- The number `mantissa * 2 ^ exponent`, with the given sign. -/
  | finite (negative : Bool) (mantissa : Nat) (exponent : Int)
  deriving DecidableEq, Repr

namespace Binary64

/-- The least mantissa that needs all its bits. -/
def fullMantissa : Nat :=
  0x10000000000000

/-- The exponent of the least positive numbers. -/
def leastExponent : Int :=
  -1074

/-- The exponent of the greatest numbers. -/
def greatestExponent : Int :=
  971

/-- The nearest integer to a quotient; a half goes to the even neighbour. -/
def roundQuotient (numerator denominator : Nat) : Nat :=
  let quotient := numerator / denominator
  let twice := 2 * (numerator % denominator)
  if twice < denominator then quotient
  else if denominator < twice then quotient + 1
  else quotient + quotient % 2

/-- Numerator and denominator of a fraction scaled by a power of two. -/
def scale (numerator denominator : Nat) (power : Int) : Nat × Nat :=
  if 0 ≤ power then (numerator <<< power.toNat, denominator)
  else (numerator, denominator <<< (-power).toNat)

/-- The exponent with which a positive fraction has a mantissa of 53 bits, or the least one. -/
def exponentOf (numerator denominator : Nat) : Int :=
  let guess : Int := (numerator.log2 : Int) - (denominator.log2 : Int) - 53
  let scaled := scale numerator denominator (-guess)
  let exponent := if scaled.1 / scaled.2 < 2 * fullMantissa then guess else guess + 1
  max exponent leastExponent

/-- The number `mantissa * 2 ^ exponent`, where the mantissa has at most 53 bits or is the least one
that has 54, as rounding up can leave it. Each number has one form, and there is none beyond the
greatest exponent. -/
def ofParts (negative : Bool) (mantissa : Nat) (exponent : Int) : Binary64 :=
  let (mantissa, exponent) :=
    if mantissa < 2 * fullMantissa then (mantissa, exponent) else (fullMantissa, exponent + 1)
  if greatestExponent < exponent then .infinite negative
  else .finite negative mantissa exponent

/-- The number nearest to a fraction. -/
def ofFraction (negative : Bool) (numerator denominator : Nat) : Binary64 :=
  if numerator = 0 then .finite negative 0 leastExponent
  else
    let exponent := exponentOf numerator denominator
    let scaled := scale numerator denominator (-exponent)
    ofParts negative (roundQuotient scaled.1 scaled.2) exponent

/-- The decimal digits of a number, most significant first. -/
def digits (value : Nat) : List Char :=
  Nat.toDigits 10 value

/-- The number nearest to `significand * 10 ^ exponent`. Beyond the range of the format the result
does not depend on the digits. -/
def ofDecimal (negative : Bool) (significand : Nat) (exponent : Int) : Binary64 :=
  let magnitude : Int := (digits significand).length + exponent
  if significand = 0 || magnitude < -324 then .finite negative 0 leastExponent
  else if 310 < magnitude then .infinite negative
  else if 0 ≤ exponent then ofFraction negative (significand * Nat.pow 10 exponent.toNat) 1
  else ofFraction negative significand (Nat.pow 10 (-exponent).toNat)

/-- The fractions between which every real number rounds to a positive number, over a common
denominator, and whether the ends themselves do. -/
structure Basin where
  /-- Numerator of the lower end. -/
  low : Nat
  /-- Numerator of the number itself. -/
  middle : Nat
  /-- Numerator of the upper end. -/
  high : Nat
  /-- The common denominator. -/
  denominator : Nat
  /-- Whether the ends round to the number. -/
  closed : Bool

/-- The basin of `mantissa * 2 ^ exponent`. Below a power of two the numbers lie twice as close. -/
def basin (mantissa : Nat) (exponent : Int) : Basin :=
  let below := if mantissa = fullMantissa && leastExponent < exponent then 1 else 2
  let scaled := scale 1 4 exponent
  { low := (4 * mantissa - below) * scaled.1
    middle := 4 * mantissa * scaled.1
    high := (4 * mantissa + 2) * scaled.1
    denominator := scaled.2
    closed := mantissa % 2 = 0 }

/-- Whether `significand * 10 ^ power` lies in a basin. -/
def Basin.holds (basin : Basin) (significand : Nat) (power : Int) : Bool :=
  let value := significand * Nat.pow 10 power.toNat * basin.denominator
  let unit := Nat.pow 10 (-power).toNat
  if basin.closed then basin.low * unit ≤ value && value ≤ basin.high * unit
  else basin.low * unit < value && value < basin.high * unit

/-- The multiple of `10 ^ power` nearest to a number, if that multiple rounds to the number. A
number halfway between two goes to the greater one. -/
def Basin.nearest? (basin : Basin) (power : Int) : Option Nat :=
  let unit := Nat.pow 10 power.toNat * basin.denominator
  let value := basin.middle * Nat.pow 10 (-power).toNat
  let floor := value / unit
  let candidates :=
    if 2 * (value % unit) < unit then [floor, floor + 1] else [floor + 1, floor]
  candidates.find? fun significand => basin.holds significand power

/-- How many digits stand before the point of a positive fraction; for a fraction below one, less
the number of zeros after the point. -/
def pointPosition (numerator denominator : Nat) : Int :=
  if denominator ≤ numerator then (digits (numerator / denominator)).length
  else
    let zeros := (List.range 400).find? fun zeros =>
      denominator ≤ numerator * Nat.pow 10 (zeros + 1)
    Int.neg (zeros.getD 0)

/-- The significand and power of ten with the fewest digits that read back as a number. -/
def shortest (mantissa : Nat) (exponent : Int) : Nat × Int :=
  let basin := basin mantissa exponent
  let position := pointPosition basin.middle basin.denominator
  let found := (List.range 17).findSome? fun count =>
    let power := position - (count + 1 : Nat)
    (basin.nearest? power).map fun significand => (significand, power)
  found.getD (0, 0)

/-- `significand * 10 ^ power` without an exponent, and with a point. -/
def positional (significand : Nat) (power : Int) : List Char :=
  if 0 ≤ power then digits (significand * Nat.pow 10 power.toNat) ++ ['.', '0']
  else
    let places := (-power).toNat
    let whole := significand / Nat.pow 10 places
    let fraction := digits (significand % Nat.pow 10 places)
    let padded := List.replicate (places - fraction.length) '0' ++ fraction
    match (padded.reverse.dropWhile (· = '0')).reverse with
    | [] => digits whole ++ ['.', '0']
    | shown => digits whole ++ '.' :: shown

/-- The text of a number: the fewest digits that read back, without an exponent. -/
def text : Binary64 → String
  | .notANumber => "NaN"
  | .infinite negative => if negative then "-inf" else "inf"
  | .finite negative mantissa exponent =>
    let shown :=
      if mantissa = 0 then ['0', '.', '0']
      else
        let decimal := shortest mantissa exponent
        positional decimal.1 decimal.2
    String.ofList (if negative then '-' :: shown else shown)

end Binary64

end ManifestPin
