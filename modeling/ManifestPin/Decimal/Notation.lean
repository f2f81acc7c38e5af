import ManifestPin.Decimal.Binary64

/-! # Decimal notations

The written forms of a fraction with a wanted number of digits: with a fixed number of places, with
an exponent, or whichever of them is shorter. A half goes to the even neighbour. -/

namespace ManifestPin.Notation

/-- A fraction that is not negative. -/
structure Fraction where
  numerator : Nat
  denominator : Nat

namespace Fraction

/-- The fraction `significand * base ^ exponent`. -/
def ofPower (significand base : Nat) (exponent : Int) : Fraction :=
  if 0 ≤ exponent then ⟨significand * Nat.pow base exponent.toNat, 1⟩
  else ⟨significand, Nat.pow base (-exponent).toNat⟩

/-- The fraction with a mantissa of a number of bits that is nearest. -/
def toBits (bits : Nat) (fraction : Fraction) : Fraction :=
  if fraction.numerator = 0 then fraction
  else
    let guess : Int := (fraction.numerator.log2 : Int) - (fraction.denominator.log2 : Int) - bits
    let quotient (exponent : Int) : Nat × Nat :=
      Binary64.scale fraction.numerator fraction.denominator (-exponent)
    let first := quotient guess
    let exponent := if first.1 / first.2 < 1 <<< bits then guess else guess + 1
    let scaled := quotient exponent
    ofPower (Binary64.roundQuotient scaled.1 scaled.2) 2 exponent

/-- The nearest integer to the fraction times a power of ten. -/
def scaled (fraction : Fraction) (power : Int) : Nat :=
  if 0 ≤ power then
    Binary64.roundQuotient (fraction.numerator * Nat.pow 10 power.toNat) fraction.denominator
  else
    Binary64.roundQuotient fraction.numerator
      (fraction.denominator * Nat.pow 10 (-power).toNat)

/-- The exponent of the leading digit, and the digits in a wanted number, both after rounding. -/
def leading (fraction : Fraction) (count : Nat) : Int × Nat :=
  if fraction.numerator = 0 then (0, 0)
  else
    let guess := Binary64.pointPosition fraction.numerator fraction.denominator - 1
    let digits := fraction.scaled (count - 1 - guess)
    if digits < Nat.pow 10 count then (guess, digits)
    else (guess + 1, fraction.scaled (count - 2 - guess))

end Fraction

/-- The digits of a number, filled up with zeros in front. -/
def padded (count value : Nat) : List Char :=
  let digits := Nat.toDigits 10 value
  List.replicate (count - digits.length) '0' ++ digits

/-- Digits with a point behind the whole part. -/
def pointed (whole places : List Char) (alternate : Bool) : List Char :=
  if places.isEmpty && !alternate then whole else whole ++ '.' :: places

/-- A fraction with a fixed number of places. -/
def fixed (fraction : Fraction) (places : Nat) (alternate : Bool) : List Char :=
  let digits := padded (places + 1) (fraction.scaled places)
  pointed (digits.take (digits.length - places)) (digits.drop (digits.length - places)) alternate

/-- An exponent with its sign and at least two digits. -/
def exponentText (mark : Char) (exponent : Int) : List Char :=
  mark :: (if exponent < 0 then '-' else '+') :: padded 2 exponent.natAbs

/-- A fraction with one digit in front of the point and an exponent. -/
def scientific (mark : Char) (fraction : Fraction) (places : Nat) (alternate : Bool) :
    List Char :=
  let (exponent, value) := fraction.leading (places + 1)
  let digits := padded (places + 1) value
  pointed (digits.take 1) (digits.drop 1) alternate ++ exponentText mark exponent

/-- Digits without the zeros at the end of the part behind the point. -/
def trimmed (digits : List Char) : List Char :=
  if digits.contains '.' then
    let kept := digits.reverse.dropWhile (· = '0')
    (if kept.head? = some '.' then kept.drop 1 else kept).reverse
  else digits

/-- A fraction with a number of significant digits, with an exponent only if that is shorter. -/
def general (mark : Char) (fraction : Fraction) (digits : Nat) (alternate : Bool) : List Char :=
  let digits := max digits 1
  let (exponent, _) := fraction.leading digits
  if -4 ≤ exponent && exponent < digits then
    let text := fixed fraction (digits - 1 - exponent).toNat alternate
    if alternate then text else trimmed text
  else
    let text := scientific mark fraction (digits - 1) alternate
    let body := text.takeWhile (· ≠ mark)
    (if alternate then body else trimmed body) ++ text.drop body.length

end ManifestPin.Notation
