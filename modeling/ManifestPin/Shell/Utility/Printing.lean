import ManifestPin.Shell.Builtin.Output
import ManifestPin.Shell.Utility.Basic

/-! # Utilities that print

The programs that write their arguments, or what these stand for. -/

namespace ManifestPin.Shell.Utility

/-- Writes arguments with blanks between them and a line end. -/
def echo : Utility := fun arguments => do
  let letters := (arguments.takeWhile Builtin.isEchoOption).flatMap String.toList
  let text := " ".intercalate (arguments.dropWhile Builtin.isEchoOption)
  let escapes := (letters.filter fun c => c = 'e' || c = 'E').getLast? = some 'e'
  let (text, stopped) := if escapes then Format.unescapeText .program text else (text, false)
  Task.print (if stopped || letters.contains 'n' then text else text ++ "\n")
  return 0

/-- Writes a format with its arguments. -/
def printf : Utility := fun arguments => do
  match if arguments.head? = some "--" then arguments.tail else arguments with
  | [] => refuseUsage "missing operand" 1
  | format :: arguments =>
    let printed := Format.print .program format arguments
    for complaint in printed.complaints do
      report (complaint.message .program)
    Task.print printed.text
    return if printed.complaints.isEmpty then 0 else 1

/-- How many octets are written of an endless text. No reader here takes more. -/
def endlessSize : Nat :=
  262144

/-- Writes a line again and again. -/
def yes : Utility := fun arguments => do
  let line := (if arguments.isEmpty then "y" else " ".intercalate arguments) ++ "\n"
  let count := endlessSize / line.length + 1
  Task.print (String.join (List.replicate count line))
  return 0

/-- A decimal number: its digits as an integer, and how many of them are behind the point. -/
structure Scaled where
  value : Int
  places : Nat

/-- The decimal number of a text. -/
def Scaled.ofText? (text : String) : Option Scaled :=
  let chars := text.toList
  let (negative, chars) : Bool × List Char :=
    match chars with
    | '-' :: rest => (true, rest)
    | '+' :: rest => (false, rest)
    | chars => (false, chars)
  let (whole, rest) := chars.span Char.isDigit
  let fraction? : Option (List Char) :=
    match rest with
    | [] => some []
    | '.' :: fraction => if fraction.all Char.isDigit then some fraction else none
    | _ => none
  match fraction? with
  | none => none
  | some fraction =>
    if whole.isEmpty && fraction.isEmpty then none
    else
      let value : Int := numberOf 10 (whole ++ fraction)
      some { value := if negative then -value else value, places := fraction.length }

/-- The number with more places. -/
def Scaled.widen (number : Scaled) (places : Nat) : Int :=
  (List.range (places - number.places)).foldl (fun value _ => value * 10) number.value

/-- The text of an integer whose last digits are behind the point. -/
def scaledText (places : Nat) (value : Int) : String :=
  if places = 0 then toString value
  else
    let digits := padStart (places + 1) '0' (toString value.natAbs)
    let whole := digits.length - places
    (if value < 0 then "-" else "") ++ (digits.take whole).toString ++ "." ++
      (digits.drop whole).toString

/-- Whether a word is a negative number. -/
def isNegativeNumber (word : String) : Bool :=
  word.startsWith "-" && (Scaled.ofText? word).isSome

/-- Writes the numbers between two bounds. -/
def seq : Utility := fun arguments =>
  let guarded := arguments.map fun word => if isNegativeNumber word then "\x00" ++ word else word
  withOptions
    { letters := "s:f:w", inOrder := true
      names := [("separator", 's'), ("format", 'f'), ("equal-width", 'w')] } 1
    (fun taken => do
      let operands := taken.operands.map fun word =>
        if word.startsWith "\x00" then (word.drop 1).toString else word
      match operands.find? fun word => (Scaled.ofText? word).isNone with
      | some word => refuseUsage ("invalid floating point argument: " ++ quote word) 1
      | none =>
        let numbers := operands.filterMap Scaled.ofText?
        let one : Scaled := { value := 1, places := 0 }
        let bounds : Option (Scaled × Scaled × Scaled) :=
          match numbers with
          | [last] => some (one, one, last)
          | [first, last] => some (first, one, last)
          | [first, step, last] => some (first, step, last)
          | _ => none
        match bounds, operands with
        | none, [] => refuseUsage "missing operand" 1
        | none, operands =>
          refuseUsage ("extra operand " ++ quote ((operands.drop 3).headD "")) 1
        | some (first, step, last), operands =>
          if step.value = 0 then
            refuseUsage ("invalid Zero increment value: " ++
              quote ((operands.drop 1).headD "")) 1
          else
            let places := max first.places step.places
            let shared := max places last.places
            let (low, move, high) := (first.widen shared, step.widen shared, last.widen shared)
            let count := ((high - low) / move + 1).toNat
            let count :=
              if (0 < move && high < low) || (move < 0 && low < high) then 0 else count
            let values := (List.range count).map fun (index : Nat) => low + move * (index : Int)
            let scale (value : Int) : Int :=
              (List.range (shared - places)).foldl (fun value _ => value / 10) value
            let texts := values.map fun value => scaledText places (scale value)
            let width := (texts.map String.length).foldl max 0
            let pad (text : String) : String :=
              if text.startsWith "-" then
                "-" ++ padStart (width - 1) '0' (text.drop 1).toString
              else padStart width '0' text
            let texts := if taken.has 'w' then texts.map pad else texts
            let texts : List String :=
              match taken.value? 'f' with
              | some format => texts.map fun text => (Format.print .program format [text]).text
              | none => texts
            let separator := (taken.value? 's').getD "\n"
            if !texts.isEmpty then Task.print (separator.intercalate texts ++ "\n")
            return 0) guarded

end ManifestPin.Shell.Utility
