import ManifestPin.Decimal.Notation
import ManifestPin.Shell.Script

/-! # Formats

Texts with escapes, and formats that are filled in with arguments. The shells and the program that
print formats know the same conversions, but not the same escapes and complaints. -/

namespace ManifestPin.Shell

/-- Whose rules a format follows. -/
inductive Printer where
  /-- A shell of the standard dialect. -/
  | standard
  /-- A shell of the extended dialect. -/
  | extended
  /-- The installed program. -/
  | program
  deriving DecidableEq

namespace Format

/-- What an escape stands for. -/
inductive Escape where
  | text (text : String)
  /-- The end of all output. -/
  | stop

/-- The text that a letter behind a backslash stands for in all texts. -/
def named? : Char → Option String
  | 'a' => some "\x07"
  | 'b' => some "\x08"
  | 'e' => some "\x1b"
  | 'f' => some "\x0c"
  | 'n' => some "\n"
  | 'r' => some "\x0d"
  | 't' => some "\t"
  | 'v' => some "\x0b"
  | '\\' => some "\\"
  | _ => none

/-- The text of the octet that digits of a base form, and what follows at most `count` of them. -/
def readDigits (base count : Nat) (text : List Char) : Option (String × List Char) :=
  let digits := (text.take count).takeWhile fun c => digitValue c < base
  if digits.isEmpty then none
  else
    some (String.singleton (Char.ofNat (numberOf base digits % 256)), text.drop digits.length)

/-- The text of the character that hexadecimal digits form, and what follows them. Other characters
than those of one octet stay escaped. -/
def readWide (count : Nat) (text : List Char) : Option (String × List Char) :=
  let digits := (text.take count).takeWhile fun c => digitValue c < 16
  let number := numberOf 16 digits
  if digits.isEmpty then none
  else if number < 0x80 then some (String.singleton (Char.ofNat number), text.drop digits.length)
  else
    let shown := (digitsOf 16 number).map Char.toUpper
    let escaped : String :=
      if number < 0x10000 then "\\u" ++ padStart 4 '0' shown else "\\U" ++ padStart 8 '0' shown
    some (escaped, text.drop digits.length)

/-- What follows a backslash in a format, or in an argument with escapes: what it stands for, and
the text behind it. -/
def readEscape (printer : Printer) (inArgument : Bool) (text : List Char) :
    Escape × List Char :=
  match text with
  | [] => (.text "\\", [])
  | c :: rest =>
    let itself : Escape × List Char := (.text (String.ofList ['\\', c]), rest)
    let read (found : Option (String × List Char)) : Escape × List Char :=
      match found with
      | some (text, rest) => (.text text, rest)
      | none => itself
    if c = '0' && inArgument then
      match readDigits 8 3 rest with
      | some (text, rest) => (.text text, rest)
      | none => (.text "\x00", rest)
    else if isOctal c then read (readDigits 8 3 text)
    else if c = 'c' && (inArgument || printer = .program) then (.stop, [])
    else
      match named? c with
      | some text => (.text text, rest)
      | none =>
        if printer = .standard then itself
        else
          match c with
          | 'x' => read (readDigits 16 2 rest)
          | 'u' => read (readWide 4 rest)
          | 'U' => read (readWide 8 rest)
          | '"' => (.text "\"", rest)
          | '\'' => if printer = .extended then (.text "'", rest) else itself
          | 'E' => if printer = .extended then (.text "\x1b", rest) else itself
          | '?' => if printer = .extended then (.text "?", rest) else itself
          | _ => itself

/-- A text with its escapes replaced, and whether an escape ends all output. -/
def unescape (printer : Printer) : (fuel : Nat) → List Char → List Char × Bool
  | 0, text => (text, false)
  | _ + 1, [] => ([], false)
  | fuel + 1, '\\' :: rest =>
    match readEscape printer true rest with
    | (.stop, _) => ([], true)
    | (.text text, rest) =>
      let (more, stopped) := unescape printer fuel rest
      (text.toList ++ more, stopped)
  | fuel + 1, c :: rest =>
    let (more, stopped) := unescape printer fuel rest
    (c :: more, stopped)

/-- A text with its escapes replaced, and whether an escape ends all output. -/
def unescapeText (printer : Printer) (text : String) : String × Bool :=
  let (chars, stopped) := unescape printer (text.length + 1) text.toList
  (String.ofList chars, stopped)

/-- A width or a precision. -/
inductive Measure where
  | none
  | number (value : Nat)
  /-- The next argument. -/
  | argument
  deriving DecidableEq

/-- A conversion of a format. -/
structure Conversion where
  flags : List Char
  width : Measure
  precision : Measure
  letter : Char

/-- A piece of a format. -/
inductive Piece where
  | text (text : String)
  | conversion (conversion : Conversion)
  | stop
  /-- A conversion that nobody knows. -/
  | unknown (text : String)
  /-- A conversion without a letter. -/
  | unended (text : String)

/-- Reads a width or a precision. -/
def readMeasure (text : List Char) : Measure × List Char :=
  match text with
  | '*' :: rest => (.argument, rest)
  | text =>
    let digits := text.takeWhile Char.isDigit
    if digits.isEmpty then (.none, text)
    else (.number (numberOf 10 digits), text.drop digits.length)

/-- Whether a letter names a conversion. -/
def isConversion (printer : Printer) (letter : Char) : Bool :=
  "bcdiouxXseEfFgGaA".toList.contains letter || (printer ≠ .standard && letter = 'q')

/-- Reads a conversion from behind its percent sign. -/
def readConversion (printer : Printer) (text : List Char) : Piece × List Char :=
  let flags := text.takeWhile fun c => c = '-' || c = '0' || c = '+' || c = ' ' || c = '#'
  let (width, rest) := readMeasure (text.drop flags.length)
  let (precision, rest) : Measure × List Char :=
    match rest with
    | '.' :: rest =>
      match readMeasure rest with
      | (.none, rest) => (.number 0, rest)
      | found => found
    | rest => (.none, rest)
  let rest :=
    if printer = .standard then rest else rest.dropWhile fun c => "hlLjzt".toList.contains c
  match rest with
  | [] => (.unended (String.ofList ('%' :: text)), [])
  | letter :: rest =>
    if isConversion printer letter then
      (.conversion { flags, width, precision, letter }, rest)
    else
      let read := text.take (text.length - rest.length)
      (.unknown (String.ofList ('%' :: read)), rest)

/-- The pieces of a format. -/
def pieces (printer : Printer) : (fuel : Nat) → List Char → List Piece
  | 0, _ => []
  | _ + 1, [] => []
  | fuel + 1, '%' :: '%' :: rest => .text "%" :: pieces printer fuel rest
  | fuel + 1, '%' :: rest =>
    let (piece, rest) := readConversion printer rest
    piece :: pieces printer fuel rest
  | fuel + 1, '\\' :: rest =>
    match readEscape printer false rest with
    | (.stop, _) => [.stop]
    | (.text text, rest) => .text text :: pieces printer fuel rest
  | fuel + 1, c :: rest =>
    let run := (c :: rest).takeWhile fun c => c ≠ '%' && c ≠ '\\'
    .text (String.ofList run) :: pieces printer fuel ((c :: rest).drop run.length)

/-- What is wrong with an argument. -/
inductive Complaint where
  | notNumeric (argument : String)
  | partly (argument : String)
  | outOfRange (argument : String)
  | unknown (conversion : String)
  | unended (conversion : String)

/-- Whether nothing is printed behind what a complaint is about. -/
def Complaint.isFatal : Complaint → Bool
  | .unknown _ => true
  | .unended _ => true
  | _ => false

/-- The wording of a complaint. -/
def Complaint.message (printer : Printer) : Complaint → String
  | .notNumeric argument =>
    match printer with
    | .standard => argument ++ ": expected numeric value"
    | .extended => argument ++ ": invalid number"
    | .program => "'" ++ argument ++ "': expected a numeric value"
  | .partly argument =>
    match printer with
    | .standard => argument ++ ": not completely converted"
    | .extended => argument ++ ": invalid number"
    | .program => "'" ++ argument ++ "': value not completely converted"
  | .outOfRange argument =>
    match printer with
    | .standard => argument ++ ": Numerical result out of range"
    | .extended => "warning: " ++ argument ++ ": Numerical result out of range"
    | .program => "'" ++ argument ++ "': Numerical result out of range"
  | .unknown conversion =>
    match printer with
    | .standard => conversion ++ ": invalid directive"
    | .extended =>
      "\x60" ++ String.ofList (conversion.toList.reverse.take 1) ++
        "': invalid format character"
    | .program => conversion ++ ": invalid conversion specification"
  | .unended conversion =>
    match printer with
    | .standard => "missing format character"
    | .extended => "\x60" ++ conversion ++ "': missing format character"
    | .program => conversion ++ ": invalid conversion specification"

/-- The sign that a text starts with, and the text behind it. -/
def readSign (text : List Char) : Bool × List Char :=
  match text with
  | '-' :: rest => (true, rest)
  | '+' :: rest => (false, rest)
  | rest => (false, rest)

/-- The number without sign that a text starts with, in base ten, eight or sixteen. -/
def readNatural (text : List Char) : Option (Nat × List Char) :=
  match text with
  | '0' :: x :: rest =>
    let digits := rest.takeWhile fun c => digitValue c < 16
    if (x = 'x' || x = 'X') && !digits.isEmpty then
      some (numberOf 16 digits, rest.drop digits.length)
    else
      let digits := text.takeWhile isOctal
      some (numberOf 8 digits, text.drop digits.length)
  | text =>
    let digits := text.takeWhile Char.isDigit
    if digits.isEmpty then none else some (numberOf 10 digits, text.drop digits.length)

/-- The integer of an argument, and what is wrong with it. A quotation mark stands in front of a
character. -/
def integerOf (signed : Bool) (argument : String) : Int × List Complaint :=
  match argument.toList with
  | [] => (0, [])
  | mark :: text =>
    if mark = '"' || mark = '\'' then (((text.head?.map Char.toNat).getD 0 : Nat), [])
    else
      let (negative, digits) := readSign ((mark :: text).dropWhile isSpace)
      match readNatural digits with
      | none => (0, [.notNumeric argument])
      | some (value, rest) =>
        let partly : List Complaint := if rest.isEmpty then [] else [.partly argument]
        let limit : Nat :=
          if !signed then 0xffffffffffffffff
          else if negative then 0x8000000000000000
          else 0x7fffffffffffffff
        let clamped := min value limit
        let value' : Int := if negative then -(clamped : Int) else clamped
        let range : List Complaint := if limit < value then [.outOfRange argument] else []
        (value', if partly.isEmpty then range else partly)

/-- A number that is written in another way than with digits. -/
inductive Special where
  | infinite
  | notANumber

/-- The number with a fraction that an argument stands for, its sign, and what is wrong with it. -/
def realOf (argument : String) : Bool × (Notation.Fraction ⊕ Special) × List Complaint :=
  let zero : Notation.Fraction ⊕ Special := .inl ⟨0, 1⟩
  match argument.toList with
  | [] => (false, zero, [])
  | mark :: text =>
    if mark = '"' || mark = '\'' then
      (false, .inl ⟨(text.head?.map Char.toNat).getD 0, 1⟩, [])
    else
      let (negative, body) := readSign ((mark :: text).dropWhile isSpace)
      let lower := body.map Char.toLower
      let word (name : String) : Bool := name.toList.isPrefixOf lower
      let ended (rest : List Char) : List Complaint :=
        if rest.isEmpty then [] else [.partly argument]
      if word "infinity" then (negative, .inr .infinite, ended (body.drop 8))
      else if word "inf" then (negative, .inr .infinite, ended (body.drop 3))
      else if word "nan" then (negative, .inr .notANumber, ended (body.drop 3))
      else
        let hexadecimal : Bool := word "0x" && (lower.drop 2).any fun c => digitValue c < 16
        let base := if hexadecimal then 16 else 10
        let isDigit (c : Char) : Bool := digitValue c < base
        let body := if hexadecimal then body.drop 2 else body
        let whole := body.takeWhile isDigit
        let rest := body.drop whole.length
        let (places, rest) : List Char × List Char :=
          match rest with
          | '.' :: more =>
            let places := more.takeWhile isDigit
            (places, more.drop places.length)
          | rest => ([], rest)
        if whole.isEmpty && places.isEmpty then (false, zero, [.notNumeric argument])
        else
          let marks : List Char := if hexadecimal then ['p', 'P'] else ['e', 'E']
          let (exponent, rest) : Int × List Char :=
            match rest with
            | mark :: more =>
              if marks.contains mark then
                let (minus, digits) := readSign more
                let digits' := digits.takeWhile Char.isDigit
                if digits'.isEmpty then (0, rest)
                else
                  let value : Int := min (numberOf 10 digits') 20000
                  (if minus then -value else value, digits.drop digits'.length)
              else (0, rest)
            | [] => (0, [])
          let significand := numberOf base (whole ++ places)
          let fraction : Notation.Fraction :=
            if hexadecimal then
              Notation.Fraction.ofPower significand 2 (exponent - 4 * (places.length : Int))
            else Notation.Fraction.ofPower significand 10 (exponent - (places.length : Int))
          (negative, .inl fraction, ended rest)

/-- A text in the field of a conversion. -/
def pad (flags : List Char) (width : Nat) (zeros : Bool) (sign body : String) : String :=
  let missing := width - sign.length - body.length
  let fill (c : Char) : String := String.ofList (List.replicate missing c)
  if flags.contains '-' then sign ++ body ++ fill ' '
  else if zeros && flags.contains '0' then sign ++ fill '0' ++ body
  else fill ' ' ++ sign ++ body

/-- The sign of a number. -/
def signText (flags : List Char) (negative : Bool) : String :=
  if negative then "-" else if flags.contains '+' then "+"
  else if flags.contains ' ' then " " else ""

/-- A piece of what printing comes to. -/
inductive Output where
  | text (text : String)
  | complaint (complaint : Complaint)

/-- What printing comes to. -/
structure Printed where
  outputs : List Output := []
  /-- The arguments that are left. -/
  arguments : List String := []
  /-- Whether nothing more is printed. -/
  stopped : Bool := false

namespace Printed

/-- A text behind complaints. -/
def of (complaints : List Complaint) (text : String) : Printed :=
  { outputs := complaints.map Output.complaint ++ [.text text] }

/-- What is printed, with outputs in front. -/
def behind (outputs : List Output) (printed : Printed) : Printed :=
  { printed with outputs := outputs ++ printed.outputs }

/-- The text that is printed. -/
def text (printed : Printed) : String :=
  String.join (printed.outputs.map fun output =>
    match output with
    | .text text => text
    | .complaint _ => "")

/-- What is wrong with what is printed. -/
def complaints (printed : Printed) : List Complaint :=
  printed.outputs.filterMap fun output =>
    match output with
    | .text _ => none
    | .complaint complaint => some complaint

end Printed

/-- A text as a shell has to read it to get the same text. -/
def quoted (text : String) : String :=
  let safe (c : Char) : Bool := c.isAlphanum || "_-./:=@%+,".toList.contains c
  if text = "" then "''"
  else if text.toList.any fun c => c < ' ' || '\x7e' < c then
    let escape (c : Char) : String :=
      match c with
      | '\n' => "\\n"
      | '\t' => "\\t"
      | '\x0d' => "\\r"
      | '\\' => "\\\\"
      | '\'' => "\\'"
      | c =>
        if c < ' ' || '\x7e' < c then "\\" ++ padStart 3 '0' (digitsOf 8 c.toNat)
        else String.singleton c
    "$'" ++ String.join (text.toList.map escape) ++ "'"
  else
    String.join (text.toList.map fun c =>
      if safe c then String.singleton c else String.ofList ['\\', c])

/-- A number with a fraction, in the form that a letter names. -/
def realText (printer : Printer) (letter : Char) (alternate : Bool) (precision : Option Nat)
    (fraction : Notation.Fraction) : String :=
  let fraction := fraction.toBits (if printer = .standard then 53 else 64)
  let places := precision.getD 6
  let mark : Char := if letter.isUpper then 'E' else 'e'
  String.ofList
    (match letter.toLower with
      | 'e' => Notation.scientific mark fraction places alternate
      | 'f' => Notation.fixed fraction places alternate
      | _ => Notation.general mark fraction places alternate)

/-- An argument converted, with the width and the precision that are asked for. -/
def convert (printer : Printer) (conversion : Conversion) (width : Nat) (precision : Option Nat)
    (argument : String) : Printed :=
  let flags := conversion.flags
  let cut (text : String) : String :=
    match precision with
    | some count => (text.take count).toString
    | none => text
  let plain (text : String) : Printed := .of [] (pad flags width false "" text)
  let digits (sign marks body : String) : String :=
    let body := if precision = some 0 && body = "0" then "" else body
    let body := padStart (precision.getD 1) '0' body
    pad flags width precision.isNone (sign ++ marks) body
  let unsigned (base : Nat) (marks : String) (upper : Bool) : Printed :=
    let (value, complaints) := integerOf false argument
    let value := (value % 0x10000000000000000).toNat
    let body := digitsOf base value
    let body := if upper then body.map Char.toUpper else body
    let alternate : Bool := flags.contains '#'
    let body := if alternate && base = 8 && value ≠ 0 then "0" ++ body else body
    .of complaints (digits "" (if alternate && base = 16 && value ≠ 0 then marks else "") body)
  match conversion.letter with
  | 's' => plain (cut argument)
  | 'q' => plain (quoted argument)
  | 'b' =>
    let (text, stopped) := unescapeText printer argument
    { plain (cut text) with stopped }
  | 'c' =>
    let first := (argument.take 1).toString
    plain (if first = "" then "\x00" else first)
  | 'o' => unsigned 8 "" false
  | 'u' => unsigned 10 "" false
  | 'x' => unsigned 16 "0x" false
  | 'X' => unsigned 16 "0X" true
  | letter =>
    if letter = 'd' || letter = 'i' then
      let (value, complaints) := integerOf true argument
      .of complaints (digits (signText flags (value < 0)) "" (toString value.natAbs))
    else
      let (negative, value, complaints) := realOf argument
      let word (text : String) : String := if letter.isUpper then text.map Char.toUpper else text
      let sign := signText flags negative
      match value with
      | .inl fraction =>
        .of complaints
          (pad flags width true sign
            (realText printer letter (flags.contains '#') precision fraction))
      | .inr .infinite => .of complaints (pad flags width false sign (word "inf"))
      | .inr .notANumber => .of complaints (pad flags width false sign (word "nan"))

/-- The number that a width or a precision is, and the arguments that are left. -/
def measure (measure : Measure) (arguments : List String) : Option Int × List String :=
  match measure with
  | .none => (none, arguments)
  | .number value => (some value, arguments)
  | .argument => (some (integerOf true (arguments.head?.getD "")).1, arguments.tail)

/-- Prints the pieces of a format once. A missing argument is empty. -/
def printOnce (printer : Printer) : List Piece → List String → Printed
  | [], arguments => { arguments }
  | .stop :: _, arguments => { arguments, stopped := true }
  | .text text :: pieces, arguments =>
    (printOnce printer pieces arguments).behind [.text text]
  | .unknown text :: _, arguments =>
    { outputs := [.complaint (.unknown text)], arguments, stopped := true }
  | .unended text :: _, arguments =>
    { outputs := [.complaint (.unended text)], arguments, stopped := true }
  | .conversion conversion :: pieces, arguments =>
    let (width, arguments) := measure conversion.width arguments
    let (precision, arguments) := measure conversion.precision arguments
    let width := width.getD 0
    let flags := if width < 0 then '-' :: conversion.flags else conversion.flags
    let precision : Option Nat := precision.bind fun value =>
      if value < 0 then none else some value.toNat
    let first :=
      convert printer { conversion with flags } width.natAbs precision (arguments.head?.getD "")
    if first.stopped then first
    else (printOnce printer pieces arguments.tail).behind first.outputs

/-- Prints the pieces of a format as often as there are arguments for. -/
def printAll (printer : Printer) (pieces : List Piece) : (fuel : Nat) → List String → Printed
  | 0, _ => {}
  | fuel + 1, arguments =>
    let first := printOnce printer pieces arguments
    if first.stopped || first.arguments.isEmpty || first.arguments.length = arguments.length then
      first
    else (printAll printer pieces fuel first.arguments).behind first.outputs

/-- Prints a format with its arguments. -/
def print (printer : Printer) (format : String) (arguments : List String) : Printed :=
  printAll printer (pieces printer (format.length + 1) format.toList) (arguments.length + 1)
    arguments

end Format

end ManifestPin.Shell
