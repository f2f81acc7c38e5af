import ManifestPin.Text.Alphanumeric
import ManifestPin.Version.Numeral

/-! # Patterns of values

A directive may ask for the value of a field by a pattern. No event is ever matched with one, but a
pattern that cannot be read makes its directive unreadable. -/

namespace ManifestPin.CommandLine.ValuePattern

/-- What a backslash and the characters behind it mean. -/
inductive Escape where
  /-- One character. -/
  | character (c : Char)
  /-- One character of a class. -/
  | characters
  /-- A place. -/
  | place
  deriving DecidableEq, Repr

/-- The value of hexadecimal digits. -/
def hexadecimal? (digits : List Char) : Option Nat :=
  digits.foldlM
    (fun value c =>
      if c.isDigit then some (16 * value + (c.toNat - 48))
      else if 'a' ≤ c && c ≤ 'f' then some (16 * value + (c.toNat - 87))
      else if 'A' ≤ c && c ≤ 'F' then some (16 * value + (c.toNat - 55))
      else none)
    0

/-- Reads a character by its code in `count` hexadecimal digits. -/
def readCode (count : Nat) (text : List Char) : Option (Escape × List Char) := do
  let digits := text.take count
  if digits.length < count then none
  else
    let code ← hexadecimal? digits
    if code.isValidChar then some (.character (Char.ofNat code), text.drop count) else none

/-- Reads an escape from behind its backslash. Places between words have no automaton. -/
def readEscape : List Char → Option (Escape × List Char)
  | [] => none
  | 'x' :: rest => readCode 2 rest
  | 'u' :: rest => readCode 4 rest
  | 'U' :: rest => readCode 8 rest
  | 'p' :: c :: rest =>
    if "CLMNPSZ".toList.contains c.toUpper then some (.characters, rest) else none
  | 'P' :: c :: rest =>
    if "CLMNPSZ".toList.contains c.toUpper then some (.characters, rest) else none
  | c :: rest =>
    if "dswDSW".toList.contains c then some (.characters, rest)
    else if c = 'A' || c = 'z' then some (.place, rest)
    else if "aftnrv".toList.contains c then some (.character c, rest)
    else if c.toNat < 0x80 && !c.isAlphanum && c ≠ '<' && c ≠ '>' then some (.character c, rest)
    else none

/-- The names of the classes that stand between brackets and colons. -/
def classNames : List String :=
  ["alnum", "alpha", "ascii", "blank", "cntrl", "digit", "graph", "lower", "print", "punct",
    "space", "upper", "word", "xdigit"]

/-- The text behind a named class, from behind its opening bracket. -/
def afterNamedClass? (text : List Char) : Option (List Char) :=
  match text with
  | ':' :: rest =>
    let rest := if rest.head? = some '^' then rest.drop 1 else rest
    let name := rest.takeWhile fun c => c ≠ ':'
    match rest.drop name.length with
    | ':' :: ']' :: rest =>
      if classNames.contains (String.ofList name) then some rest else none
    | _ => none
  | _ => none

/-- Reads one member of a class. -/
def readMember : List Char → Option (Escape × List Char)
  | '\\' :: rest =>
    match readEscape rest with
    | some (.place, _) => none
    | found => found
  | c :: rest => some (.character c, rest)
  | [] => none

/-- The text behind the opening bracket of a class and what is taken as it stands there. -/
def openClass (text : List Char) : List Char :=
  let text := if text.head? = some '^' then text.drop 1 else text
  let rest := text.dropWhile fun c => c = '-'
  if rest.length = text.length && rest.head? = some ']' then rest.drop 1 else rest

/-- The text behind classes of which `depth + 1` are open. -/
def afterClass? : Nat → Nat → List Char → Option (List Char)
  | 0, _, _ => none
  | _ + 1, _, [] => none
  | fuel + 1, depth, '[' :: rest =>
    match afterNamedClass? rest with
    | some rest => afterClass? fuel depth rest
    | none => afterClass? fuel (depth + 1) (openClass rest)
  | fuel + 1, depth, ']' :: rest =>
    match depth with
    | 0 => some rest
    | depth + 1 => afterClass? fuel depth rest
  | fuel + 1, depth, '&' :: '&' :: rest => afterClass? fuel depth rest
  | fuel + 1, depth, '-' :: '-' :: rest => afterClass? fuel depth rest
  | fuel + 1, depth, '~' :: '~' :: rest => afterClass? fuel depth rest
  | fuel + 1, depth, text => do
    let (low, rest) ← readMember text
    match rest with
    | '-' :: ']' :: _ => afterClass? fuel depth rest
    | '-' :: '-' :: _ => afterClass? fuel depth rest
    | '-' :: rest => do
      let (high, rest) ← readMember rest
      match low, high with
      | .character low, .character high =>
        if low ≤ high then afterClass? fuel depth rest else none
      | _, _ => none
    | rest => afterClass? fuel depth rest

/-- Whether a text is the name of a group. -/
def isGroupName (name : List Char) : Bool :=
  match name with
  | [] => false
  | c :: rest =>
    (c = '_' || Text.isAlphanumeric c) && !c.isDigit &&
      rest.all fun c => c = '_' || c = '.' || c = '[' || c = ']' || Text.isAlphanumeric c

/-- Whether letters switch modes on and, behind a hyphen, off, each once. -/
def areModes (letters : List Char) : Bool :=
  letters.all ("imsUuxR-".toList.contains ·) && letters.Nodup && letters.getLast? ≠ some '-'

/-- What a text starts a group with, from behind its parenthesis. -/
inductive Opening where
  /-- A group, whose name no other group may have. -/
  | group (name : Option (List Char)) (rest : List Char)
  /-- Modes for the text behind them. -/
  | modes (rest : List Char)

/-- Reads what starts a group, from behind its parenthesis. -/
def readOpening (text : List Char) : Option Opening :=
  let named (text : List Char) : Option Opening :=
    let name := text.takeWhile fun c => c ≠ '>'
    match text.drop name.length with
    | _ :: rest => if isGroupName name then some (.group (some name) rest) else none
    | [] => none
  match text with
  | '?' :: 'P' :: '<' :: rest => named rest
  | '?' :: '<' :: rest => named rest
  | '?' :: rest =>
    let letters := rest.takeWhile fun c => c ≠ ':' && c ≠ ')'
    if !areModes letters then none
    else
      match rest.drop letters.length with
      | ':' :: rest => some (.group none rest)
      | ')' :: rest => if letters.isEmpty then none else some (.modes rest)
      | _ => none
  | rest => some (.group none rest)

/-- How deep groups may stand in each other. -/
def depthLimit : Nat :=
  250

/-- Whether a text behind `depth` open groups can be read to its end, where `repeats` tells whether
it may start with a sign of repetition and `names` lists the names that groups have. -/
def accepts : Nat → Nat → Bool → List (List Char) → List Char → Bool
  | 0, _, _, _, _ => false
  | _ + 1, depth, _, _, [] => depth = 0
  | fuel + 1, depth, _, names, '(' :: rest =>
    match readOpening rest with
    | none => false
    | some (.modes rest) => accepts fuel depth false names rest
    | some (.group none rest) => depth < depthLimit && accepts fuel (depth + 1) false names rest
    | some (.group (some name) rest) =>
      !names.contains name && depth < depthLimit &&
        accepts fuel (depth + 1) false (name :: names) rest
  | fuel + 1, depth, _, names, ')' :: rest => depth ≠ 0 && accepts fuel (depth - 1) true names rest
  | fuel + 1, depth, _, names, '|' :: rest => accepts fuel depth false names rest
  | fuel + 1, depth, _, names, '[' :: rest =>
    match afterClass? (rest.length + 1) 0 (openClass rest) with
    | some rest => accepts fuel depth true names rest
    | none => false
  | fuel + 1, depth, _, names, '\\' :: rest =>
    match readEscape rest with
    | some (_, rest) => accepts fuel depth true names rest
    | none => false
  | fuel + 1, depth, repeats, names, c :: rest =>
    if c = '*' || c = '+' || c = '?' then repeats && accepts fuel depth true names rest
    else c ≠ '\x7b' && accepts fuel depth true names rest

/-- Whether a text is a decimal numeral, with a sign, a fraction or an exponent if need be. -/
def isNumeral (text : List Char) : Bool :=
  let unsigned (text : List Char) : List Char :=
    match text with
    | '+' :: rest => rest
    | '-' :: rest => rest
    | text => text
  let body := unsigned text
  let whole := body.takeWhile Char.isDigit
  let (fraction, rest) : List Char × List Char :=
    match body.drop whole.length with
    | '.' :: rest => (rest.takeWhile Char.isDigit, rest.dropWhile Char.isDigit)
    | rest => ([], rest)
  let words := ["inf", "infinity", "nan"]
  if whole.isEmpty && fraction.isEmpty then
    words.contains (String.ofList (body.map Char.toLower))
  else
    match rest with
    | [] => true
    | e :: rest =>
      let digits := unsigned rest
      (e = 'e' || e = 'E') && !digits.isEmpty && digits.all Char.isDigit

/-- Whether a text can be the pattern of a value: a number or a regular expression. -/
def isReadable (text : List Char) : Bool :=
  isNumeral text || accepts (text.length + 1) 0 false [] text

end ManifestPin.CommandLine.ValuePattern
