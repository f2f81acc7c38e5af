import ManifestPin.Shell.Builtin.Variables

/-! # Commands that read

The commands of the shell that take lines from the input, and those that take arguments apart. -/

namespace ManifestPin.Shell.Builtin

/-- Characters read from the input, each with whether it was escaped. -/
abbrev Entered := List (Char × Bool)

/-- How far a command reads. -/
structure ReadLimit where
  /-- The character that ends a line. -/
  delimiter : Option Char
  /-- How many characters are read at most. -/
  count : Option Nat
  /-- Whether backslashes are read as they are. -/
  raw : Bool

/-- Reads up to the end of a line, and gives what was read, how many octets that took, and whether
the end was there. -/
def readUpTo (limit : ReadLimit) : (fuel : Nat) → (taken : Nat) → Entered → List Char →
    Entered × Nat × Bool
  | 0, taken, entered, _ => (entered.reverse, taken, false)
  | fuel + 1, taken, entered, rest =>
    if limit.count = some entered.length then (entered.reverse, taken, true)
    else
      match rest with
      | [] => (entered.reverse, taken, false)
      | '\\' :: c :: rest =>
        if limit.raw then readUpTo limit fuel (taken + 1) (('\\', false) :: entered) (c :: rest)
        else if c = '\n' then readUpTo limit fuel (taken + 2) entered rest
        else readUpTo limit fuel (taken + 2) ((c, true) :: entered) rest
      | c :: rest =>
        if some c = limit.delimiter then (entered.reverse, taken + 1, true)
        else if c = '\x00' || (c = '\\' && !limit.raw) then
          readUpTo limit fuel (taken + 1) entered rest
        else readUpTo limit fuel (taken + 1) ((c, false) :: entered) rest

/-- How the characters of a line separate its fields. -/
structure FieldRule where
  separators : List Char

namespace FieldRule

/-- Whether a character is a separator. -/
def separates (rule : FieldRule) (entry : Char × Bool) : Bool :=
  !entry.2 && rule.separators.contains entry.1

/-- Whether a character is a blank separator. -/
def isBlank (rule : FieldRule) (entry : Char × Bool) : Bool :=
  rule.separates entry && (entry.1 = ' ' || entry.1 = '\t' || entry.1 = '\n')

/-- The first field, and what follows it and the separator behind it. -/
def field (rule : FieldRule) (line : Entered) : Entered × Entered :=
  let word := line.takeWhile fun entry => !rule.separates entry
  let rest := (line.drop word.length).dropWhile rule.isBlank
  match rest with
  | entry :: more =>
    if rule.separates entry then (word, more.dropWhile rule.isBlank) else (word, rest)
  | [] => (word, [])

/-- The last field: all that is left, without the blanks behind it, and without a separator that
only ends it. -/
def lastField (rule : FieldRule) (line : Entered) : Entered :=
  match rule.field line with
  | (word, []) => word
  | _ => (line.reverse.dropWhile rule.isBlank).reverse

/-- The text of a field. -/
def text (entered : Entered) : String :=
  String.ofList (entered.map (·.1))

/-- As many fields as there are names. -/
def fields (rule : FieldRule) : (names : List String) → Entered → List (String × String)
  | [], _ => []
  | [name], line => [(name, text (rule.lastField line))]
  | name :: names, line =>
    let (word, rest) := rule.field line
    (name, text word) :: rule.fields names rest

/-- All fields. -/
def all (rule : FieldRule) : (fuel : Nat) → Entered → List String
  | 0, _ => []
  | _ + 1, [] => []
  | fuel + 1, line =>
    let (word, rest) := rule.field line
    text word :: rule.all fuel rest

end FieldRule

/-- Reads a line into variables. -/
def read : Builtin := fun arguments => do
  let extended ← Run.isExtended
  let (found, names) ← options (if extended then "ersa:d:i:n:N:p:t:u:" else "p:r") arguments
  if !extended && names.isEmpty then return ← Run.fail "arg count" 2
  for name in names do
    if !isName name && !extended then refuseName name name
  match names.find? fun name => !isName (String.ofList (name.toList.takeWhile (· ≠ '['))) with
  | some name =>
    refuseName name name
    return 1
  | none => pure ()
  let machine ← get
  let descriptor := ((found.lookup 'u').bind String.toNat?).getD 0
  if (machine.descriptors.lookup descriptor).isNone then
    if extended then
      Run.report (toString descriptor ++ ": invalid file descriptor: Bad file descriptor")
    return 1
  let exact := (found.lookup 'N').bind String.toNat?
  let limit : ReadLimit :=
    { delimiter :=
        if exact.isSome then none
        else
          match found.lookup 'd' with
          | some text => some (text.toList.headD '\x00')
          | none => some '\n'
      count := exact.orElse fun _ => (found.lookup 'n').bind String.toNat?
      raw := has found 'r' }
  let pending := (ofOctets (machine.pendingAt descriptor)).toList
  let (entered, taken, ended) := readUpTo limit (pending.length + 1) 0 [] pending
  set (machine.consumeAt descriptor taken)
  let rule : FieldRule := { separators := if exact.isSome then [] else machine.separators }
  let line := entered.dropWhile rule.isBlank
  match found.lookup 'a' with
  | some name =>
    Run.assignList name false ((rule.all (line.length + 1) line).map fun text => (none, text))
  | none =>
    if names.isEmpty then Run.assign "REPLY" (FieldRule.text entered)
    else
      for (name, text) in rule.fields names line do
        assignWord name false text
  return if ended then 0 else 1

/-- Reads the lines of the input into a list. -/
def mapfile : Builtin := fun arguments => do
  let (found, names) ← options "d:n:O:s:tu:C:c:" arguments
  let machine ← get
  let descriptor := ((found.lookup 'u').bind String.toNat?).getD 0
  let number (letter : Char) : Nat := ((found.lookup letter).bind String.toNat?).getD 0
  let delimiter : Char :=
    match found.lookup 'd' with
    | some text => text.toList.headD '\x00'
    | none => '\n'
  let content := machine.pendingAt descriptor
  set (machine.consumeAt descriptor content.size)
  let pieces := piecesAt delimiter (ofOctets content)
  let whole := pieces.dropLast.map fun piece =>
    if has found 't' then piece else piece ++ String.singleton delimiter
  let lines := (match pieces.getLast? with
    | some "" => whole
    | some last => whole ++ [last]
    | none => whole).drop (number 's')
  let lines := if number 'n' = 0 then lines else lines.take (number 'n')
  let name := names.headD "MAPFILE"
  let origin := number 'O'
  Run.assignList name (has found 'O') (lines.zipIdx.map fun (line, index) =>
    (some (toString (origin + index)), line))
  return 0

/-- What the next option of arguments is. -/
inductive NextOption where
  | ended
  /-- An option, and its value if it takes one. -/
  | found (letter : Char) (value : String)
  | unknown (letter : Char)
  | lacking (letter : Char)

/-- Finds the next option, where `offset` letters of the word before the one at `index` have been
read. Gives also the index of the next word and the letters that were read of the one before it. -/
def nextOption (known : List Char) (words : List String) (index offset : Nat) :
    NextOption × Nat × Nat :=
  let current : List Char :=
    if offset = 0 || index = 0 then [] else ((words[index - 1]?).getD "").toList.drop offset
  let start : Option (List Char × Nat × Nat) :=
    if !current.isEmpty then some (current, index, offset)
    else
      match words[index]? with
      | some word =>
        match word.toList with
        | ['-', '-'] => none
        | '-' :: letter :: letters => some (letter :: letters, index + 1, 1)
        | _ => none
      | none => none
  match start with
  | none => (.ended, if words[index]? = some "--" then index + 1 else index, 0)
  | some ([], index, _) => (.ended, index, 0)
  | some (letter :: letters, index, offset) =>
    let left := if letters.isEmpty then 0 else offset + 1
    match takesValue? letter known with
    | none => (.unknown letter, index, left)
    | some false => (.found letter "", index, left)
    | some true =>
      if !letters.isEmpty then (.found letter (String.ofList letters), index, 0)
      else
        match words[index]? with
        | some value => (.found letter value, index + 1, 0)
        | none => (.lacking letter, index, 0)

/-- Takes the next option from arguments into a variable. -/
def getopts : Builtin := fun arguments => do
  let machine ← get
  let extended := machine.dialect = .extended
  match arguments with
  | known :: name :: given =>
    if !isName name then
      refuseName name name
      return 1
    let words := if given.isEmpty then machine.arguments else given
    let position := ((machine.text? "OPTIND").bind String.toNat?).getD 1
    let (silent, letters) : Bool × List Char :=
      match known.toList with
      | ':' :: letters => (true, letters)
      | letters => (false, letters)
    let ahead := if extended && machine.letter ≠ 0 then position else position - 1
    let (ahead, offset) := if words.length < ahead then (0, 0) else (ahead, machine.letter)
    let (next, index, left) := nextOption letters words ahead offset
    let shown := if extended && left ≠ 0 then index else index + 1
    let quiet := silent || (extended && machine.text? "OPTERR" = some "0")
    let complain (standard reason : String) (letter : Char) : Run Unit :=
      if quiet then pure ()
      else if extended then
        task (Task.complain (machine.name ++ ": " ++ reason ++ " -- " ++ String.singleton letter))
      else task (Task.complain standard)
    let value (text : Option String) : Run Unit :=
      match text with
      | some text => Run.assign "OPTARG" text
      | none => modify fun machine => machine.unset "OPTARG"
    let (letter, status) ← (match next with
      | .ended => return ('?', 1)
      | .found letter text => do
        value (if extended && text = "" && takesValue? letter letters = some false then none
          else some text)
        return (letter, 0)
      | .unknown letter => do
        complain ("Illegal option -" ++ String.singleton letter) "illegal option" letter
        value (if silent then some (String.singleton letter) else none)
        return ('?', 0)
      | .lacking letter => do
        complain ("No arg for -" ++ String.singleton letter ++ " option")
          "option requires an argument" letter
        value (if silent then some (String.singleton letter) else none)
        return (if silent then ':' else '?', 0))
    Run.assign "OPTIND" (toString shown)
    modify fun machine => { machine with letter := left }
    Run.assign name (String.singleton letter)
    return status
  | _ =>
    if extended then
      task (Task.complain "getopts: usage: getopts optstring name [arg ...]")
      return 2
    else Run.fail "Usage: getopts optstring var [arg...]" 2

end ManifestPin.Shell.Builtin
