import ManifestPin.Shell.Opening

/-! # Utilities

A utility is a program that scripts call: it reads and writes files and descriptors, and ends with
an exit status. -/

namespace ManifestPin.Shell

/-- A program: from its arguments to the status it ends with. -/
abbrev Utility := List String → Task Nat

namespace Utility

/-! ## Names in messages -/

/-- Whether a character of a name means something to a shell. -/
def isShellActive (c : Char) : Bool :=
  !(c.isAlphanum || "%+,-./:@_]\x7b\x7d~#".toList.contains c)

/-- A name between apostrophes, or between quotation marks if it holds apostrophes. -/
def quote (name : String) : String :=
  let chars := name.toList
  if chars.any fun c => c < ' ' || c = '\x7f' then
    let escape (c : Char) : String :=
      match c with
      | '\n' => "'$'\\n''"
      | '\t' => "'$'\\t''"
      | '\x0d' => "'$'\\r''"
      | c =>
        if c < ' ' || c = '\x7f' then
          "'$'\\" ++ padStart 3 '0' (digitsOf 8 c.toNat) ++ "''"
        else String.singleton c
    "'" ++ String.join (chars.map escape) ++ "'"
  else if chars.contains '\'' && !chars.any fun c => c = '"' || c = '$' || c = '\x60' || c = '\\' then
    "\"" ++ name ++ "\""
  else "'" ++ name.replace "'" "'\\''" ++ "'"

/-- A name, quoted where a shell would need that. -/
def quoteIfActive (name : String) : String :=
  let startsActive := (name.toList.head?).any fun c => c = '~' || c = '#'
  if name = "" || startsActive || name.toList.any isShellActive then quote name else name

/-! ## Options -/

/-- The options that a utility knows. -/
structure OptionRules where
  /-- The letters. One colon behind a letter says that it takes a value, two that it takes one only
  in the same word. -/
  letters : String
  /-- The long names, each with its letter. -/
  names : List (String × Char) := []
  /-- Whether the first operand ends the options. -/
  inOrder : Bool := false

/-- The options and the operands of a utility. -/
structure Taken where
  options : List (Char × String)
  operands : List String

namespace Taken

/-- Whether an option is given. -/
def has (taken : Taken) (letter : Char) : Bool :=
  taken.options.any fun entry => entry.1 = letter

/-- The last value of an option. -/
def value? (taken : Taken) (letter : Char) : Option String :=
  (taken.options.reverse).lookup letter

/-- All values of an option. -/
def values (taken : Taken) (letter : Char) : List String :=
  (taken.options.filter fun entry => entry.1 = letter).map (·.2)

/-- The last of several options that is given. -/
def last? (taken : Taken) (letters : List Char) : Option Char :=
  ((taken.options.filter fun entry => letters.contains entry.1).map (·.1)).getLast?

end Taken

/-- Whether a letter takes a value. -/
inductive Arity where
  | none
  | needed
  | attached
  deriving DecidableEq

/-- Whether a known letter takes a value. -/
def arity? (letter : Char) : List Char → Option Arity
  | [] => none
  | known :: ':' :: ':' :: rest =>
    if known = letter then some .attached else arity? letter rest
  | known :: ':' :: rest => if known = letter then some .needed else arity? letter rest
  | known :: rest => if known = letter then some .none else arity? letter rest

/-- The long option that a name stands for: its own, or the only one that it starts. -/
def longOption? (rules : OptionRules) (name : String) : Option (String × Char) :=
  match rules.names.find? fun entry => entry.1 = name with
  | some entry => some entry
  | none =>
    match rules.names.filter fun entry => entry.1.startsWith name with
    | [entry] => some entry
    | entry :: others => if others.all fun other => other.2 = entry.2 then some entry else none
    | [] => none

/-- Takes the options from arguments, where `letters` are left of the current one. -/
def takeFrom (rules : OptionRules) : (fuel : Nat) → (letters : List Char) → List String → Taken →
    Except String Taken
  | 0, _, _, taken => .ok taken
  | fuel + 1, letter :: letters, rest, taken =>
    let found (value : String) : Taken :=
      { taken with options := taken.options ++ [(letter, value)] }
    match if letter = ':' then none else arity? letter rules.letters.toList with
    | none => .error ("invalid option -- '" ++ String.singleton letter ++ "'")
    | some .none => takeFrom rules fuel letters rest (found "")
    | some .attached => takeFrom rules fuel [] rest (found (String.ofList letters))
    | some .needed =>
      if !letters.isEmpty then takeFrom rules fuel [] rest (found (String.ofList letters))
      else
        match rest with
        | value :: rest => takeFrom rules fuel [] rest (found value)
        | [] =>
          .error ("option requires an argument -- '" ++ String.singleton letter ++ "'")
  | _ + 1, [], [], taken => .ok taken
  | fuel + 1, [], word :: rest, taken =>
    match word.toList with
    | ['-', '-'] => .ok { taken with operands := taken.operands ++ rest }
    | '-' :: '-' :: long =>
      let name := String.ofList (long.takeWhile (· ≠ '='))
      let value? : Option String :=
        match long.dropWhile (· ≠ '=') with
        | _ :: value => some (String.ofList value)
        | [] => none
      match longOption? rules name with
      | none => .error ("unrecognized option '--" ++ String.ofList long ++ "'")
      | some (whole, letter) =>
        let found (value : String) : Taken :=
          { taken with options := taken.options ++ [(letter, value)] }
        match arity? letter rules.letters.toList, value?, rest with
        | some .needed, some value, rest => takeFrom rules fuel [] rest (found value)
        | some .needed, none, value :: rest => takeFrom rules fuel [] rest (found value)
        | some .needed, none, [] =>
          .error ("option '--" ++ whole ++ "' requires an argument")
        | some .attached, value?, rest => takeFrom rules fuel [] rest (found (value?.getD ""))
        | _, none, rest => takeFrom rules fuel [] rest (found "")
        | _, some _, _ => .error ("option '--" ++ whole ++ "' doesn't allow an argument")
    | '-' :: letter :: letters => takeFrom rules fuel (letter :: letters) rest taken
    | _ =>
      let taken := { taken with operands := taken.operands ++ [word] }
      if rules.inOrder then .ok { taken with operands := taken.operands ++ rest }
      else takeFrom rules fuel [] rest taken

/-- The options and the operands of arguments. -/
def take (rules : OptionRules) (arguments : List String) : Except String Taken :=
  let length := arguments.foldl (fun count word => count + word.length + 1) 1
  takeFrom rules length [] arguments { options := [], operands := [] }

/-- Reports what is wrong under the name that the program is called by. -/
def report (text : String) : Task Unit := do
  Task.complain ((← get).name ++ ": " ++ text)

/-- Tells how to learn about the program. -/
def adviseHelp : Task Unit := do
  Task.complain ("Try '" ++ (← get).name ++ " --help' for more information.")

/-- Ends a program with a line that tells how to learn about it. -/
def refuseUsage (complaint : String) (status : Nat) : Task Nat := do
  report complaint
  adviseHelp
  return status

/-- A utility that takes options. -/
def withOptions (rules : OptionRules) (status : Nat) (body : Taken → Task Nat) : Utility :=
    fun arguments => do
  if arguments.contains "--help" || arguments.contains "--version" then return 0
  match take rules arguments with
  | .ok taken => body taken
  | .error complaint => refuseUsage complaint status

/-! ## Operands -/

/-- Runs a task for each operand. The status is the greatest one. -/
def forEach (operands : List String) (task : String → Task Nat) : Task Nat :=
  operands.foldlM (fun status operand => return max status (← task operand)) 0

/-- The content of an operand, where a hyphen stands for the input. -/
def contentOf (operand : String) : Task (Except SystemFault String) := do
  if operand = "-" then return .ok (← Task.readAll)
  else return ((← get).readPath operand).map ofOctets

/-- The operands of a utility that reads the input if there are none. -/
def inputs (operands : List String) : List String :=
  if operands.isEmpty then ["-"] else operands

/-- Writes what a function makes of the content of each operand. -/
def onContents (operands : List String) (act : String → Task Unit) : Task Nat :=
  forEach (inputs operands) fun operand => do
    match ← contentOf operand with
    | .ok content =>
      act content
      return 0
    | .error fault =>
      report (quoteIfActive operand ++ ": " ++ fault.text)
      return 1

/-- The state with another tree, or a complaint. -/
def settle (result : Except SystemFault Tree) (complaint : String) : Task Nat := do
  match result with
  | .ok tree =>
    modify fun machine => { machine with tree }
    return 0
  | .error fault =>
    report (complaint ++ ": " ++ fault.text)
    return 1

/-- Writes a content to a file, in place of what is there or behind it. -/
def writeFile (path : String) (appends : Bool) (content : String) : Task (Except SystemFault Unit) :=
  fun machine =>
    match machine.openPath 64 (if appends then .append else .write) path with
    | .ok opened =>
      let written := (opened.write 64 (toOctets content)).closeStream 64
      (.ok (), written)
    | .error fault => (.error fault, machine)

/-- The number that a text with a letter for its unit stands for. -/
def sizeOf? (text : String) : Option Nat :=
  let digits := text.toList.takeWhile Char.isDigit
  let unit := String.ofList (text.toList.drop digits.length)
  let scale : Option Nat :=
    match unit with
    | "" => some 1
    | "b" => some 512
    | "c" => some 1
    | "k" => some 1024
    | "K" => some 1024
    | "KiB" => some 1024
    | "kB" => some 1000
    | "KB" => some 1000
    | "M" => some 1048576
    | "MiB" => some 1048576
    | "MB" => some 1000000
    | "G" => some 1073741824
    | _ => none
  if digits.isEmpty then none else scale.map (numberOf 10 digits * ·)

end Utility

end ManifestPin.Shell
