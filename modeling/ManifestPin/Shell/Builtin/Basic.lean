import ManifestPin.Shell.Parameter

/-! # Commands of the shell

What the commands have in common that a shell runs itself: they are runs that end with a status, and
read their options in the same way. -/

namespace ManifestPin.Shell

/-- A command of the shell: from its arguments to its exit status. -/
abbrev Builtin := List String → Run Nat

namespace Builtin

/-- Runs a task. -/
def task (action : Task α) : Run α :=
  fun machine =>
    match action machine with
    | (result, machine) => (.ok result, machine)

/-- Writes a text to the output. -/
def print (text : String) : Run Unit :=
  task (Task.print text)

/-- Ends a command with a message, with statuses for the standard and the extended dialect. -/
def refuse (standard : String) (extended : String) (status : Nat) : Run Nat := do
  if ← Run.isExtended then
    Run.report extended
    return status
  else Run.fail standard 2

/-- Whether a letter is a known option, and whether it takes a value. Known letters in front of a
colon do. -/
def takesValue? (letter : Char) : List Char → Option Bool
  | [] => none
  | known :: rest =>
    if known = letter && letter ≠ ':' then some (rest.head? = some ':')
    else takesValue? letter rest

/-- Refuses an option. -/
def refuseOption (standard extended : String) : Run α := do
  if ← Run.isExtended then Run.fail extended 2 else Run.fail standard 2

/-- The options of arguments and what follows them, where `letters` are left of the current
argument. -/
def readOptions (known : String) : (fuel : Nat) → (letters : List Char) →
    (found : List (Char × String)) → List String → Run (List (Char × String) × List String)
  | 0, _, found, rest => return (found, rest)
  | fuel + 1, letter :: letters, found, rest => do
    let option := "-" ++ String.singleton letter
    match takesValue? letter known.toList with
    | some false => readOptions known fuel letters (found ++ [(letter, "")]) rest
    | some true =>
      if !letters.isEmpty then
        readOptions known fuel [] (found ++ [(letter, String.ofList letters)]) rest
      else
        match rest with
        | value :: rest => readOptions known fuel [] (found ++ [(letter, value)]) rest
        | [] =>
          refuseOption ("No arg for " ++ option ++ " option")
            (option ++ ": option requires an argument")
    | none => refuseOption ("Illegal option " ++ option) (option ++ ": invalid option")
  | fuel + 1, [], found, rest => do
    match rest with
    | "--" :: rest => return (found, rest)
    | "-" :: _ => return (found, rest)
    | word :: more =>
      match word.toList with
      | '-' :: letters => readOptions known fuel letters found more
      | _ => return (found, rest)
    | [] => return (found, [])

/-- The options of arguments and what follows them. Letters in front of a colon take a value. -/
def options (known : String) (arguments : List String) :
    Run (List (Char × String) × List String) :=
  let length := arguments.foldl (fun count word => count + word.length + 1) 1
  readOptions known length [] [] arguments

/-- Whether an option is among those found. -/
def has (found : List (Char × String)) (letter : Char) : Bool :=
  found.any fun entry => entry.1 = letter

/-- The natural number that an argument is, as the standard dialect demands. -/
def natural (text : String) : Run Nat := do
  if isNumeral text then return numberOf 10 text.toList
  else Run.fail ("Illegal number: " ++ text) 2

/-- A text between apostrophes. -/
def apostrophized (text : String) : String :=
  "'" ++ text.replace "'" "'\"'\"'" ++ "'"

/-- Whether a character of a word means something of its own. -/
def isActive (c : Char) : Bool :=
  " \t\n'\"\\|&;()<>!\x7b\x7d*[]?^$\x60".toList.contains c

/-- Whether a word has to be quoted to stand for itself. -/
def needsQuotes (text : String) : Bool :=
  let starts := (text.toList.head?).any fun c => c = '#' || c = '~'
  text = "" || starts || text.toList.any isActive ||
    ["=~", ":~"].any fun part => 1 < (text.splitOn part).length

/-- A text as the extended shell lists it: in apostrophes only where that is needed. -/
def listed (text : String) : String :=
  if needsQuotes text then "'" ++ text.replace "'" "'\\''" ++ "'" else text

/-- A text between quotation marks. -/
def marked (text : String) : String :=
  let escape (c : Char) : String :=
    if c = '"' || c = '\\' || c = '$' || c = '\x60' then String.ofList ['\\', c]
    else String.singleton c
  "\"" ++ String.join (text.toList.map escape) ++ "\""

/-- The name and the value of an assignment in one word, and whether the value is added. -/
def splitAssignment (word : String) : String × Bool × Option String :=
  let (name, rest) := word.toList.span (· ≠ '=')
  match rest with
  | [] => (word, false, none)
  | _ :: value =>
    if name.getLast? = some '+' then
      (String.ofList name.dropLast, true, some (String.ofList value))
    else (String.ofList name, false, some (String.ofList value))

end Builtin

end ManifestPin.Shell
