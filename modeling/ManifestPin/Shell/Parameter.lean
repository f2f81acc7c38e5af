import ManifestPin.Shell.Arithmetic
import ManifestPin.Shell.Run

/-! # Parameters

The values that parameters have, and how variables and the elements of lists are set. -/

namespace ManifestPin.Shell

namespace Machine

/-- The letters of the options of the shell that are on. -/
def modeLetters (machine : Machine) : String :=
  let letters : List (String × Char) :=
    match machine.dialect with
    | .standard =>
      [("nounset", 'u'), ("notify", 'b'), ("allexport", 'a'), ("noclobber", 'C'),
        ("verbose", 'v'), ("xtrace", 'x'), ("stdin", 's'), ("noexec", 'n'), ("monitor", 'm'),
        ("interactive", 'i'), ("ignoreeof", 'I'), ("noglob", 'f'), ("errexit", 'e')]
    | .extended =>
      [("allexport", 'a'), ("errexit", 'e'), ("noglob", 'f'), ("hashall", 'h'), ("noexec", 'n'),
        ("nounset", 'u'), ("verbose", 'v'), ("xtrace", 'x'), ("braceexpand", 'B'),
        ("noclobber", 'C'), ("command", 'c'), ("stdin", 's')]
  String.ofList ((letters.filter fun entry => machine.isOn entry.1).map (·.2))

/-- The names of the functions and files that are running, and of the script. -/
def callNames (machine : Machine) : List String :=
  machine.running.map (·.name) ++ (machine.main.map fun _ => "main").toList

/-- The files that hold the commands that are running. -/
def callFiles (machine : Machine) : List String :=
  machine.running.map (fun frame => frame.file.getD "environment") ++ machine.main.toList

/-- The lines in which the functions and files that are running were called. -/
def callLines (machine : Machine) : List String :=
  machine.running.map (fun frame => toString frame.line) ++ (machine.main.map fun _ => "0").toList

/-- The lists that the extended shell itself keeps. -/
def ownList? (machine : Machine) (name : String) : Option (List String) :=
  match machine.dialect, name with
  | .standard, _ => none
  | .extended, "FUNCNAME" =>
    some (if machine.running.any (·.isFunction) then machine.callNames else [])
  | .extended, "BASH_SOURCE" => some machine.callFiles
  | .extended, "BASH_LINENO" => some machine.callLines
  | .extended, "BASH_VERSINFO" => some ["5", "2", "15", "1", "release", "x86_64-pc-linux-gnu"]
  | .extended, "DIRSTACK" => some (machine.here :: machine.directories)
  | .extended, "GROUPS" => some ["0"]
  | .extended, _ => none

/-- The value of a variable. -/
def value? (machine : Machine) (name : String) : Option Value :=
  match machine.ownList? name with
  | some texts => some (.list (texts.zipIdx.map fun (text, index) => (index, text)))
  | none => (machine.held? name).bind (·.value)

/-- The elements of a variable. -/
def elements (machine : Machine) (name : String) : List String :=
  if name = "@" || name = "*" then machine.arguments
  else
    match machine.value? name with
    | some (.text text) => [text]
    | some (.list entries) => entries.map (·.2)
    | some (.table entries) => entries.map (·.2)
    | none => []

/-- The subscripts of a variable. -/
def subscripts (machine : Machine) (name : String) : List String :=
  match machine.value? name with
  | some (.text _) => ["0"]
  | some (.list entries) => entries.map fun entry => toString entry.1
  | some (.table entries) => entries.map (·.1)
  | none => []

/-- The value of a parameter. -/
def parameter? (machine : Machine) (name : String) : Option String :=
  match name.toList with
  | ['?'] => some (toString machine.status)
  | ['#'] => some (toString machine.arguments.length)
  | ['$'] => some (toString machine.shell)
  | ['!'] => machine.background.map toString
  | ['-'] => some machine.modeLetters
  | c :: _ =>
    if c.isDigit then
      match name.toNat? with
      | some 0 => some machine.name
      | some index => machine.arguments[index - 1]?
      | none => none
    else
      match machine.dialect, name with
      | .extended, "LINENO" => some (toString machine.line)
      | .extended, "BASHPID" => some (toString machine.process)
      | .extended, "BASH_SUBSHELL" => some (toString machine.subshells)
      | .extended, "SECONDS" => some "0"
      | .extended, "UID" => some "0"
      | .extended, "EUID" => some "0"
      | _, "PPID" => some machine.parent
      | _, name =>
        match machine.ownList? name with
        | some texts => texts.head?
        | none => machine.text? name
  | [] => none

/-- Entries with one in place of that of its number. -/
def putEntry (entries : List (Nat × String)) (index : Nat) (text : String) :
    List (Nat × String) :=
  entries.filter (fun entry => entry.1 < index) ++ [(index, text)] ++
    entries.filter fun entry => index < entry.1

/-- Entries with one in place of that of its key. -/
def putKey (entries : List (String × String)) (key text : String) : List (String × String) :=
  if entries.any fun entry => entry.1 = key then
    entries.map fun entry => if entry.1 = key then (key, text) else entry
  else entries ++ [(key, text)]

/-- The entries of a list that a value is. -/
def entriesOf : Option Value → List (Nat × String)
  | some (.list entries) => entries
  | some (.text text) => [(0, text)]
  | _ => []

end Machine

namespace Run

/-- The message of a fault in an expression, in the extended dialect. -/
def arithmeticComplaint (text : String) : Arithmetic.Fault → String
  | .other complaint => String.ofList (text.toList.dropWhile isBlank) ++ ": " ++ complaint
  | .unset name => name ++ ": unbound variable"
  | fault => fault.standard text

/-- The value that an expression reads for a variable or an element. -/
def arithmeticValue (machine : Machine) (index : String → Option Nat) (name : String)
    (subscript : Option String) : Option String :=
  match subscript with
  | none => machine.parameter? name
  | some key =>
    match machine.value? name with
    | some (.table entries) => entries.lookup key
    | some (.list entries) => (index key).bind fun index => entries.lookup index
    | some (.text text) => if index key = some 0 then some text else none
    | none => none

/-- The number of a subscript: an expression, where negative ones count from behind. -/
def subscriptNumber (machine : Machine) (count : Nat) (text : String) : Option Nat :=
  let setting : Arithmetic.Setting :=
    { dialect := machine.dialect
      strict := false
      value? := fun name _ => machine.parameter? name }
  match Arithmetic.evaluate setting text with
  | .ok (value, _) =>
    if 0 ≤ value then some value.toNat
    else if -value ≤ count then some (count - (-value).toNat) else none
  | .error _ => none

/-- One more than the greatest number of a list. -/
def listEnd (value : Option Value) : Nat :=
  match (Machine.entriesOf value).getLast? with
  | some entry => entry.1 + 1
  | none => 0

/-- Assigns an element of a list. -/
def assignElement (name key text : String) : Run Unit := do
  let machine ← get
  let held := (machine.held? name).getD { name, value := none }
  match held.value with
  | some (.table entries) =>
    set (machine.keep { held with value := some (.table (Machine.putKey entries key text)) })
  | value =>
    match subscriptNumber machine (listEnd value) key with
    | some index =>
      let entries := Machine.putEntry (Machine.entriesOf value) index text
      set (machine.keep { held with value := some (.list entries) })
    | none =>
      report (name ++ "[" ++ key ++ "]: bad array subscript")
      exit 1
      throw .fault

/-- The value of an expression. What it assigns is assigned. -/
def evaluate (caller : Option String) (text : String) : Run Int := do
  let machine ← get
  let index (name key : String) : Option Nat :=
    subscriptNumber machine (listEnd ((machine.held? name).bind (·.value))) key
  let setting : Arithmetic.Setting :=
    { dialect := machine.dialect
      strict := machine.isOn "nounset"
      value? := fun name key => arithmeticValue machine (index name) name key }
  match Arithmetic.evaluate setting text with
  | .ok (value, writes) =>
    for (name, subscript, value) in writes do
      match subscript with
      | some key => assignElement name key (toString value)
      | none => assign name (toString value)
    return value
  | .error fault =>
    match machine.dialect with
    | .standard => fail (fault.standard text) 2
    | .extended =>
      let caller := caller.orElse fun _ => machine.caller
      calling caller (report (arithmeticComplaint text fault))
      exit 1
      throw .fault

end Run

end ManifestPin.Shell
