import ManifestPin.Shell.Assigning
import ManifestPin.Shell.Builtin.Basic
import ManifestPin.Shell.Expansion
import ManifestPin.Shell.Lookup

/-! # Commands for variables

The commands of the shell that mark, list, declare and remove variables. -/

namespace ManifestPin.Shell.Builtin

/-- Refuses a word that is no name. -/
def refuseName (word name : String) : Run Unit := do
  if ← Run.isExtended then Run.report ("\x60" ++ word ++ "': not a valid identifier")
  else Run.fail (name ++ ": bad variable name") 2

/-- A value as the extended shell declares it. -/
def declaredValue : Value → String
  | .text text =>
    if text.toList.any fun c => c < ' ' || '\x7e' < c then Expansion.quoteText text
    else marked text
  | .list entries =>
    "(" ++ " ".intercalate (entries.map fun (index, text) =>
      "[" ++ toString index ++ "]=" ++ marked text) ++ ")"
  | .table entries =>
    "(" ++ String.join (entries.map fun (key, text) => "[" ++ key ++ "]=" ++ marked text ++ " ") ++
      ")"

/-- The letters of what a variable is marked as. -/
def attributeLetters (held : Variable) : String :=
  let kind : String :=
    match held.value with
    | some (.list _) => "a"
    | some (.table _) => "A"
    | _ => ""
  let letters := kind ++ (if held.integer then "i" else "") ++ (if held.readOnly then "r" else "") ++
    (if held.exported then "x" else "")
  if letters = "" then "-" else letters

/-- The command that declares a variable in the extended shell. -/
def declaration (held : Variable) : String :=
  "declare -" ++ attributeLetters held ++ " " ++ held.name ++
    match held.value with
    | some value => "=" ++ declaredValue value
    | none => ""

/-- Lists marked variables as commands that mark them. -/
def listMarked (command : String) (wanted : Variable → Bool) : Run Unit := do
  let machine ← get
  let held := (machine.bindings.filter wanted).mergeSort fun a b => a.name ≤ b.name
  let line (entry : Variable) : String :=
    if machine.dialect = .extended then declaration entry
    else
      command ++ " " ++ entry.name ++
        match entry.value.bind Value.text? with
        | some text => "=" ++ apostrophized text
        | none => ""
  print (asLines (held.map line))

/-- Sets the variable of an assignment in one word. -/
def assignWord (name : String) (append : Bool) (text : String) : Run Unit := do
  let (base, subscript) := name.toList.span (· ≠ '[')
  match subscript with
  | '[' :: key =>
    Run.assignKey (String.ofList base) (String.ofList key.dropLast) append text
  | _ => Run.assignText name append text

/-- Marks variables, and sets those that come with a value. -/
def markAll (change : Variable → Variable) (words : List String) : Run Nat := do
  let mut status := 0
  for word in words do
    let (name, append, value?) := splitAssignment word
    if !isName name then
      refuseName word name
      status := 1
    else
      match value? with
      | some text =>
        Run.assignText name append text
      | none => pure ()
      Run.mark name change
  return status

/-- Gives variables to programs. -/
def exportCommand : Builtin := fun arguments => do
  let (found, words) ← options (if ← Run.isExtended then "fnp" else "p") arguments
  if words.isEmpty then
    listMarked "export" (·.exported)
    return 0
  else if has found 'f' then return 0
  else markAll (fun held => { held with exported := !has found 'n' }) words

/-- Makes variables read-only. -/
def readonlyCommand : Builtin := fun arguments => do
  let (_, words) ← options (if ← Run.isExtended then "aAfp" else "p") arguments
  if words.isEmpty then
    listMarked "readonly" (·.readOnly)
    return 0
  else markAll (fun held => { held with readOnly := true }) words

/-- Removes variables or functions. -/
def unset : Builtin := fun arguments => do
  let extended ← Run.isExtended
  let (found, words) ← options (if extended then "fvn" else "fv") arguments
  let mut status := 0
  for word in words do
    let machine ← get
    let (base, subscript) := word.toList.span (· ≠ '[')
    let name := String.ofList base
    if has found 'f' then
      set { machine with functions := machine.functions.filter fun held => held.name ≠ word }
    else if (machine.held? name).any (·.readOnly) then
      if extended then
        Run.report (name ++ ": cannot unset: readonly variable")
        status := 1
      else return ← Run.fail (name ++ ": is read only") 2
    else if !isName name then
      if !extended then return ← Run.fail (word ++ ": bad variable name") 2
    else if subscript.isEmpty || !extended then
      if (machine.held? name).isNone && extended && !has found 'v' then
        set { machine with functions := machine.functions.filter fun held => held.name ≠ word }
      else set (machine.unset name)
    else
      let key := String.ofList (subscript.drop 1).dropLast
      match machine.held? name with
      | none => pure ()
      | some held =>
        match held.value with
        | some (.table entries) =>
          let kept := entries.filter fun entry => entry.1 ≠ key
          set (machine.keep { held with value := some (.table kept) })
        | value =>
          if key = "@" || key = "*" then set (machine.unset name)
          else
            match Run.subscriptNumber machine (Run.listEnd value) key with
            | some index =>
              let kept := (Machine.entriesOf value).filter fun entry => entry.1 ≠ index
              set (machine.keep { held with value := some (.list kept) })
            | none =>
              Run.report (word ++ ": bad array subscript")
              status := 1
  return status

/-- Makes variables belong to the function that runs. -/
def localCommand : Builtin := fun arguments => do
  let machine ← get
  if machine.shadowed.isNone then
    if machine.dialect = .extended then
      Run.report "can only be used in a function"
      return 1
    else return ← Run.fail "not in a function" 2
  for word in arguments do
    let (name, append, value?) := splitAssignment word
    if word = "-" then pure ()
    else if !isName name then refuseName word name
    else
      if append && !machine.dialect = .extended then refuseName word (name ++ "+")
      Run.shadow name
      match value? with
      | some text => Run.assignText name append text
      | none =>
        if machine.dialect = .extended then
          Run.mark name fun held => { held with value := none }
  return 0

/-- The letters of the options that arguments of `declare` start with, those that are switched off
apart, and the words that follow. -/
def declareOptions : List String → List Char × List Char × List String
  | word :: rest =>
    match word.toList with
    | ['-', '-'] => ([], [], rest)
    | '-' :: letter :: letters =>
      let (on, off, words) := declareOptions rest
      (letter :: letters ++ on, off, words)
    | '+' :: letter :: letters =>
      let (on, off, words) := declareOptions rest
      (on, letter :: letters ++ off, words)
    | _ => ([], [], word :: rest)
  | [] => ([], [], [])

/-- Marks a variable as the letters of options say. -/
def applyLetters (on off : List Char) (held : Variable) : Variable :=
  let value : Option Value :=
    if on.contains 'A' then
      match held.value with
      | some (.table entries) => some (.table entries)
      | _ => some (.table [])
    else if on.contains 'a' then
      match held.value with
      | some (.table entries) => some (.table entries)
      | value => some (.list (Machine.entriesOf value))
    else held.value
  { held with
    value
    integer := (held.integer || on.contains 'i') && !off.contains 'i'
    exported := (held.exported || on.contains 'x') && !off.contains 'x' }

/-- Declares variables, or lists declarations. -/
def declare (atFunction : Bool) : Builtin := fun arguments => do
  let machine ← get
  let (on, off, words) := declareOptions arguments
  if atFunction && machine.shadowed.isNone then
    Run.report "can only be used in a function"
    return 1
  if on.contains 'f' || on.contains 'F' then
    let known := words.filter fun word => (machine.function? word).isSome
    if on.contains 'F' then print (asLines known)
    return if known.length = words.length then 0 else 1
  if on.contains 'p' || words.isEmpty then
    let mut status := 0
    if words.isEmpty then listMarked "declare" fun _ => true
    for word in words do
      match machine.held? word with
      | some held => print (declaration held ++ "\n")
      | none =>
        Run.report (word ++ ": not found")
        status := 1
    return status
  let mut status := 0
  for word in words do
    let (name, append, value?) := splitAssignment word
    let base := String.ofList (name.toList.takeWhile (· ≠ '['))
    if !isName base then
      refuseName word name
      status := 1
    else
      let isNew := machine.shadowed.isSome && !on.contains 'g' &&
        !(machine.shadowed.getD []).any fun entry => entry.1 = base
      if isNew then
        Run.shadow base
        Run.mark base fun held => { held with value := none }
      Run.mark base (applyLetters on off)
      match value? with
      | some text => assignWord name append text
      | none => pure ()
      if on.contains 'r' then Run.mark base fun held => { held with readOnly := true }
  return status

/-- Evaluates expressions. -/
def letCommand : Builtin := fun arguments => do
  if arguments.isEmpty then
    Run.report "expression expected"
    return 1
  let mut value : Int := 0
  for text in arguments do
    value ← Run.evaluate (some "let") text
  return if value = 0 then 1 else 0

end ManifestPin.Shell.Builtin
