import ManifestPin.Shell.Builtin.Variables

/-! # Commands for names

The commands of the shell that tell what names mean, and that give them other meanings. -/

namespace ManifestPin.Shell.Builtin

/-- The line that lists a word that stands for another text. -/
def aliasLine (dialect : Dialect) (entry : String × String) : String :=
  match dialect with
  | .standard => entry.1 ++ "=" ++ apostrophized entry.2
  | .extended => "alias " ++ entry.1 ++ "='" ++ entry.2.replace "'" "'\\''" ++ "'"

/-- Lets words stand for other texts, or lists such words. -/
def aliasCommand : Builtin := fun arguments => do
  let machine ← get
  let extended := machine.dialect = .extended
  let (_, words) ← (if extended then options "p" arguments else return ([], arguments))
  if words.isEmpty then
    let entries := machine.aliases.mergeSort fun a b => a.1 ≤ b.1
    print (asLines (entries.map (aliasLine machine.dialect)))
  let mut status := 0
  for word in words do
    let (name, value) := word.toList.span (· ≠ '=')
    let name := String.ofList name
    match value with
    | _ :: value =>
      modify fun machine =>
        { machine with
          aliases := (name, String.ofList value) ::
            machine.aliases.filter fun entry => entry.1 ≠ name }
    | [] =>
      match machine.aliases.lookup word with
      | some text => print (aliasLine machine.dialect (word, text) ++ "\n")
      | none =>
        if extended then Run.report (word ++ ": not found")
        else task (Task.complain ("alias: " ++ word ++ " not found"))
        status := 1
  return status

/-- Lets words stand for themselves again. -/
def unaliasCommand : Builtin := fun arguments => do
  let (found, words) ← options "a" arguments
  let extended ← Run.isExtended
  if has found 'a' then
    modify fun machine => { machine with aliases := [] }
    return 0
  if extended && words.isEmpty then
    task (Task.complain "unalias: usage: unalias [-a] name [name ...]")
    return 2
  let mut status := 0
  for word in words do
    let machine ← get
    if (machine.aliases.lookup word).isSome then
      set { machine with aliases := machine.aliases.filter fun entry => entry.1 ≠ word }
    else
      if extended then Run.report (word ++ ": not found")
      else task (Task.complain ("unalias: " ++ word ++ " not found"))
      status := 1
  return status

/-- Looks programs up ahead. -/
def hash : Builtin := fun arguments => do
  let extended ← Run.isExtended
  let (found, words) ← options (if extended then "lrp:dt" else "rv") arguments
  if extended && words.isEmpty && found.isEmpty then
    print "hash: hash table empty\n"
    return 0
  let mut status := 0
  for word in words do
    match (← get).meaning false word with
    | .unknown =>
      Run.report (word ++ ": not found")
      status := 1
    | .program path => if has found 't' then print (path ++ "\n")
    | _ => pure ()
  return status

/-- How a name is described. -/
inductive Description where
  /-- In a sentence. -/
  | sentence
  /-- By what to write for it. -/
  | short
  /-- By the kind of what it means. -/
  | kind
  /-- By the path of the program. -/
  | path (always : Bool)
  deriving DecidableEq

/-- The description of a name, unless it means nothing. -/
def describe? (machine : Machine) (style : Description) (name : String) : Option String :=
  let standard := machine.dialect = .standard
  let usesAliases := standard || machine.isOn "expand_aliases"
  let forced := style = .path true
  let program (path : String) : Option String :=
    match style with
    | .sentence => some (name ++ " is " ++ path)
    | .kind => some "file"
    | _ => some path
  let pick (sentence short kind : String) : Option String :=
    match style with
    | .sentence => some (name ++ " is " ++ sentence)
    | .short => some short
    | .kind => some kind
    | .path _ => some ""
  match if usesAliases && !forced then machine.aliases.lookup name else none with
  | some text =>
    if standard then pick ("an alias for " ++ text) ("alias " ++ aliasLine .standard (name, text)) ""
    else pick ("aliased to \x60" ++ text ++ "'") (aliasLine .extended (name, text)) "alias"
  | none =>
    if (Reader.reservedWords machine.dialect).contains name && !forced then
      pick "a shell keyword" name "keyword"
    else
      match if forced then machine.search name else machine.meaning false name with
      | .reserved => none
      | .function _ => pick (if standard then "a shell function" else "a function") name "function"
      | .builtin =>
        let isSpecial := machine.dialect.isSpecial name
        pick (if isSpecial then "a special shell builtin" else "a shell builtin") name "builtin"
      | .program path => program path
      | .refused path =>
        if standard && name.toList.contains '/' && machine.tree.isFile (gather path) then
          program path
        else none
      | .unknown => none

/-- Describes names. -/
def describeAll (style : Description) (words : List String) : Run Nat := do
  let mut status := 0
  for word in words do
    let machine ← get
    match describe? machine style word with
    | some "" => pure ()
    | some text => print (text ++ "\n")
    | none =>
      if machine.dialect = .standard then
        if style = .sentence then print (word ++ ": not found\n")
        status := 127
      else
        if style = .sentence then Run.report (word ++ ": not found")
        status := 1
  return status

/-- Describes what names mean. -/
def typeCommand : Builtin := fun arguments => do
  if ← Run.isExtended then
    let (found, words) ← options "afptP" arguments
    let style : Description :=
      if has found 't' then .kind
      else if has found 'P' then .path true
      else if has found 'p' then .path false
      else .sentence
    describeAll style words
  else describeAll .sentence arguments

/-- Describes what names mean for a command, in short or in sentences. Of many names at once in the
extended dialect one that means something is enough. -/
def describeCommands (short : Bool) (words : List String) : Run Nat := do
  let machine ← get
  let style : Description := if short then .short else .sentence
  match machine.dialect with
  | .standard => describeAll style (words.take 1)
  | .extended =>
    let status ← describeAll style words
    let anyFound := words.any fun word => (describe? machine style word).isSome
    return if anyFound then 0 else status

/-- Options of the extended shell that `shopt` sets. -/
def shellOptions : List String :=
  ["dotglob", "expand_aliases", "extglob", "failglob", "globstar", "inherit_errexit", "lastpipe",
    "nocaseglob", "nocasematch", "nullglob", "sourcepath", "checkwinsize", "globskipdots",
    "patsub_replacement", "xpg_echo"]

/-- Sets options of the extended shell. -/
def shopt : Builtin := fun arguments => do
  let (found, names) ← options "opqsu" arguments
  let mut status := 0
  for name in names do
    let machine ← get
    if !shellOptions.contains name && !has found 'o' then
      Run.report (name ++ ": invalid shell option name")
      status := 1
    else if has found 's' then set (machine.setMode name true)
    else if has found 'u' then set (machine.setMode name false)
    else
      let isOn := machine.isOn name
      if !isOn then status := 1
      if !has found 'q' then
        print (padEnd 15 name ++ "\t" ++ (if isOn then "on" else "off") ++ "\n")
  return status

end ManifestPin.Shell.Builtin
