import ManifestPin.Shell.Utility.Files
import ManifestPin.Shell.Utility.Processes

/-! # Finding entries

The program that walks through directories, tests the entries it comes by, and does something with
those that pass. -/

namespace ManifestPin.Shell.Utility

/-- How a size is compared. -/
inductive Measure where
  | less
  | exactly
  | more
  deriving DecidableEq

/-- What is tested of an entry, or done with it. -/
inductive Quest where
  | always (passes : Bool)
  | name (pattern : String) (folds : Bool)
  | path (pattern : String) (folds : Bool)
  | kind (letters : List Char)
  | empty
  | mode (kind : Measure) (bits : Nat)
  | size (measure : Measure) (count unit : Nat)
  | print (ending : String)
  | format (text : String)
  | delete
  | prune
  | quit
  /-- Runs a command for each entry, or once for all of them. -/
  | run (command : List String) (together : Bool)
  | negated (quest : Quest)
  | both (first second : Quest)
  | either (first second : Quest)

namespace Quest

/-- Whether an entry that passes is dealt with, so that it need not be written. -/
def acts : Quest → Bool
  | .print _ => true
  | .format _ => true
  | .delete => true
  | .quit => true
  | .run .. => true
  | .negated quest => quest.acts
  | .both first second => first.acts || second.acts
  | .either first second => first.acts || second.acts
  | _ => false

/-- Whether entries in directories come before the directories. -/
def goesDeepFirst : Quest → Bool
  | .delete => true
  | .negated quest => quest.goesDeepFirst
  | .both first second => first.goesDeepFirst || second.goesDeepFirst
  | .either first second => first.goesDeepFirst || second.goesDeepFirst
  | _ => false

end Quest

/-- What is searched for, and how deep. -/
structure Hunt where
  least : Nat := 0
  most : Option Nat := none
  deepFirst : Bool := false
  follows : Bool := false

/-! ## Reading -/

/-- A reader of the words of an expression. -/
abbrev QuestReader := StateT (List String × Hunt) (Except String)

namespace Quest

/-- Takes the word that a test needs. -/
def argument (name : String) : QuestReader String := do
  match (← get).1 with
  | word :: rest =>
    modify fun state => (rest, state.2)
    return word
  | [] => throw ("missing argument to \x60" ++ name ++ "'")

/-- The number that an option takes. -/
def depth (name : String) : QuestReader Nat := do
  let word ← argument name
  if isNumeral word then return numberOf 10 word.toList
  else
    throw ("Expected a positive decimal integer argument to " ++ name ++ ", but got '" ++ word ++
      "'")

/-- How a number with a sign is compared. -/
def measured (text : String) : Measure × String :=
  match text.toList with
  | '+' :: rest => (.more, String.ofList rest)
  | '-' :: rest => (.less, String.ofList rest)
  | _ => (.exactly, text)

/-- The words of a command, up to its end. -/
def command (name : String) : QuestReader Quest := do
  let (words, hunt) ← get
  let body := words.takeWhile (· ≠ ";")
  match words.findIdx? (· = "+") with
  | some index =>
    if 0 < index && words[index - 1]? = some "\x7b\x7d" && index < body.length then
      set (words.drop (index + 1), hunt)
      return .run (words.take (index - 1)) true
  | none => pure ()
  if body.length = words.length || body.isEmpty then
    throw ("missing argument to \x60" ++ name ++ "'")
  set (words.drop (body.length + 1), hunt)
  return .run body false

/-- A test or an action, by its name. -/
def primary (name : String) : QuestReader Quest := do
  let option (change : Hunt → Hunt) : QuestReader Quest := do
    modify fun (words, hunt) => (words, change hunt)
    return .always true
  match name with
  | "-true" => return .always true
  | "-false" => return .always false
  | "-name" => return .name (← argument name) false
  | "-iname" => return .name (← argument name) true
  | "-path" => return .path (← argument name) false
  | "-wholename" => return .path (← argument name) false
  | "-ipath" => return .path (← argument name) true
  | "-type" => do
    let letters := (piecesAt ',' (← argument name)).flatMap String.toList
    match letters.find? fun c => !("bcdpfls".toList.contains c) with
    | some c => throw ("Unknown argument to -type: " ++ String.singleton c)
    | none => return .kind letters
  | "-empty" => return .empty
  | "-perm" => do
    let text ← argument name
    let (measure, digits) : Measure × String :=
      match text.toList with
      | '-' :: rest => (.more, String.ofList rest)
      | '/' :: rest => (.less, String.ofList rest)
      | _ => (.exactly, text)
    match Permission.change? 0 false digits 0 with
    | some bits => return .mode measure bits
    | none => throw ("invalid mode '" ++ text ++ "'")
  | "-size" => do
    let (measure, text) := measured (← argument name)
    let digits := text.toList.takeWhile Char.isDigit
    let unit : Nat :=
      match text.toList.drop digits.length with
      | ['c'] => 1
      | ['w'] => 2
      | ['k'] => 1024
      | ['M'] => 1048576
      | ['G'] => 1073741824
      | _ => 512
    return .size measure (numberOf 10 digits) unit
  | "-print" => return .print "\n"
  | "-print0" => return .print "\x00"
  | "-printf" => return .format (← argument name)
  | "-delete" => return .delete
  | "-prune" => return .prune
  | "-quit" => return .quit
  | "-exec" => command name
  | "-execdir" => command name
  | "-maxdepth" => do
    let most ← depth name
    option fun hunt => { hunt with most := some most }
  | "-mindepth" => do
    let least ← depth name
    option fun hunt => { hunt with least }
  | "-depth" => option fun hunt => { hunt with deepFirst := true }
  | "-follow" => option fun hunt => { hunt with follows := true }
  | "-xdev" => return .always true
  | "-mount" => return .always true
  | _ =>
    if name.startsWith "-" then throw ("unknown predicate \x60" ++ name ++ "'")
    else throw ("paths must precede expression: \x60" ++ name ++ "'")

/-- The tightness of what is read: tests between `or`, tests that follow each other, and one test. -/
inductive Level where
  | choice
  | sequence
  | single

/-- Reads an expression. -/
def read : (fuel : Nat) → Level → QuestReader Quest
  | 0, _ => throw "expression too long"
  | fuel + 1, .choice => do
    let first ← read fuel .sequence
    match (← get).1 with
    | word :: rest =>
      if word = "-o" || word = "-or" then
        modify fun state => (rest, state.2)
        return .either first (← read fuel .choice)
      else return first
    | [] => return first
  | fuel + 1, .sequence => do
    let first ← read fuel .single
    match (← get).1 with
    | [] => return first
    | word :: rest =>
      if word = "-o" || word = "-or" || word = ")" then return first
      else
        if word = "-a" || word = "-and" then modify fun state => (rest, state.2)
        return .both first (← read fuel .sequence)
  | fuel + 1, .single => do
    match (← get).1 with
    | [] => throw "expected an expression"
    | word :: rest =>
      modify fun state => (rest, state.2)
      match word with
      | "!" => return .negated (← read fuel .single)
      | "-not" => return .negated (← read fuel .single)
      | "(" => do
        let unclosed := "invalid expression; expected to find a ')' but didn't see one. " ++
          "Perhaps you need an extra predicate after '('"
        if (← get).1.isEmpty then throw unclosed
        let inner ← read fuel .choice
        match (← get).1 with
        | ")" :: rest =>
          modify fun state => (rest, state.2)
          return inner
        | _ => throw unclosed
      | other => primary other

end Quest

/-! ## Walking -/

/-- An entry that a walk comes by. -/
structure Visit where
  path : String
  /-- The path without that of the start of the walk. -/
  below : String
  depth : Nat
  location : Location
  entry : Entry

/-- The state of a walk. -/
structure Walk where
  pruned : Bool := false
  ended : Bool := false
  status : Nat := 0
  /-- The commands that run once at the end, with their paths. -/
  together : List (List String × List String) := []

/-- A walk. -/
abbrev Walking := StateT Walk Task

namespace Quest

/-- Whether a pattern matches a text. -/
def fits (pattern : String) (folds : Bool) (text : String) : Bool :=
  let fold (text : String) : String := if folds then text.map Char.toLower else text
  Pattern.accepts false ((fold pattern).toList.map fun c => (c, false)) (fold text)

/-- The letter for the kind of an entry. -/
def letterOf : Entry → Char
  | .file .. => 'f'
  | .directory _ => 'd'
  | .link _ => 'l'
  | .sink => 'c'

/-- The size of an entry. -/
def sizeOf : Entry → Nat
  | .file content _ => content.size
  | .directory _ => 4096
  | .link target => target.utf8ByteSize
  | .sink => 0

/-- A format with what it says about an entry. -/
def written (visit : Visit) : List Char → String
  | '\\' :: 'n' :: rest => "\n" ++ written visit rest
  | '\\' :: 't' :: rest => "\t" ++ written visit rest
  | '\\' :: '0' :: rest => "\x00" ++ written visit rest
  | '\\' :: '\\' :: rest => "\\" ++ written visit rest
  | '%' :: c :: rest =>
    let text : String :=
      match c with
      | 'p' => visit.path
      | 'P' => visit.below
      | 'f' => lastName visit.path
      | 'h' => parentPath visit.path
      | 's' => toString (sizeOf visit.entry)
      | 'm' => digitsOf 8 visit.entry.mode
      | 'y' => String.singleton (letterOf visit.entry)
      | 'd' => toString visit.depth
      | 'l' =>
        match visit.entry with
        | .link target => spread target
        | _ => ""
      | '%' => "%"
      | c => "%" ++ String.singleton c
    text ++ written visit rest
  | c :: rest => String.singleton c ++ written visit rest
  | [] => ""

/-- Tests an entry, and does what is to be done with it. -/
def meets (launch : Launcher) (visit : Visit) : Quest → Walking Bool
  | .always passes => return passes
  | .name pattern folds => return fits pattern folds (lastName visit.path)
  | .path pattern folds => return fits pattern folds visit.path
  | .kind letters => return letters.contains (letterOf visit.entry)
  | .empty => do
    match visit.entry with
    | .file content _ => return content.size = 0
    | .directory _ =>
      let machine ← (fun walk machine => ((machine, walk), machine) : Walking Machine)
      return (machine.tree.names visit.location).isEmpty
    | _ => return false
  | .mode measure bits => do
    let mode := visit.entry.mode
    match measure with
    | .exactly => return mode = bits
    | .more => return mode &&& bits = bits
    | .less => return bits = 0 || mode &&& bits ≠ 0
  | .size measure count unit => do
    let size := (sizeOf visit.entry + unit - 1) / unit
    match measure with
    | .exactly => return size = count
    | .more => return count < size
    | .less => return size < count
  | .print ending => do
    Task.print (visit.path ++ ending)
    return true
  | .format text => do
    Task.print (written visit text.toList)
    return true
  | .delete => do
    if visit.path = "." then return true
    let machine ← (fun walk machine => ((machine, walk), machine) : Walking Machine)
    let result :=
      if visit.entry.isDirectory then removeEmpty machine visit.path
      else machine.tree.removeFile (gather visit.path)
    let status ← settle result ("cannot delete " ++ quote visit.path)
    modify fun walk => { walk with status := max walk.status status }
    return status = 0
  | .prune => do
    modify fun walk => { walk with pruned := true }
    return true
  | .quit => do
    modify fun walk => { walk with ended := true }
    return true
  | .run command true => do
    modify fun walk =>
      let paths := (walk.together.lookup command).getD []
      { walk with
        together := walk.together.filter (fun entry => entry.1 ≠ command) ++
          [(command, paths ++ [visit.path])] }
    return true
  | .run command false => do
    let words := command.map fun word => word.replace "\x7b\x7d" visit.path
    let name := words.headD ""
    match ← startNamed launch name words.tail with
    | .ok ended => return ended = .status 0
    | .error fault =>
      report (quote name ++ ": " ++ fault.text)
      return false
  | .negated quest => return !(← meets launch visit quest)
  | .both first second => do
    if ← meets launch visit first then meets launch visit second else return false
  | .either first second => do
    if ← meets launch visit first then return true else meets launch visit second

end Quest

/-- Walks through an entry and what is below it. At most `fuel` levels are walked. -/
def walk (launch : Launcher) (hunt : Hunt) (quest : Quest) :
    (fuel : Nat) → (depth : Nat) → (path below : String) → Walking Unit
  | 0, _, _, _ => return
  | fuel + 1, depth, path, below => do
    if (← get).ended then return
    let machine ← (fun walk machine => ((machine, walk), machine) : Walking Machine)
    let tree := machine.tree
    let location? : Except SystemFault Location := do
      match tree.slot? (gather path) with
      | .ok (some slot) =>
        if hunt.follows then
          match tree.resolve (gather path) with
          | .ok location => return location
          | .error _ => return slot.location
        else return slot.location
      | .ok none => tree.resolve (gather path)
      | .error fault => throw fault
    let found : Except SystemFault (Location × Entry) := do
      let location ← location?
      match tree.get? location with
      | some entry => return (location, entry)
      | none => throw .noEntry
    match found with
    | .error fault =>
      report (quote path ++ ": " ++ fault.text)
      modify fun walk => { walk with status := 1 }
    | .ok (location, entry) =>
      let visit : Visit := { path, below, depth, location, entry }
      let test : Walking Unit := do
        if hunt.least ≤ depth then
          let _ ← quest.meets launch visit
      let enter : Walking Unit := do
        if entry.isDirectory && hunt.most.all (depth < ·) && !(← get).pruned then
          let names := ((tree.names location).map spread).mergeSort fun a b => a ≤ b
          for name in names do
            let inside := if path.endsWith "/" then path ++ name else path ++ "/" ++ name
            walk launch hunt quest fuel (depth + 1) inside
              (if below = "" then name else below ++ "/" ++ name)
      if hunt.deepFirst then
        enter
        if !(← get).ended then test
      else
        test
        enter
        modify fun walk => { walk with pruned := false }

/-- Finds entries, and does something with them. -/
def find (launch : Launcher) : Utility := fun arguments => do
  let follows := arguments.head? = some "-L"
  let arguments := arguments.dropWhile fun word => word = "-L" || word = "-P" || word = "-H"
  let isPath (word : String) : Bool :=
    !(word.startsWith "-" && 1 < word.length) && word ≠ "(" && word ≠ "!" && word ≠ ")"
  let paths := arguments.takeWhile isPath
  let words := arguments.drop paths.length
  let paths := if paths.isEmpty then ["."] else paths
  let read : Except String (Quest × List String × Hunt) :=
    if words.isEmpty then .ok (.print "\n", [], {})
    else (Quest.read (4 * words.length + 8) .choice).run (words, {})
  match read with
  | .error complaint =>
    report complaint
    return 1
  | .ok (quest, rest, hunt) =>
    match rest with
    | word :: _ =>
      report (if word = ")" then
          "invalid expression; you have used a binary operator '-o' with nothing before it."
        else "paths must precede expression: \x60" ++ word ++ "'")
      return 1
    | [] =>
      let quest := if quest.acts then quest else .both quest (.print "\n")
      let hunt :=
        { hunt with
          deepFirst := hunt.deepFirst || quest.goesDeepFirst, follows := hunt.follows || follows }
      let action : Walking Unit := do
        for path in paths do
          walk launch hunt quest 256 0 path ""
      let (_, result) ← action.run {}
      let mut status := result.status
      for (command, found) in result.together do
        match ← startNamed launch (command.headD "") (command.tail ++ found) with
        | .ok (.status 0) => pure ()
        | .ok _ => status := 1
        | .error fault =>
          report (quote (command.headD "") ++ ": " ++ fault.text)
          status := 1
      return status

end ManifestPin.Shell.Utility
