import ManifestPin.Shell.Editing.Reader

/-! # Running editing scripts

A script is run on each line of an input in turn. A line that is not dropped is written behind what
its commands write, and in front of the texts and files that they add to it. -/

namespace ManifestPin.Shell.Editing

/-- A line, and whether its end is written. -/
structure Line where
  text : String
  ended : Bool

/-- What is written to a file: the pieces, the last one first, and whether the end of the last line
is still to come. -/
structure Written where
  pieces : List String := []
  owesEnd : Bool := false

namespace Written

/-- What is written when a text is added. -/
def add (written : Written) (delimiter : Char) (text : String) : Written :=
  let ending := if written.owesEnd then [String.singleton delimiter] else []
  { pieces := text :: (ending ++ written.pieces) }

/-- What is written when a line is added. -/
def addLine (written : Written) (delimiter : Char) (line : Line) : Written :=
  let text := if line.ended then line.text ++ String.singleton delimiter else line.text
  { written.add delimiter text with owesEnd := !line.ended }

/-- All that is written. -/
def text (written : Written) : String :=
  String.join written.pieces.reverse

end Written

/-- What is written behind a line. -/
inductive Addition where
  | text (text : String)
  | file (path : String)

/-- How far a range reaches. -/
inductive Reach where
  | upTo (number : Nat)
  | toLast
  | upToMatch (regex : Option Regex)

/-- The state of a run. -/
structure State where
  line : Line := { text := "", ended := true }
  kept : Line := { text := "", ended := true }
  number : Nat := 0
  /-- The lines to come. -/
  coming : List Line
  /-- The ranges that have started, each with the index of its command. -/
  ranges : List (Nat × Reach)
  additions : List Addition := []
  /-- Whether a substitution has replaced anything since the last branch or line. -/
  replaced : Bool := false
  /-- The expression that was used last. -/
  latest : Option Regex := none
  output : Written := {}
  /-- What is written to files. -/
  files : List (String × Written)

/-- Why the commands for a line end before the last one. -/
inductive Ending where
  /-- The next line is due. -/
  | dropped
  /-- The script starts again on the rest of the line. -/
  | again
  | quit (status : Nat)
  | failed (fault : Fault)

/-- A run of commands. -/
abbrev Run := ExceptT Ending (StateM State)

namespace Run

/-- Whether the current line is the last one. -/
def isLast : Run Bool := do
  return (← get).coming.isEmpty

/-- The expression that is meant, which is then the one used last. -/
def expression : Option Regex → Run Regex
  | some regex => do
    modify fun state => { state with latest := some regex }
    return regex
  | none => do
    match (← get).latest with
    | some regex => return regex
    | none => throw (.failed .unusedExpression)

/-- Whether the line matches an expression. -/
def holds (regex : Option Regex) : Run Bool := do
  let regex ← expression regex
  return regex.occursIn (← get).line.text

/-- Whether an address tells the line. -/
def isAt : Address → Run Bool
  | .line number => return (← get).number = number
  | .step first step => do
    let number := (← get).number
    return if step = 0 then number = first else first ≤ number && (number - first) % step = 0
  | .last => isLast
  | .holding regex => holds regex

/-- How far a range reaches that starts at the line, if it goes beyond it. -/
def reach? : Bound → Run (Option Reach)
  | .line number => do
    let current := (← get).number
    return if number ≤ current then none else some (.upTo number)
  | .last => do
    let isLast ← isLast
    return if isLast then none else some .toLast
  | .holding regex => return some (.upToMatch regex)
  | .more count => do
    let current := (← get).number
    return if count = 0 then none else some (.upTo (current + count))
  | .multiple number => do
    let current := (← get).number
    if number = 0 then return none
    else return some (.upTo ((current / number + 1) * number))

/-- Ends the range of a command. -/
def endRange (index : Nat) : Run Unit :=
  modify fun state =>
    { state with ranges := state.ranges.filter fun entry => entry.1 ≠ index }

/-- Whether the command at an index selects the line. -/
def isSelected (index : Nat) : Selection → Run Bool
  | .every => return true
  | .one address => isAt address
  | .range first bound => do
    match (← get).ranges.lookup index with
    | some (.upTo number) =>
      let current := (← get).number
      if number ≤ current then endRange index
      return current ≤ number
    | some .toLast =>
      if ← isLast then endRange index
      return true
    | some (.upToMatch regex) =>
      if ← holds regex then endRange index
      return true
    | none =>
      if ← isAt first then
        match ← reach? bound with
        | some reach =>
          modify fun state => { state with ranges := (index, reach) :: state.ranges }
        | none => pure ()
        return true
      else return false

/-! ## Writing -/

/-- Writes a text. -/
def write (script : Script) (text : String) : Run Unit :=
  modify fun state => { state with output := state.output.add script.delimiter text }

/-- Writes a line. -/
def writeLine (script : Script) (line : Line) : Run Unit :=
  modify fun state => { state with output := state.output.addLine script.delimiter line }

/-- Writes a line to a file. -/
def writeTo (script : Script) (path : String) (line : Line) : Run Unit := do
  if path = "/dev/stdout" then writeLine script line
  else
    modify fun state =>
      { state with
        files := state.files.map fun entry =>
          if entry.1 = path then (path, entry.2.addLine script.delimiter line) else entry }

/-- Writes what has been added to the line. -/
def flush (script : Script) (read : String → Option String) : Run Unit := do
  let additions := (← get).additions
  modify fun state => { state with additions := [] }
  for addition in additions do
    match addition with
    | .text text => write script text
    | .file path =>
      match read path with
      | some content => write script content
      | none => pure ()

/-- Writes the line as at the end of the script. -/
def finish (script : Script) : Run Unit := do
  if !script.quiet then writeLine script (← get).line

/-- A character in a form that can be seen. -/
def displayed (c : Char) : String :=
  match c with
  | '\\' => "\\\\"
  | '\x07' => "\\a"
  | '\x08' => "\\b"
  | '\x0c' => "\\f"
  | '\n' => "\\n"
  | '\x0d' => "\\r"
  | '\t' => "\\t"
  | '\x0b' => "\\v"
  | c =>
    if ' ' ≤ c && c ≤ '~' then String.singleton c
    else "\\" ++ padStart 3 '0' (digitsOf 8 c.toNat)

/-- A line in a form that can be seen, in pieces of a width. -/
def display (width : Nat) (text : String) : String :=
  let (shown, _) := (text.toList.map displayed).foldl
    (fun ((shown, used) : List String × Nat) piece =>
      if 1 < width && width - 1 < used + piece.length then
        (piece :: "\\\n" :: shown, piece.length)
      else (piece :: shown, used + piece.length))
    ([], 0)
  String.join shown.reverse ++ "$\n"

/-! ## Replacing -/

/-- The matches of an expression from a position on. An empty match right behind another one does
not count. -/
def matchesFrom (regex : Regex) (text : Array Char) :
    (fuel : Nat) → (position : Nat) → (previous : Option Nat) → List (Nat × Match)
  | 0, _, _ => []
  | fuel + 1, position, previous =>
    match regex.search? text position with
    | none => []
    | some (start, found) =>
      if found.finish = start && previous = some start then
        matchesFrom regex text fuel (start + 1) none
      else
        (start, found) ::
          matchesFrom regex text fuel (if found.finish = start then start + 1 else found.finish)
            (some found.finish)

/-- A text in a case. -/
def inCase (letterCase : LetterCase) (text : String) : String :=
  match letterCase with
  | .kept => text
  | .small => text.map Char.toLower
  | .capital => text.map Char.toUpper

/-- The text that a match is replaced by. -/
def replacementFor (pieces : List Piece) (text : Array Char) (start : Nat) (found : Match) :
    String :=
  let group (index : Nat) : String :=
    match if index = 0 then some (start, found.finish) else found.groups.lookup index with
    | some (low, high) => String.ofList (text.extract low high).toList
    | none => ""
  let (shown, _, _) := pieces.foldl
    (fun ((shown, all, one) : List String × LetterCase × Option LetterCase) piece =>
      let add (added : String) : List String × LetterCase × Option LetterCase :=
        match one, added.toList with
        | some first, c :: rest =>
          (inCase all (String.ofList rest) :: inCase first (String.singleton c) :: shown, all, none)
        | _, [] => (shown, all, one)
        | none, _ => (inCase all added :: shown, all, none)
      match piece with
      | .text added => add added
      | .group index => add (group index)
      | .letters all => (shown, all, none)
      | .letter one => (shown, all, some one))
    ([], .kept, none)
  String.join shown.reverse

/-- A text in which the matches of a substitution are replaced, if there are any. -/
def replaced? (substitution : Substitution) (regex : Regex) (text : String) : Option String :=
  let chars := text.toList.toArray
  let matches' := (matchesFrom regex chars (chars.size + 2) 0 none).drop (substitution.first - 1)
  let chosen := if substitution.all then matches' else matches'.take 1
  if chosen.isEmpty then none
  else
    let (shown, position) := chosen.foldl
      (fun ((shown, position) : List String × Nat) (start, found) =>
        (replacementFor substitution.replacement chars start found ::
          String.ofList (chars.extract position start).toList :: shown, found.finish))
      ([], 0)
    some (String.join shown.reverse ++ String.ofList (chars.extract position chars.size).toList)

/-! ## Commands -/

/-- Makes the next line the current one, behind a text. -/
def advance (before : String) : Run Unit :=
  modify fun state =>
    match state.coming with
    | [] => state
    | line :: coming =>
      { state with
        line := { line with text := before ++ line.text }
        number := state.number + 1
        replaced := false
        coming }

/-- The texts in front of and behind the first end of a line in a text. -/
def splitFirst (delimiter : Char) (text : String) : String × Option String :=
  match text.toList.span (· ≠ delimiter) with
  | (first, _ :: rest) => (String.ofList first, some (String.ofList rest))
  | (first, []) => (String.ofList first, none)

/-- Changes the current line. -/
def setText (text : String) : Run Unit :=
  modify fun state => { state with line := { state.line with text } }

/-- Two lines as one. -/
def joined (script : Script) (first second : Line) : Line :=
  { text := first.text ++ String.singleton script.delimiter ++ second.text
    ended := first.ended || second.ended }

/-- Does what a command says, and gives the index of the next one. -/
def perform (script : Script) (read : String → Option String) (index : Nat) :
    Edit → Run Nat
  | .branch condition name => do
    let replaced := (← get).replaced
    let isTaken :=
      match condition with
      | .always => true
      | .replaced => replaced
      | .unreplaced => !replaced
    if condition ≠ .always then modify fun state => { state with replaced := false }
    if isTaken then return (script.labelled? name).getD script.commands.size
    else return index + 1
  | .substitute substitution => do
    let regex ← expression substitution.regex
    match replaced? substitution regex (← get).line.text with
    | none => return index + 1
    | some text =>
      setText text
      modify fun state => { state with replaced := true }
      let line := (← get).line
      if substitution.prints then writeLine script line
      match substitution.file with
      | some path => writeTo script path line
      | none => pure ()
      return index + 1
  | .translate table => do
    setText ((← get).line.text.map fun c => (table.lookup c).getD c)
    return index + 1
  | .append text => do
    modify fun state => { state with additions := state.additions ++ [.text text] }
    return index + 1
  | .insert text => do
    write script text
    return index + 1
  | .change text => do
    if ((← get).ranges.lookup index).isNone then write script text
    throw .dropped
  | .delete => throw .dropped
  | .deleteFirst => do
    match splitFirst script.delimiter (← get).line.text with
    | (_, none) => throw .dropped
    | (_, some rest) =>
      setText rest
      throw .again
  | .print => do
    writeLine script (← get).line
    return index + 1
  | .printFirst => do
    write script ((splitFirst script.delimiter (← get).line.text).1 ++
      String.singleton script.delimiter)
    return index + 1
  | .next => do
    finish script
    if ← isLast then throw .dropped
    flush script read
    advance ""
    return index + 1
  | .join => do
    if ← isLast then
      finish script
      throw .dropped
    flush script read
    advance ((← get).line.text ++ String.singleton script.delimiter)
    return index + 1
  | .recall => do
    modify fun state => { state with line := state.kept }
    return index + 1
  | .recallMore => do
    modify fun state => { state with line := joined script state.line state.kept }
    return index + 1
  | .keep => do
    modify fun state => { state with kept := state.line }
    return index + 1
  | .keepMore => do
    modify fun state => { state with kept := joined script state.kept state.line }
    return index + 1
  | .exchange => do
    modify fun state => { state with line := state.kept, kept := state.line }
    return index + 1
  | .clear => do
    setText ""
    return index + 1
  | .number => do
    write script (toString (← get).number ++ "\n")
    return index + 1
  | .display width => do
    write script (display (width.getD script.width) (← get).line.text)
    return index + 1
  | .quit printing status => do
    if printing then
      finish script
      flush script read
    throw (.quit status)
  | .readFile path => do
    modify fun state => { state with additions := state.additions ++ [.file path] }
    return index + 1
  | .writeFile path => do
    writeTo script path (← get).line
    return index + 1
  | .writeFirst path => do
    let text := (splitFirst script.delimiter (← get).line.text).1
    writeTo script path { text, ended := true }
    return index + 1
  | _ => return index + 1

/-- Runs the commands from an index on. At most `fuel` commands run. -/
def commandsFrom (script : Script) (read : String → Option String) :
    (fuel : Nat) → (index : Nat) → Run Unit
  | 0, _ => return
  | fuel + 1, index => do
    match script.commands[index]? with
    | none => return
    | some command =>
      let isSelected ← isSelected index command.selection
      if isSelected != command.negated then
        commandsFrom script read fuel (← perform script read index command.edit)
      else
        match command.edit with
        | .enter => commandsFrom script read fuel (script.behindBlock (index + 1))
        | _ => commandsFrom script read fuel (index + 1)

/-- How many commands run on one line at most. -/
def commandLimit : Nat :=
  1000000

/-- Runs a script on the lines to come, and first on the current line if that is not done with. The
result is the status of a command that ends the run. -/
def lines (script : Script) (read : String → Option String) :
    (fuel : Nat) → (isFresh : Bool) → Run (Option Nat)
  | 0, _ => return none
  | fuel + 1, isFresh => do
    if isFresh then
      if ← isLast then return none
      advance ""
    try
      commandsFrom script read commandLimit 0
      finish script
      flush script read
    catch ending =>
      match ending with
      | .dropped => flush script read
      | .again =>
        flush script read
        return ← lines script read fuel false
      | .quit status => return some status
      | .failed fault => throw (.failed fault)
    lines script read fuel true

end Run

/-- The lines of a content. -/
def linesOfContent (delimiter : Char) (content : String) : List Line :=
  let pieces := piecesAt delimiter content
  let whole := pieces.dropLast.map fun text => { text, ended := true }
  match pieces.getLast? with
  | some "" => whole
  | some last => whole ++ [{ text := last, ended := false }]
  | none => whole

/-- The state in front of the first line. -/
def State.initial (script : Script) (coming : List Line) : State :=
  let ranges := script.commands.toList.zipIdx.filterMap fun (command, index) =>
    match command.selection with
    | .range (.line 0) (.holding regex) => some (index, .upToMatch regex)
    | _ => none
  { coming, ranges, files := script.files.map fun path => (path, {}) }

/-- How a run ends: with the status of a command, or with a fault. -/
abbrev Outcome := Except Fault (Option Nat)

/-- Runs a script on the lines to come of a state. -/
def State.run (state : State) (script : Script) (read : String → Option String) :
    Outcome × State :=
  let size := state.coming.foldl (fun size line => size + line.text.length + 2) 2
  match (Run.lines script read (size * size) true).run.run state with
  | (.ok status, state) => (.ok status, state)
  | (.error (.failed fault), state) => (.error fault, state)
  | (.error _, state) => (.ok none, state)

end ManifestPin.Shell.Editing
