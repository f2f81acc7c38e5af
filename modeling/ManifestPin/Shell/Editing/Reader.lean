import ManifestPin.Shell.Editing.Command

/-! # Reading editing scripts

A script is read from a text. What is wrong with it is told with the place up to which it has been
read. -/

namespace ManifestPin.Shell.Editing

/-- What is wrong with a script. -/
inductive Fault where
  | unknownCommand (letter : Char)
  | missingCommand
  | unexpectedComma
  | zeroLine
  | severalNegations
  | oneAddress
  | noAddress (letter : Char)
  | extraCharacters
  | unopenedBlock
  /-- A block that is not closed, with the rest of the text behind its start. -/
  | unclosedBlock (left : Nat)
  | unclosedAddress
  | unclosedSubstitution
  | unclosedTranslation
  | unequalTranslation
  | unknownFlag
  | zeroFlag
  | severalNumbers
  | repeatedFlag (letter : Char)
  | noText
  | noFile
  | noLabel
  | reference (index : Nat)
  | expression (complaint : String)
  | unusedExpression
  deriving DecidableEq

/-- The text of a fault. -/
def Fault.text : Fault → String
  | .unknownCommand letter => "unknown command: \x60" ++ String.singleton letter ++ "'"
  | .missingCommand => "missing command"
  | .unexpectedComma => "unexpected \x60,'"
  | .zeroLine => "invalid usage of line address 0"
  | .severalNegations => "multiple \x60!'s"
  | .oneAddress => "command only uses one address"
  | .noAddress letter =>
    if letter = ':' then ": doesn't want any addresses"
    else "comments don't accept any addresses"
  | .extraCharacters => "extra characters after command"
  | .unopenedBlock => "unexpected \x60\x7d'"
  | .unclosedBlock _ => "unmatched \x60\x7b'"
  | .unclosedAddress => "unterminated address regex"
  | .unclosedSubstitution => "unterminated \x60s' command"
  | .unclosedTranslation => "unterminated \x60y' command"
  | .unequalTranslation => "strings for \x60y' command are different lengths"
  | .unknownFlag => "unknown option to \x60s'"
  | .zeroFlag => "number option to \x60s' command may not be zero"
  | .severalNumbers => "multiple number options to \x60s' command"
  | .repeatedFlag letter =>
    "multiple \x60" ++ String.singleton letter ++ "' options to \x60s' command"
  | .noText => "expected \\ after \x60a', \x60c' or \x60i'"
  | .noFile => "missing filename in r/R/w/W commands"
  | .noLabel => "\":\" lacks a label"
  | .reference index =>
    "invalid reference \\" ++ toString index ++ " on \x60s' command's RHS"
  | .expression complaint => complaint
  | .unusedExpression => "no previous regular expression"

/-- A reader of a text. The rest of the text is known also behind a fault. -/
abbrev Reader := ExceptT Fault (StateM (List Char))

namespace Reader

/-- The next character. -/
def peek : Reader (Option Char) := do
  return (← get).head?

/-- Takes a character. -/
def skip : Reader Unit :=
  modify (List.drop 1)

/-- Takes the characters that pass a test. -/
def takeWhile (test : Char → Bool) : Reader (List Char) := do
  let rest ← get
  set (rest.dropWhile test)
  return rest.takeWhile test

/-- Skips the blanks within a line. -/
def skipBlanks : Reader Unit := do
  let _ ← takeWhile fun c => isSpace c && c ≠ '\n'

/-- A number, if digits follow. -/
def number? : Reader (Option Nat) := do
  let digits ← takeWhile Char.isDigit
  return if digits.isEmpty then none else some (numberOf 10 digits)

/-- Fails when a character has been taken. -/
def refuse {α : Type} (fault : Fault) : Reader α := do
  skip
  throw fault

end Reader

open Reader

/-! ## Texts -/

/-- Whether a place of an expression is in brackets. -/
inductive Nesting where
  | outside
  /-- In brackets, at their start or behind it. -/
  | bracket (atStart : Bool)
  /-- In the name of a class, which a character ends. -/
  | named (kind : Char)

/-- The text up to a delimiter, if there is one, and what follows it. A delimiter does not end the
text behind a backslash, which is dropped, or in the brackets of an expression. -/
def delimited (delimiter : Char) (isRegex : Bool) :
    Nesting → List Char → Option (List Char) × List Char
  | _, [] => (none, [])
  | .outside, '\\' :: c :: rest =>
    let (found, left) := delimited delimiter isRegex .outside rest
    let isPlain := c = delimiter && (isRegex || c ≠ '&')
    (found.map ((if isPlain then [c] else ['\\', c]) ++ ·), left)
  | .bracket _, '[' :: c :: rest =>
    let nesting : Nesting := if c = ':' || c = '.' || c = '=' then .named c else .bracket false
    let (found, left) := delimited delimiter isRegex nesting rest
    (found.map (['[', c] ++ ·), left)
  | .named kind, c :: ']' :: rest =>
    let nesting : Nesting := if c = kind then .bracket false else .outside
    let (found, left) := delimited delimiter isRegex nesting rest
    (found.map ([c, ']'] ++ ·), left)
  | nesting, c :: rest =>
    let isOutside : Bool :=
      match nesting with
      | .outside => true
      | _ => false
    if isOutside && c = delimiter then (some [], rest)
    else if c = '\n' && isRegex then (none, c :: rest)
    else
      let nesting : Nesting :=
        match nesting, c with
        | .outside, '[' => if isRegex then .bracket true else .outside
        | .outside, _ => .outside
        | .bracket true, '^' => .bracket true
        | .bracket true, _ => .bracket false
        | .bracket false, ']' => .outside
        | nesting, _ => nesting
      let (found, left) := delimited delimiter isRegex nesting rest
      (found.map (c :: ·), left)

/-- The text up to a delimiter. -/
def takeDelimited (delimiter : Char) (isRegex : Bool) (fault : Fault) : Reader (List Char) := do
  let (found, left) := delimited delimiter isRegex .outside (← get)
  set left
  match found with
  | some chars => return chars
  | none => throw fault

/-- The character that an escape behind a backslash stands for, and what follows it. -/
def escape? : List Char → Option (Char × List Char)
  | 'a' :: rest => some ('\x07', rest)
  | 'f' :: rest => some ('\x0c', rest)
  | 'n' :: rest => some ('\n', rest)
  | 'r' :: rest => some ('\r', rest)
  | 't' :: rest => some ('\t', rest)
  | 'v' :: rest => some ('\x0b', rest)
  | 'c' :: c :: rest => some (Char.ofNat (c.toUpper.toNat ^^^ 64), rest)
  | 'd' :: rest => coded 10 3 rest
  | 'o' :: rest => coded 8 3 rest
  | 'x' :: rest => coded 16 2 rest
  | _ => none
where
  coded (base most : Nat) (rest : List Char) : Option (Char × List Char) :=
    let digits := (rest.takeWhile fun c => digitValue c < base).take most
    if digits.isEmpty then none
    else some (Char.ofNat (numberOf base digits % 256), rest.drop digits.length)

/-- The characters of an expression, those of escapes as quoted ones. -/
def patternOf : (fuel : Nat) → (isInBrackets : Bool) → List Char → Pattern
  | 0, _, _ => []
  | _ + 1, _, [] => []
  | fuel + 1, isInBrackets, '\\' :: rest =>
    match escape? rest with
    | some (c, rest) => (c, true) :: patternOf fuel isInBrackets rest
    | none =>
      match isInBrackets, rest with
      | false, c :: rest => ('\\', false) :: (c, false) :: patternOf fuel false rest
      | _, rest => ('\\', false) :: patternOf fuel isInBrackets rest
  | fuel + 1, false, '[' :: rest =>
    let opening := if rest.head? = some '^' then 1 else 0
    let opening := if (rest.drop opening).head? = some ']' then opening + 1 else opening
    ('[', false) :: (rest.take opening).map (·, false) ++ patternOf fuel true (rest.drop opening)
  | fuel + 1, true, '[' :: c :: rest =>
    let name :=
      if c = ':' || c = '.' || c = '=' then rest.takeWhile (· ≠ ']') ++ [']'] else []
    ('[', false) :: (c, false) :: name.map (·, false) ++ patternOf fuel true (rest.drop name.length)
  | fuel + 1, isInBrackets, c :: rest =>
    (c, false) :: patternOf fuel (isInBrackets && c ≠ ']') rest

/-- The expression that a text is written as, and none if it is empty. -/
def regexOf (style : RegexStyle) (text : List Char) : Reader (Option Regex) := do
  if text.isEmpty then return none
  let style : RegexStyle := { style with needsOperands := true, needsOpener := true }
  match Regex.ofPattern style (patternOf (text.length + 1) false text) with
  | .ok regex => return some regex
  | .error complaint => throw (.expression complaint)

/-- The pieces of a replacement. -/
def piecesOf : (fuel : Nat) → List Char → List Piece
  | 0, _ => []
  | _ + 1, [] => []
  | fuel + 1, '\\' :: c :: rest =>
    let piece : Option Piece :=
      match c with
      | 'L' => some (.letters .small)
      | 'U' => some (.letters .capital)
      | 'E' => some (.letters .kept)
      | 'l' => some (.letter .small)
      | 'u' => some (.letter .capital)
      | c => if c.isDigit then some (.group (digitValue c)) else none
    match piece, escape? (c :: rest) with
    | some piece, _ => piece :: piecesOf fuel rest
    | none, some (c, rest) => .text (String.singleton c) :: piecesOf fuel rest
    | none, none => .text (String.singleton c) :: piecesOf fuel rest
  | fuel + 1, '&' :: rest => .group 0 :: piecesOf fuel rest
  | fuel + 1, c :: rest => .text (String.singleton c) :: piecesOf fuel rest

/-- The lines of a text, up to a line feed that has no backslash in front, and what follows it. -/
def linesOfText : (fuel : Nat) → List Char → List Char × List Char
  | 0, rest => ([], rest)
  | _ + 1, [] => ([], [])
  | _ + 1, '\n' :: rest => ([], rest)
  | _ + 1, ['\\'] => ([], [])
  | fuel + 1, '\\' :: c :: rest =>
    let (c, rest) := (escape? (c :: rest)).getD (c, rest)
    let (text, rest) := linesOfText fuel rest
    (c :: text, rest)
  | fuel + 1, c :: rest =>
    let (text, rest) := linesOfText fuel rest
    (c :: text, rest)

/-- The text of a command that adds lines. -/
def readText : Reader String := do
  skipBlanks
  match ← get with
  | [] => throw .noText
  | '\\' :: rest =>
    let blanks := rest.takeWhile isBlank
    match rest.drop blanks.length with
    | '\n' :: rest => set rest
    | _ => set rest
    if rest.isEmpty then return ""
  | _ => pure ()
  let rest ← get
  let (text, rest) := linesOfText (rest.length + 1) rest
  set rest
  return String.ofList text ++ "\n"

/-- The name of a file, up to the end of the line. -/
def readFileName : Reader String := do
  skipBlanks
  let name ← takeWhile (· ≠ '\n')
  if name.isEmpty then throw .noFile
  return String.ofList name

/-- The name of a label. -/
def readLabel : Reader String := do
  skipBlanks
  let name ← takeWhile fun c => !isSpace c && c ≠ ';' && c ≠ '\x7d'
  return String.ofList name

/-- The end of a command. -/
def endCommand : Reader Unit := do
  skipBlanks
  match ← peek with
  | none => pure ()
  | some c =>
    if c = '\n' || c = ';' then skip
    else if c = '\x7d' || c = '#' then pure ()
    else refuse .extraCharacters

/-! ## Selections -/

/-- An expression that tells lines, behind its first delimiter. -/
def readExpression (extended : Bool) (delimiter : Char) : Reader (Option Regex) := do
  let text ← takeDelimited delimiter true .unclosedAddress
  let flags ← takeWhile fun c => isBlank c || c = 'I' || c = 'M'
  regexOf { extended, ignoresCase := flags.contains 'I', byLines := flags.contains 'M' } text

/-- What tells a line, if that follows. -/
def readAddress (extended : Bool) : Reader (Option Address) := do
  match ← get with
  | '/' :: rest =>
    set rest
    return some (.holding (← readExpression extended '/'))
  | '\\' :: delimiter :: rest =>
    set rest
    return some (.holding (← readExpression extended delimiter))
  | '$' :: rest =>
    set rest
    return some .last
  | _ =>
    match ← number? with
    | none => return none
    | some first =>
      skipBlanks
      if (← peek) = some '~' then
        skip
        skipBlanks
        return some (.step first ((← number?).getD 0))
      else return some (.line first)

/-- What tells the end of a range. -/
def readBound (extended : Bool) : Reader Bound := do
  skipBlanks
  match ← get with
  | '+' :: rest =>
    set rest
    return .more ((← number?).getD 0)
  | '~' :: rest =>
    set rest
    return .multiple ((← number?).getD 0)
  | _ =>
    match ← readAddress extended with
    | some (.line number) => return .line number
    | some (.step number _) => return .line number
    | some .last => return .last
    | some (.holding regex) => return .holding regex
    | none => refuse .unexpectedComma

/-- The lines that a command acts on, and whether it acts on all others. -/
def readSelection (extended : Bool) : Reader (Selection × Bool) := do
  let selection : Selection ←
    match ← readAddress extended with
    | none => pure .every
    | some first =>
      skipBlanks
      if (← peek) = some ',' then
        skip
        pure (.range first (← readBound extended))
      else pure (.one first)
  skipBlanks
  match selection with
  | .one (.line 0) => refuse .zeroLine
  | .range (.line 0) (.holding _) => pure ()
  | .range (.line 0) _ => refuse .zeroLine
  | _ => pure ()
  if (← peek) = some '!' then
    skip
    skipBlanks
    if (← peek) = some '!' then refuse .severalNegations
    return (selection, true)
  else return (selection, false)

/-! ## Commands -/

/-- The flags of a substitution, and how its expression is written. -/
def readFlags : (fuel : Nat) → (style : RegexStyle) → (numbered : Bool) → Substitution →
    Reader (RegexStyle × Substitution)
  | 0, style, _, substitution => return (style, substitution)
  | fuel + 1, style, numbered, substitution => do
    match ← get with
    | [] => return (style, substitution)
    | c :: rest =>
      if c = '\x7d' || c = '#' then return (style, substitution)
      else if c.isDigit then
        if numbered then refuse .severalNumbers
        match ← number? with
        | some 0 => throw .zeroFlag
        | number =>
          readFlags fuel style true { substitution with first := number.getD 1 }
      else
        set rest
        match c with
        | '\n' => return (style, substitution)
        | ';' => return (style, substitution)
        | 'i' => readFlags fuel { style with ignoresCase := true } numbered substitution
        | 'I' => readFlags fuel { style with ignoresCase := true } numbered substitution
        | 'm' => readFlags fuel { style with byLines := true } numbered substitution
        | 'M' => readFlags fuel { style with byLines := true } numbered substitution
        | 'p' =>
          if substitution.prints then throw (.repeatedFlag 'p')
          readFlags fuel style numbered { substitution with prints := true }
        | 'g' =>
          if substitution.all then throw (.repeatedFlag 'g')
          readFlags fuel style numbered { substitution with all := true }
        | 'w' => return (style, { substitution with file := some (← readFileName) })
        | c =>
          if isSpace c then readFlags fuel style numbered substitution else throw .unknownFlag

/-- A substitution, behind its letter. -/
def readSubstitution (extended : Bool) : Reader Substitution := do
  match ← peek with
  | none => throw .unclosedSubstitution
  | some delimiter =>
    skip
    let text ← takeDelimited delimiter true .unclosedSubstitution
    let replacement ← takeDelimited delimiter false .unclosedSubstitution
    let pieces := piecesOf (replacement.length + 1) replacement
    let style : RegexStyle := { extended, ignoresCase := false }
    let (style, substitution) ←
      readFlags ((← get).length + 1) style false { regex := none, replacement := pieces }
    let regex ← regexOf style text
    match regex with
    | none => pure ()
    | some regex =>
      for piece in pieces do
        match piece with
        | .group index => if regex.groupCount < index then throw (.reference index)
        | _ => pure ()
    return { substitution with regex }

/-- The characters of a list for a translation. -/
def translated : List Char → List Char
  | '\\' :: 'n' :: rest => '\n' :: translated rest
  | '\\' :: 't' :: rest => '\t' :: translated rest
  | '\\' :: '\\' :: rest => '\\' :: translated rest
  | c :: rest => c :: translated rest
  | [] => []

/-- The table of a translation, behind its letter. -/
def readTranslation : Reader (List (Char × Char)) := do
  match ← peek with
  | none => throw .unclosedTranslation
  | some delimiter =>
    skip
    let plain (chars : List Char) : List Char :=
      translated chars
    let source := plain (← takeDelimited delimiter false .unclosedTranslation)
    let target := plain (← takeDelimited delimiter false .unclosedTranslation)
    if source.length ≠ target.length then throw .unequalTranslation
    endCommand
    return source.zip target

/-- What a command does, by its letter. -/
def readEdit (extended : Bool) (selection : Selection) (letter : Char) : Reader Edit := do
  let ended (edit : Edit) : Reader Edit := do
    endCommand
    return edit
  let once : Reader Unit :=
    match selection with
    | .range .. => throw .oneAddress
    | _ => pure ()
  let unaddressed : Reader Unit :=
    match selection with
    | .every => pure ()
    | _ => throw (.noAddress letter)
  match letter with
  | '#' =>
    unaddressed
    let _ ← takeWhile (· ≠ '\n')
    return .nothing
  | 'v' =>
    let _ ← readLabel
    ended .nothing
  | '\x7b' => return .enter
  | '\x7d' => ended .leave
  | 'a' => return .append (← readText)
  | 'i' => return .insert (← readText)
  | 'c' => return .change (← readText)
  | ':' =>
    unaddressed
    let name ← readLabel
    if name = "" then throw .noLabel
    return .label name
  | 'b' => return .branch .always (← readLabel)
  | 't' => return .branch .replaced (← readLabel)
  | 'T' => return .branch .unreplaced (← readLabel)
  | 'q' =>
    once
    skipBlanks
    let status := (← number?).getD 0
    ended (.quit true status)
  | 'Q' =>
    once
    skipBlanks
    let status := (← number?).getD 0
    ended (.quit false status)
  | 'l' =>
    skipBlanks
    let width ← number?
    ended (.display width)
  | '=' => ended .number
  | 'd' => ended .delete
  | 'D' => ended .deleteFirst
  | 'g' => ended .recall
  | 'G' => ended .recallMore
  | 'h' => ended .keep
  | 'H' => ended .keepMore
  | 'n' => ended .next
  | 'N' => ended .join
  | 'p' => ended .print
  | 'P' => ended .printFirst
  | 'x' => ended .exchange
  | 'z' => ended .clear
  | 'r' => return .readFile (← readFileName)
  | 'w' => return .writeFile (← readFileName)
  | 'W' => return .writeFirst (← readFileName)
  | 's' => return .substitute (← readSubstitution extended)
  | 'y' => return .translate (← readTranslation)
  | letter => throw (.unknownCommand letter)

/-- The commands of a text, where blocks are open that start at places. -/
def readCommands (extended : Bool) : (fuel : Nat) → (blocks : List Nat) → List Command →
    Reader (List Command)
  | 0, _, found => return found.reverse
  | fuel + 1, blocks, found => do
    let _ ← takeWhile fun c => isSpace c || c = ';'
    if (← peek).isNone then
      match blocks with
      | [] => return found.reverse
      | left :: _ => throw (.unclosedBlock left)
    let (selection, negated) ← readSelection extended
    match ← peek with
    | none => throw .missingCommand
    | some letter =>
      let left := (← get).length
      skip
      if letter = '\x7d' && blocks.isEmpty then throw .unopenedBlock
      let edit ← readEdit extended selection letter
      let blocks :=
        match edit with
        | .enter => left :: blocks
        | .leave => blocks.drop 1
        | _ => blocks
      readCommands extended fuel blocks ({ selection, negated, edit } :: found)

/-- A fault, and how many characters are read when it is found. -/
structure Misreading where
  fault : Fault
  position : Nat

/-- Reads the commands of a script. -/
def readScript (extended : Bool) (text : String) : Except Misreading (Array Command) :=
  let chars := text.toList
  match (readCommands extended (chars.length + 1) [] []).run.run chars with
  | (.ok commands, _) => .ok commands.toArray
  | (.error fault, left) => .error { fault, position := chars.length - left.length }

end ManifestPin.Shell.Editing
