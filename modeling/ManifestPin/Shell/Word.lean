import ManifestPin.Shell.Source

/-! # Reading words

A word is made of literal texts, quoted or not, and of what parameters, expressions and commands
stand for. Which characters mean something of their own depends on the context. -/

namespace ManifestPin.Shell

/-- Where the parts of a word are read. -/
inductive Context where
  /-- A word of a command. -/
  | word
  /-- A pattern of a condition. -/
  | pattern
  /-- A regular expression of a condition. -/
  | regular
  /-- Between quotation marks. -/
  | marks
  /-- The lines of a text within the script. -/
  | document
  /-- The word of a parameter in braces. -/
  | braces (quoted : Bool)
  /-- A pattern of a parameter in braces, up to a slash. -/
  | replaced
  /-- An expression of a parameter in braces, up to a colon. -/
  | slice
  /-- An expression up to two parentheses. -/
  | arithmetic
  /-- A subscript. -/
  | bracket
  deriving DecidableEq

namespace Context

/-- Whether what is read is quoted as between quotation marks. -/
def quotes : Context → Bool
  | .marks => true
  | .document => true
  | .arithmetic => true
  | .slice => true
  | .braces quoted => quoted
  | _ => false

/-- Whether a closing brace ends what is read. -/
def inBraces : Context → Bool
  | .braces _ => true
  | .replaced => true
  | .slice => true
  | _ => false

/-- Whether blanks and operators end what is read. -/
def isOpen : Context → Bool
  | .word => true
  | .pattern => true
  | .regular => true
  | _ => false

end Context

namespace Reader

/-- What a word is made of so far, in reverse, and how many parentheses or brackets are open. -/
structure Progress where
  parts : List Part := []
  depth : Nat := 0

/-- A parameter that a single character names. -/
def isSpecialParameter (c : Char) : Bool :=
  c = '@' || c = '*' || c = '#' || c = '?' || c = '$' || c = '!' || c = '-'

/-- A character that means nothing of its own in any context. -/
def isOrdinary (c : Char) : Bool :=
  c.isAlphanum || c = '_' || c = '-' || c = '.' || c = '=' || c = ',' || c = '%' || '\x7f' < c

/-- The script between backquotes, without the backslashes that belong to the quotes, and how many
characters it takes up. -/
def backquoted (quoted : Bool) : List Char → Option (List Char × Nat)
  | [] => none
  | '`' :: _ => some ([], 1)
  | '\\' :: '\n' :: rest => (backquoted quoted rest).map fun (text, count) => (text, count + 2)
  | '\\' :: c :: rest =>
    let escapes := c = '`' || c = '\\' || c = '$' || (quoted && c = '"')
    (backquoted quoted rest).map fun (text, count) =>
      (if escapes then c :: text else '\\' :: c :: text, count + 2)
  | c :: rest => (backquoted quoted rest).map fun (text, count) => (c :: text, count + 1)

/-- The character of an escape in a text behind a dollar sign, and the text behind it. -/
def dollarEscape : List Char → String × List Char
  | [] => ("\\", [])
  | c :: rest =>
    let based (base limit : Nat) (text : List Char) (literal : String) : String × List Char :=
      let digits := (text.take limit).takeWhile fun c => digitValue c < base
      if digits.isEmpty then (literal, text)
      else (String.singleton (Char.ofNat (numberOf base digits % 256)), text.drop digits.length)
    let wide (limit : Nat) (text : List Char) (literal : String) : String × List Char :=
      let digits := (text.take limit).takeWhile fun c => digitValue c < 16
      if digits.isEmpty then (literal, text)
      else
        (spread (String.singleton (Char.ofNat (numberOf 16 digits))), text.drop digits.length)
    match c with
    | 'a' => ("\x07", rest)
    | 'b' => ("\x08", rest)
    | 'e' => ("\x1b", rest)
    | 'E' => ("\x1b", rest)
    | 'f' => ("\x0c", rest)
    | 'n' => ("\n", rest)
    | 'r' => ("\x0d", rest)
    | 't' => ("\t", rest)
    | 'v' => ("\x0b", rest)
    | '\\' => ("\\", rest)
    | '\'' => ("'", rest)
    | '"' => ("\"", rest)
    | '?' => ("?", rest)
    | 'x' => based 16 2 rest "\\x"
    | 'u' => wide 4 rest "\\u"
    | 'U' => wide 8 rest "\\U"
    | 'c' =>
      match rest with
      | c :: rest => (String.singleton (Char.ofNat (c.toNat % 32)), rest)
      | [] => ("\\c", [])
    | c => if isOctal c then based 8 3 (c :: rest) "" else (String.ofList ['\\', c], rest)

/-- Reads a text with escapes up to its closing quotation mark. -/
def dollarQuoted : Reader String :=
  loop (fun text => do
    match ← rest with
    | [] => throw (.unended (← get).line (← get).line "Unterminated quoted string" '\'')
    | '\'' :: _ => pass 1; return .inr text
    | '\\' :: more =>
      let (piece, after) := dollarEscape more
      pass (1 + more.length - after.length)
      return .inl (text ++ piece)
    | c :: _ => pass 1; return .inl (text.push c)) patience ""

/-- Reads another script, given by its text and first line, in place of the one that is left. -/
def within (text : List Char) (line : Nat) (read : Reader α) : Reader α := do
  let source ← get
  set { source with rest := text, line, held := none, active := [], announced := [] }
  let result ← read
  modify fun inner =>
    { inner with
      rest := source.rest
      line := source.line
      held := source.held
      active := source.active
      announced := source.announced }
  return result

/-- How the parts of a word and the commands in it are read. -/
structure Nested where
  parts : Context → Reader (List Part)
  /-- Commands up to a parenthesis, or up to the end of the text. -/
  commands : (closed : Bool) → Reader Command

/-- Reads commands between backquotes. -/
def readBackquoted (nested : Nested) (quoted : Bool) : Reader Part := do
  let start := (← get).line
  match backquoted quoted ((← rest).drop 1) with
  | none =>
    let _ ← passWhile fun _ => true
    throw (.unended (← get).line start "EOF in backquote substitution" '`')
  | some (text, count) =>
    pass (count + 1)
    let line := if ← isExtended then start else 1
    return .substitution quoted (← within text line (nested.commands false))

/-- The name of a parameter that a text starts with. -/
def parameterName (text : List Char) : List Char :=
  match text with
  | [] => []
  | c :: _ =>
    if c.isDigit then text.takeWhile Char.isDigit
    else if isNameStart c then text.takeWhile isNameChar
    else if isSpecialParameter c then [c]
    else []

/-- The kind of fallback that a character announces. -/
def fallback? : Char → Option Fallback
  | '-' => some .value
  | '=' => some .assign
  | '+' => some .alternative
  | '?' => some .required
  | _ => none

/-- Reads what a parameter in braces is used for, from behind its name. Nothing is given for what
cannot be understood. -/
def readRule (nested : Nested) (quoted : Bool) : Reader (Option ParameterRule) := do
  let otherwise (kind : Fallback) (emptyToo : Bool) (count : Nat) :
      Reader (Option ParameterRule) := do
    pass count
    return some (.orElse kind emptyToo (← nested.parts (.braces quoted)))
  let without (atEnd longest : Bool) (count : Nat) : Reader (Option ParameterRule) := do
    pass count
    return some (.without atEnd longest (← nested.parts (.braces false)))
  match ← rest with
  | '\x7d' :: _ => pass 1; return some .value
  | ':' :: c :: _ =>
    match fallback? c with
    | some kind => otherwise kind true 2
    | none => return none
  | '%' :: '%' :: _ => without true true 2
  | '%' :: _ => without true false 1
  | '#' :: '#' :: _ => without false true 2
  | '#' :: _ => without false false 1
  | c :: _ =>
    match fallback? c with
    | some kind => otherwise kind false 1
    | none => return none
  | [] => return none

/-- Reads the rest of a parameter in braces that means nothing. -/
def readBroken (nested : Nested) (quoted : Bool) (opened : List Char) : Reader Part := do
  let _ ← nested.parts (.braces quoted)
  let text := opened.take (opened.length - (← rest).length)
  return .parameter quoted "" .whole (.broken ("$\x7b" ++ String.ofList text))

/-- Reads a parameter in braces of the standard dialect, from behind the opening one. -/
def readBraced (nested : Nested) (quoted : Bool) : Reader Part := do
  let opened ← rest
  let named (count : Nat) (name : List Char) : Reader Part := do
    pass count
    match ← readRule nested quoted with
    | some rule => return .parameter quoted (String.ofList name) .whole rule
    | none => pass 1; readBroken nested quoted opened
  let length (name : List Char) : Reader Part := do
    if (opened.drop (1 + name.length)).head? = some '\x7d' then
      pass (name.length + 2)
      return .parameter quoted (String.ofList name) .whole .length
    else
      pass (name.length + 1)
      readBroken nested quoted opened
  match opened with
  | '#' :: '\x7d' :: _ => named 1 ['#']
  | '#' :: c :: next :: _ =>
    if isNameStart c then length ((opened.drop 1).takeWhile isNameChar)
    else if c.isDigit then length [c]
    else if next ≠ '\x7d' then named 1 ['#']
    else if isSpecialParameter c then length [c]
    else pass 2; readBroken nested quoted opened
  | text =>
    let name := parameterName text
    if name.isEmpty then
      if text.head? ≠ some '\x7d' then pass 1
      readBroken nested quoted opened
    else named name.length name

/-- Reads which elements of a parameter are meant. -/
def readPlace (nested : Nested) : Reader Place := do
  match ← rest with
  | '[' :: '@' :: ']' :: _ => pass 3; return .all false
  | '[' :: '*' :: ']' :: _ => pass 3; return .all true
  | '[' :: _ => pass 1; return .element (← nested.parts .bracket)
  | _ => return .whole

/-- Reads what a parameter in braces is used for in the extended dialect. -/
def readExtendedRule (nested : Nested) (quoted : Bool) : Reader (Option ParameterRule) := do
  match ← readRule nested quoted with
  | some rule => return some rule
  | none =>
    match ← rest with
    | ':' :: _ =>
      pass 1
      let offset ← nested.parts .slice
      if ← passText? ":" then
        return some (.slice offset (some (← nested.parts (.braces true))))
      else
        pass 1
        return some (.slice offset none)
    | '/' :: c :: _ =>
      let scope : Scope :=
        if c = '/' then .everywhere
        else if c = '#' then .atStart
        else if c = '%' then .atEnd
        else .first
      pass (if scope = .first then 1 else 2)
      let pattern ← nested.parts .replaced
      if ← passText? "/" then
        return some (.replaced scope pattern (← nested.parts (.braces false)))
      else
        pass 1
        return some (.replaced scope pattern [])
    | '^' :: '^' :: _ => pass 2; return some (.cased true true (← nested.parts (.braces false)))
    | '^' :: _ => pass 1; return some (.cased true false (← nested.parts (.braces false)))
    | ',' :: ',' :: _ => pass 2; return some (.cased false true (← nested.parts (.braces false)))
    | ',' :: _ => pass 1; return some (.cased false false (← nested.parts (.braces false)))
    | '@' :: form :: '\x7d' :: _ =>
      if "UuLQEPAKak".toList.contains form then
        pass 3
        return some (.formed form)
      else return none
    | _ => return none

/-- Reads a parameter in braces of the extended dialect, from behind the opening one. -/
def readExtendedBraced (nested : Nested) (quoted : Bool) : Reader Part := do
  let opened ← rest
  let broken : Reader Part := readBroken nested quoted opened
  match opened with
  | '#' :: more =>
    let name := parameterName more
    let behind := more.drop name.length
    let lengthOf : Bool := !name.isEmpty && (behind.head? = some '\x7d' || behind.head? = some '[')
    if lengthOf then
      pass (1 + name.length)
      let place ← readPlace nested
      if ← passText? "\x7d" then return .parameter quoted (String.ofList name) place .length
      else broken
    else
      pass 1
      match ← readExtendedRule nested quoted with
      | some rule => return .parameter quoted "#" .whole rule
      | none => broken
  | '!' :: c :: more =>
    if isNameStart c || c.isDigit then
      let name := parameterName (c :: more)
      pass (1 + name.length)
      let parameter := Part.parameter quoted (String.ofList name)
      match ← rest with
      | '*' :: '\x7d' :: _ => pass 2; return parameter .whole (.sameStart true)
      | '@' :: '\x7d' :: _ => pass 2; return parameter .whole (.sameStart false)
      | _ =>
        let place ← readPlace nested
        match place, (← rest).head? with
        | .all joined, some '\x7d' =>
          pass 1
          return parameter (.all joined) .subscripts
        | place, _ =>
          match ← readExtendedRule nested quoted with
          | some rule => return parameter place (.indirect rule)
          | none => broken
    else
      pass 1
      match ← readExtendedRule nested quoted with
      | some rule => return .parameter quoted "!" .whole rule
      | none => broken
  | text =>
    let name := parameterName text
    if name.isEmpty then broken
    else
      pass name.length
      let place ← readPlace nested
      match ← readExtendedRule nested quoted with
      | some rule => return .parameter quoted (String.ofList name) place rule
      | none => broken

/-- Reads an expression between two parentheses each. In the extended dialect the text may turn out
to be commands in parentheses. -/
def readArithmetic (nested : Nested) (quoted : Bool) : Reader Part := do
  let expression : Reader Part := do
    pass 2
    return .arithmetic quoted (← nested.parts .arithmetic)
  if ← isExtended then
    let source ← get
    match expression.run source with
    | .ok (part, source) => set source; return part
    | .error fault =>
      pass 1
      match (nested.commands true).run (← get) with
      | .ok (body, source) => set source; return .substitution quoted body
      | .error _ => throw fault
  else expression

/-- Reads what a dollar sign starts. -/
def readDollar (nested : Nested) (context : Context) : Reader (List Part) := do
  let quoted := context.quotes
  pass 1
  joinLines
  match ← rest with
  | '(' :: '(' :: _ => return [← readArithmetic nested quoted]
  | '(' :: _ =>
    pass 1
    return [.substitution quoted (← nested.commands true)]
  | '{' :: _ =>
    pass 1
    if ← isExtended then return [← readExtendedBraced nested quoted]
    else return [← readBraced nested quoted]
  | '\'' :: _ =>
    if (← isExtended) && !quoted then
      pass 1
      return [.literal true (← dollarQuoted), .mark]
    else return [.literal quoted "$"]
  | c :: more =>
    if isSpecialParameter c || c.isDigit then
      pass 1
      return [.parameter quoted (String.singleton c) .whole .value]
    else if isNameStart c then
      let name := (c :: more).takeWhile isNameChar
      pass name.length
      return [.parameter quoted (String.ofList name) .whole .value]
    else if c = '"' && !quoted && (← isExtended) then return []
    else return [.literal quoted "$"]
  | [] => return [.literal quoted "$"]

/-- Reads what a backslash starts. -/
def readEscaped (context : Context) : Reader (List Part) := do
  match ← rest with
  | _ :: '\n' :: _ => pass 2; return []
  | _ :: c :: _ =>
    pass 2
    let kept : Bool := context.quotes && c ≠ '\\' && c ≠ '`' && c ≠ '$' &&
      (c ≠ '"' || context = .document) && (c ≠ '\x7d' || !context.inBraces)
    return [.literal true (if kept then String.ofList ['\\', c] else String.singleton c)]
  | _ => pass 1; return [.literal true "\\"]

/-- Whether parts between quotation marks are the elements of a list, which may be none. -/
def isWholeList : List Part → Bool
  | [.parameter true "@" .whole .value] => true
  | [.parameter true _ (.all false) .value] => true
  | [.parameter true "@" .whole (.slice ..)] => true
  | [.parameter true _ (.all false) (.slice ..)] => true
  | [.parameter true _ (.all false) .subscripts] => true
  | _ => false

/-- Reads parts between quotation marks. -/
def readMarked (nested : Nested) : Reader (List Part) := do
  pass 1
  let inner ← nested.parts .marks
  return if isWholeList inner then inner else .mark :: inner

/-- Reads a text between apostrophes. -/
def readApostrophes : Reader (List Part) := do
  let start := (← get).line
  pass 1
  let text ← passWhile (· ≠ '\'')
  if (← rest).isEmpty then
    throw (.unended (← get).line start "Unterminated quoted string" '\'')
  pass 1
  return [.mark, .literal true (String.ofList text)]

/-- What the end of the script means in a context. -/
def atEnd (context : Context) (start : Nat) (progress : Progress) :
    Reader (Progress ⊕ List Part) := do
  let line := (← get).line
  match context with
  | .marks => throw (.unended line start "Unterminated quoted string" '"')
  | .braces quoted =>
    let complaint := if quoted then "Unterminated quoted string" else "Missing '\x7d'"
    throw (.unended line start complaint '\x7d')
  | .replaced => throw (.unended line start "Missing '\x7d'" '\x7d')
  | .slice => throw (.unended line start "Missing '\x7d'" '\x7d')
  | .arithmetic => throw (.unended line start "Missing '))'" ')')
  | .bracket => throw (.unended line start "Missing ']'" ']')
  | _ => return .inr progress.parts.reverse

/-- Reads a character that may mean something of its own in its context. -/
def readCharacter (nested : Nested) (context : Context) (progress : Progress) (c : Char)
    (next : Option Char) : Reader (Progress ⊕ List Part) := do
  let finish (count : Nat) : Reader (Progress ⊕ List Part) := do
    pass count
    return .inr progress.parts.reverse
  let literal (depth : Nat) : Reader (Progress ⊕ List Part) := do
    pass 1
    return .inl
      { parts := Part.addLiteral context.quotes (String.singleton c) progress.parts, depth }
  let depth := progress.depth
  match context with
  | .marks => if c = '"' then finish 1 else literal depth
  | .document => literal depth
  | .arithmetic =>
    if c = '(' then literal (depth + 1)
    else if c = ')' && 0 < depth then literal (depth - 1)
    else if c = ')' && next = some ')' then finish 2
    else if c = ')' && (← isExtended) then
      throw (.unended (← get).line (← get).line "Missing '))'" ')')
    else literal depth
  | .bracket =>
    if c = '[' then literal (depth + 1)
    else if c = ']' then (if 0 < depth then literal (depth - 1) else finish 1)
    else literal depth
  | .braces _ => if c = '\x7d' then finish 1 else literal depth
  | .replaced => if c = '\x7d' || c = '/' then finish 0 else literal depth
  | .slice =>
    if c = '(' then literal (depth + 1)
    else if c = ')' then literal (depth - 1)
    else if c = '\x7d' || (c = ':' && depth = 0) then finish 0
    else literal depth
  | .regular =>
    if c = '(' then literal (depth + 1)
    else if c = ')' && 0 < depth then literal (depth - 1)
    else if c = '|' || 0 < depth then literal depth
    else if isMeta c then finish 0
    else literal depth
  | _ =>
    let opener : Bool := c = '@' || c = '?' || c = '*' || c = '+' ||
      (c = '!' && (context = .pattern || !progress.parts.isEmpty))
    if opener && next = some '(' && (← isExtended) then
      pass 2
      return .inl
        { parts := Part.addLiteral false (String.ofList [c, '(']) progress.parts
          depth := depth + 1 }
    else if 0 < depth then
      if c = '(' then literal (depth + 1)
      else if c = ')' then literal (depth - 1)
      else literal depth
    else if (c = '<' || c = '>') && next = some '(' && (← isExtended) then
      pass 2
      let body ← nested.commands true
      return .inl { progress with parts := .channel (c = '>') body :: progress.parts }
    else if isMeta c then finish 0
    else literal depth

/-- Reads one piece of a word. -/
def readPiece (nested : Nested) (context : Context) (start : Nat) (progress : Progress) :
    Reader (Progress ⊕ List Part) := do
  let extended (parts : List Part) : Progress ⊕ List Part :=
    let joined := parts.foldl
      (fun before part =>
        match part with
        | .literal quoted text => Part.addLiteral quoted text before
        | part => part :: before)
      progress.parts
    .inl { progress with parts := joined }
  match ← rest with
  | [] => atEnd context start progress
  | '\\' :: _ => return extended (← readEscaped context)
  | '$' :: _ => return extended (← readDollar nested context)
  | '`' :: _ => return extended [← readBackquoted nested context.quotes]
  | '"' :: _ =>
    match context with
    | .marks => pass 1; return .inr progress.parts.reverse
    | .document => pass 1; return extended [.literal true "\""]
    | .arithmetic =>
      pass 1
      return extended (if ← isExtended then [] else [.literal true "\""])
    | _ => return extended (← readMarked nested)
  | '\'' :: _ =>
    if context.quotes then pass 1; return extended [.literal true "'"]
    else return extended (← readApostrophes)
  | c :: more =>
    if isOrdinary c then
      let text ← passWhile isOrdinary
      return extended [.literal context.quotes (String.ofList text)]
    else readCharacter nested context progress c more.head?

/-- Reads the parts of a word up to the end of its context. Words within words go at most `fuel`
levels deep. -/
def readParts (commands : (closed : Bool) → Reader Command) : (fuel : Nat) → Context →
    Reader (List Part)
  | 0, _ => refuse "word too long"
  | fuel + 1, context => do
    let start := (← get).line
    loop (readPiece { parts := readParts commands fuel, commands } context start) patience {}

/-- How many levels deep words within words go. -/
def wordDepth : Nat :=
  1000

/-- Reads the word that announces a text within the script: the line that ends the text, and whether
any of it is quoted. -/
def readDelimiter : Reader (String × Bool) :=
  loop (fun ((text, quoted) : String × Bool) => do
    match ← rest with
    | [] => return .inr (text, quoted)
    | '\\' :: '\n' :: _ => pass 2; return .inl (text, quoted)
    | '\\' :: c :: _ => pass 2; return .inl (text.push c, true)
    | '\'' :: _ =>
      let parts ← readApostrophes
      return .inl (text ++ Part.literalText parts, true)
    | '"' :: more =>
      let inner := more.takeWhile (· ≠ '"')
      if inner.length = more.length then
        throw (.unended (← get).line (← get).line "Unterminated quoted string" '"')
      pass (inner.length + 2)
      return .inl (text ++ String.ofList inner, true)
    | c :: _ =>
      if isMeta c then return .inr (text, quoted)
      else
        pass 1
        return .inl (text.push c, quoted)) patience ("", false)

end Reader

end ManifestPin.Shell
