import ManifestPin.Shell.Braces
import ManifestPin.Shell.Word

/-! # Reading scripts

The grammar of shell scripts, read line by line: a fault in one line leaves the lines before it
intact. -/

namespace ManifestPin.Shell

/-- The commands whose faults end a script of the standard dialect. -/
def specialCommands : List String :=
  [":", ".", "break", "continue", "eval", "exec", "exit", "export", "local", "readonly", "return",
    "set", "shift", "times", "trap", "unset"]

namespace Reader

/-- What a lexeme is looked at for. -/
structure Checks where
  /-- Line ends are passed. -/
  lines : Bool := false
  /-- Words may have a meaning of their own. -/
  reserved : Bool := false
  /-- Words may stand for other texts. -/
  aliases : Bool := false

/-- The checks where a command starts. -/
def commandStart : Checks :=
  { reserved := true, aliases := true }

/-- The checks where a command has to follow, perhaps on another line. -/
def commandFollows : Checks :=
  { lines := true, reserved := true, aliases := true }

/-- How commands are read that stand within others. -/
inductive Goal where
  /-- Commands to the end of the line. -/
  | line
  /-- At least one command. -/
  | body
  /-- Any number of commands. -/
  | commands
  /-- A single command. -/
  | command

/-- How a reader reads what stands within the commands that it reads. -/
abbrev Inner := Goal → Reader Command

/-- Reads commands up to a parenthesis, or up to the end of the text. -/
def enclosed (inner : Inner) (next : Checks → Reader Lexeme) (closed : Bool) :
    Reader Command := do
  let body ← inner .commands
  if closed then
    match ← next {} with
    | .operator ")" => return body
    | found => expecting found "\")\""
  else
    modify fun source => { source with held := none }
    return body

/-- Reads commands up to a parenthesis. In the extended dialect the fault of a text that ends before
it is that the parenthesis is missing. -/
def enclosedWhole (inner : Inner) (next : Checks → Reader Lexeme) (closed : Bool) :
    Reader Command := do
  if (← isExtended) && closed then
    match (enclosed inner next closed).run (← get) with
    | .ok (body, source) =>
      set source
      return body
    | .error (.unexpected line .ending _) => throw (.unended line line "Missing ')'" ')')
    | .error fault => throw fault
  else enclosed inner next closed

/-- The lines of a text within the script, and what is left behind it. -/
def documentLines (announcement : Announcement) (text : List Char) :
    List Char × List Char × Bool :=
  let strip (line : List Char) : List Char :=
    if announcement.indented then line.dropWhile (· = '\t') else line
  let rec go : Nat → Bool → List Char → List Char → List Char × List Char × Bool
    | 0, _, found, rest => (found.reverse, rest, false)
    | fuel + 1, joined, found, rest =>
      if rest.isEmpty then (found.reverse, [], false)
      else
        let (line, behind) := rest.span (· ≠ '\n')
        let line := if joined then line else strip line
        if !joined && String.ofList line = announcement.delimiter then
          (found.reverse, behind.drop 1, true)
        else
          let slashes := (line.reverse.takeWhile (· = '\\')).length
          let joins := !announcement.quoted && slashes % 2 = 1
          go fuel joins
            ((if behind.isEmpty then [] else ['\n']) ++ line.reverse ++ found) (behind.drop 1)
  go (text.length + 1) false [] text

/-- Reads the texts within the script that start at the current position. -/
def readDocuments (parts : Context → Reader (List Part)) : Reader Unit := do
  let source ← get
  set { source with announced := [] }
  for announcement in source.announced do
    let source ← get
    let (text, behind, ended) := documentLines announcement source.rest
    let passed := (source.rest.take (source.rest.length - behind.length)).count '\n'
    let content ← (if announcement.quoted then
        return [.literal true (String.ofList text)]
      else within text source.line (parts .document))
    modify fun inner =>
      { inner with
        rest := behind
        line := source.line + passed
        documents := inner.documents.set! announcement.index content
        unended :=
          if ended then inner.unended
          else
            (announcement.delimiter, announcement.line, source.line + passed - 1) :: inner.unended }

/-- A subscript in brackets at the start of parts, what follows the brackets, and whether a value is
added to the one that is there. -/
def subscript? (parts : List Part) : Option (List Part × Bool × List Part) :=
  let rec go : List Part → List Part → Option (List Part × Bool × List Part)
    | _, [] => none
    | before, .literal false text :: rest =>
      match text.splitOn "]=" with
      | inner :: more@(_ :: _) =>
        let value := Part.literal false ("]=".intercalate more) :: rest
        some ((Part.literal false inner :: before).reverse, false, value)
      | _ =>
        match text.splitOn "]+=" with
        | inner :: more@(_ :: _) =>
          let value := Part.literal false ("]+=".intercalate more) :: rest
          some ((Part.literal false inner :: before).reverse, true, value)
        | _ => go (.literal false text :: before) rest
    | before, part :: rest => go (part :: before) rest
  go [] parts

/-- Parts with a text in front. -/
def withText (text : List Char) (parts : List Part) : List Part :=
  if text.isEmpty then parts else .literal false (String.ofList text) :: parts

/-- The assignment that a word is. -/
def assignment? (dialect : Dialect) (parts : List Part) : Option Assignment :=
  match parts with
  | .literal false text :: others =>
    let (name, rest) := text.toList.span isNameChar
    if !isName (String.ofList name) then none
    else
      match rest, dialect with
      | '=' :: value, _ => some (.word (String.ofList name) none false (withText value others))
      | '+' :: '=' :: value, .extended =>
        some (.word (String.ofList name) none true (withText value others))
      | '[' :: inner, .extended =>
        (subscript? (.literal false (String.ofList inner) :: others)).map
          fun (place, append, value) => .word (String.ofList name) (some place) append value
      | _, _ => none
  | _ => none

/-- Reads the values of a list, from behind its opening parenthesis. -/
def readList (parts : Context → Reader (List Part)) :
    Reader (List (Option (List Part) × List Part)) := do
  let start := (← get).line
  loop (fun values => do
    skipBlanks
    match ← rest with
    | '\n' :: _ => pass 1; return .inl values
    | ')' :: _ => pass 1; return .inr values
    | [] => throw (.unended (← get).line start "Missing ')'" ')')
    | c :: _ =>
      if isMeta c then unexpected (.operator (String.singleton c))
      let value ← parts .word
      match value with
      | .literal false text :: others =>
        match text.toList with
        | '[' :: inner =>
          match subscript? (withText inner others) with
          | some (place, _, value) => return .inl (values ++ [(some place, value)])
          | none => return .inl (values ++ [(none, value)])
        | _ => return .inl (values ++ (Braces.expand value).map fun word => (none, word))
      | value => return .inl (values ++ (Braces.expand value).map fun word => (none, word)))
    patience []

/-- Reads a word of a command, which may be the start of a list. -/
def readWord (parts : Context → Reader (List Part)) : Reader Lexeme := do
  let word ← parts .word
  let plain := Part.plain? word
  if (← isExtended) && (← rest).head? = some '(' then
    match assignment? .extended word with
    | some (.word name none append []) =>
      pass 1
      let before ← rest
      let values ← readList parts
      let written := String.ofList (before.take (before.length - (← rest).length))
      return .list (.list name written append values)
    | _ => return .word word plain
  else return .word word plain

/-- Reads a lexeme. -/
def scan (parts : Context → Reader (List Part)) : Reader Lexeme := do
  skipBlanks
  let source ← get
  match source.rest with
  | [] =>
    readDocuments parts
    return .ending
  | '\n' :: _ =>
    pass 1
    readDocuments parts
    return .lineEnd
  | text =>
    match redirection? source.dialect text with
    | some (descriptor, operator, count) =>
      let opensChannel : Bool := source.dialect = .extended && descriptor.isNone &&
        (operator = "<" || operator = ">") && (text.drop count).head? = some '('
      if opensChannel then readWord parts
      else
        pass count
        return .redirection descriptor operator
    | none =>
      match startOf? (operatorTexts source.dialect) text with
      | some operator => pass operator.length; return .operator operator
      | none => readWord parts

/-- The text that a word stands for, unless it is in use already. -/
def aliasOf? (source : Source) (text : String) : Option String :=
  let left := source.rest.length
  if source.active.any fun entry => entry.1 = text && left ≤ entry.2 then none
  else (source.aliases.find? fun entry => entry.1 = text).map (·.2)

/-- Gives the next lexeme. -/
def next (parts : Context → Reader (List Part)) (checks : Checks) : Reader Lexeme :=
  loop (fun (_ : Unit) => do
    let source ← get
    let carries : Bool := source.held.isNone && source.carried.any (source.rest.length ≤ ·)
    let found ← (match source.held with
      | some held => do
        set { source with held := none }
        return held
      | none => scan parts)
    if carries then modify fun source => { source with carried := none }
    match found with
    | .lineEnd => return if checks.lines then .inl () else .inr found
    | .word _ (some text) =>
      if checks.reserved && (reservedWords source.dialect).contains text then
        return .inr (.reserved text)
      else if (checks.aliases || carries) && !source.aliases.isEmpty then
        let source ← get
        match aliasOf? source text with
        | none => return .inr found
        | some value =>
          let left := source.rest.length
          let blanks := (value.toList.reverse.takeWhile isBlank).length
          set { source with
            rest := value.toList ++ source.rest
            active := (text, left) :: source.active
            carried := if blanks = 0 then source.carried else some (left + blanks) }
          return .inl ()
      else return .inr found
    | found => return .inr found) patience ()

/-- Puts a lexeme back. -/
def hold (lexeme : Lexeme) : Reader Unit :=
  modify fun source => { source with held := some lexeme }

/-- The tools that commands are read with. -/
structure Tools where
  inner : Inner
  parts : Context → Reader (List Part)
  next : Checks → Reader Lexeme

namespace Tools

/-- The tools with a reader for what stands within commands. At most `fuel` levels of words and
commands stand within each other. -/
def ofInner (inner : Inner) : (fuel : Nat) → Tools
  | 0 =>
    { inner
      parts := fun _ => refuse "word too long"
      next := fun _ => refuse "word too long" }
  | fuel + 1 =>
    let parts := readParts (enclosedWhole inner fun checks => (ofInner inner fuel).next checks) wordDepth
    { inner, parts, next := Reader.next parts }

/-- Reads the words that a redirection needs. -/
def readTarget (tools : Tools) (descriptor : Option Nat) (operator : String) :
    Reader (List Redirection) := do
  let standard : Nat := if operator.startsWith "<" then 0 else 1
  let descriptor' := descriptor.getD standard
  if operator = "<<" || operator = "<<-" then
    skipBlanks
    let line := (← get).line
    let (delimiter, quoted) ←
      (match (← rest).head? with
        | some c => do
          if isMeta c then unexpected (← tools.next {})
          readDelimiter
        | none => do unexpected (← tools.next {}))
    let source ← get
    let index := source.documents.size
    let announcement : Announcement :=
      { index, delimiter, quoted, indented := operator = "<<-", line }
    set { source with
      announced := source.announced ++ [announcement]
      documents := source.documents.push [] }
    return [.document descriptor' index]
  else
    match ← tools.next {} with
    | .word target _ =>
      match operator with
      | ">" => return [.file descriptor' .write target]
      | ">|" => return [.file descriptor' .clobber target]
      | ">>" => return [.file descriptor' .append target]
      | "<" => return [.file descriptor' .read target]
      | "<>" => return [.file descriptor' .readWrite target]
      | "<<<" => return [.word descriptor' target]
      | "&>" => return [.file 1 .write target, .copy 2 true [.literal false "1"]]
      | "&>>" => return [.file 1 .append target, .copy 2 true [.literal false "1"]]
      | _ =>
        let plain := Part.plain? target
        let names := (← isExtended) && operator = ">&" && descriptor.isNone &&
          plain.any fun text => !isNumeral text && text ≠ "-"
        if names then
          return [.file 1 .write target, .copy 2 true [.literal false "1"]]
        else return [.copy descriptor' (operator = ">&") target]
    | found => unexpected found

/-- Reads the redirections behind a compound command. -/
def readRedirections (tools : Tools) : Reader (List Redirection) :=
  loop (fun found => do
    match ← tools.next commandStart with
    | .redirection descriptor operator =>
      return .inl (found ++ (← tools.readTarget descriptor operator))
    | other => hold other; return .inr found) patience []

/-- Passes a reserved word. -/
def expectWord (tools : Tools) (checks : Checks) (wanted : String) : Reader Unit := do
  match ← tools.next checks with
  | .reserved text =>
    if text ≠ wanted then expecting (.reserved text) ("\"" ++ wanted ++ "\"")
  | found => expecting found ("\"" ++ wanted ++ "\"")

/-- What the words of a simple command are so far. -/
structure Simple where
  assignments : List Assignment := []
  words : List (List Part) := []
  redirections : List Redirection := []

/-- Reads a function whose name has been read, from behind the opening parenthesis. -/
def readFunction (tools : Tools) (line : Nat) (name : String) : Reader Command := do
  match ← tools.next {} with
  | .operator ")" => pure ()
  | found => expecting found "\")\""
  let isGood : Bool := isName name && !specialCommands.contains name
  if !isGood && !(← isExtended) then refuse "Bad function name"
  let first ← tools.next commandFollows
  if ← isExtended then
    match first with
    | .word .. => unexpected first
    | .redirection .. => unexpected first
    | _ => pure ()
  hold first
  return .define line name (← tools.inner .command)

/-- Reads the rest of a simple command, which starts in a line. In the extended dialect the line is
the one in which its second piece ends. -/
def readSimple (tools : Tools) : Reader Command := do
  let line := (← get).line
  let dialect := (← get).dialect
  loop (fun ((count, line, found) : Nat × Nat × Simple) => do
    let checks : Checks := { aliases := found.words.isEmpty }
    let lexeme ← tools.next checks
    let reached := (← get).line
    let line : Nat :=
      match lexeme with
      | .lineEnd => line
      | _ => if count = 1 && dialect = .extended then reached else line
    let go (found : Simple) : Reader ((Nat × Nat × Simple) ⊕ Command) :=
      return .inl (count + 1, line, found)
    match lexeme with
    | .redirection descriptor operator =>
      let added ← tools.readTarget descriptor operator
      go { found with redirections := found.redirections ++ added }
    | .list assignment => go { found with assignments := found.assignments ++ [assignment] }
    | .word parts _ =>
      match found.words, assignment? dialect parts with
      | [], some assigned => go { found with assignments := found.assignments ++ [assigned] }
      | _, _ =>
        let words := if dialect = .extended then Braces.expand parts else [parts]
        go { found with words := found.words ++ words }
    | .reserved text => go { found with words := found.words ++ [[.literal false text]] }
    | other =>
      match other, found with
      | .operator "(", { assignments := [], words := [name], redirections := [] } =>
        return .inr (← tools.readFunction line (Part.literalText name))
      | other, found =>
        hold other
        return .inr (.simple line found.assignments found.words found.redirections))
    patience (0, line, {})

/-- Reads a condition from behind its first word. -/
def readConditional (tools : Tools) : Reader Command := do
  let test ← tools.inner .body
  tools.expectWord {} "then"
  let body ← tools.inner .body
  let branches ← loop (fun (branches : List (Command × Command)) => do
    match ← tools.next {} with
    | .reserved "elif" =>
      let test ← tools.inner .body
      tools.expectWord {} "then"
      return .inl (branches ++ [(test, ← tools.inner .body)])
    | other => hold other; return .inr branches) patience [(test, body)]
  let otherwise : Option Command ← (do
    match ← tools.next {} with
    | .reserved "else" => return some (← tools.inner .body)
    | other => hold other; return none)
  tools.expectWord {} "fi"
  match branches.foldr
      (fun (test, body) otherwise => some (Command.conditional test body otherwise))
      otherwise with
  | some command => return command
  | none => return .skip

/-- Reads the commands between two reserved words. -/
def readBetween (tools : Tools) (opener closer : String) : Reader Command := do
  tools.expectWord commandFollows opener
  let body ← tools.inner .body
  tools.expectWord {} closer
  return body

/-- Parts cut at the semicolons in them. -/
def cutParts (parts : List Part) : List (List Part) :=
  parts.foldr
    (fun part pieces =>
      let before (part : Part) (pieces : List (List Part)) : List (List Part) :=
        match pieces with
        | piece :: more => (part :: piece) :: more
        | [] => [[part]]
      match part with
      | .literal quoted text =>
        match (piecesAt ';' text).reverse with
        | last :: earlier =>
          earlier.foldl (fun pieces text => [.literal quoted text] :: pieces)
            (before (.literal quoted last) pieces)
        | [] => pieces
      | part => before part pieces)
    [[]]

/-- Parts without blanks in front. -/
def dropBlanks : List Part → List Part
  | .literal quoted text :: rest => .literal quoted (text.dropWhile isSpace).toString :: rest
  | parts => parts

/-- Reads the body of a counted loop. -/
def readCountedBody (tools : Tools) : Reader Command := do
  match ← tools.next commandFollows with
  | .reserved "\x7b" =>
    let body ← tools.inner .body
    tools.expectWord {} "\x7d"
    return body
  | .operator ";" => tools.readBetween "do" "done"
  | other => hold other; tools.readBetween "do" "done"

/-- Reads something, and gives it with its text as it is written. -/
def withWritten (action : Reader α) : Reader (α × String) := do
  skipBlanks
  let before ← rest
  let result ← action
  let written := before.take (before.length - (← rest).length)
  return (result, String.ofList written)

/-- Reads a loop over words from behind its first word. -/
def readEach (tools : Tools) (line : Nat) : Reader Command := do
  skipBlanks
  if (← isExtended) && ['(', '('].isPrefixOf (← rest) then
    pass 2
    match cutParts (← tools.parts .arithmetic) with
    | [start, test, step] =>
      return .counted line (dropBlanks start) (dropBlanks test) (dropBlanks step)
        (← tools.readCountedBody)
    | _ => refuse "Bad for loop variable"
  else
    let name ← (do
      match ← tools.next {} with
      | .word _ (some name) =>
        if isName name || (← isExtended) then return name else refuse "Bad for loop variable"
      | found => if ← isExtended then unexpected found else refuse "Bad for loop variable")
    let (words, written) : Option (List (List Part)) × String ← (do
      match ← tools.next commandFollows with
      | .reserved "in" =>
        let extended ← isExtended
        let (words, written) ← loop
          (fun ((words, written) : List (List Part) × List String) => do
            match ← withWritten (tools.next {}) with
            | (.word parts _, text) =>
              let added := if extended then Braces.expand parts else [parts]
              return .inl (words ++ added, written ++ [text])
            | (.lineEnd, _) => return .inr (words, written)
            | (.operator ";", _) => return .inr (words, written)
            | (found, _) => unexpected found) patience ([], [])
        return (some words, " ".intercalate written)
      | .operator ";" => return (none, "\"$@\"")
      | other => hold other; return (none, "\"$@\""))
    if ← isExtended then
      return .each line name written words (← tools.readCountedBody)
    else return .each line name written words (← tools.readBetween "do" "done")

/-- The parts of a lexeme that stands for a pattern. -/
def patternOf : Lexeme → List Part
  | .word parts _ => parts
  | .reserved text => [.literal false text]
  | _ => []

/-- Reads the branches of a choice and the word that ends them. -/
def readBranches (tools : Tools) : Reader (List (List (List Part) × Command × BranchEnd)) :=
  loop (fun branches => do
    match ← tools.next { lines := true, reserved := true } with
    | .reserved "esac" => return .inr branches
    | first =>
      let first ← (match first with
        | .operator "(" => tools.next {}
        | first => pure first)
      if ← isExtended then
        match first with
        | .word .. => pure ()
        | .reserved _ => pure ()
        | found => unexpected found
      let patterns ← loop (fun patterns => do
        match ← tools.next {} with
        | .operator "|" => return .inl (patterns ++ [patternOf (← tools.next {})])
        | .operator ")" => return .inr patterns
        | found => expecting found "\")\"") patience [patternOf first]
      let body ← tools.inner .commands
      match ← tools.next { lines := true, reserved := true } with
      | .reserved "esac" => return .inr (branches ++ [(patterns, body, .leave)])
      | .operator ";;" => return .inl (branches ++ [(patterns, body, .leave)])
      | .operator ";&" => return .inl (branches ++ [(patterns, body, .fall)])
      | .operator ";;&" => return .inl (branches ++ [(patterns, body, .retry)])
      | found => expecting found "\";;\"") patience []

/-- Reads a choice from behind its first word. -/
def readChoice (tools : Tools) (line : Nat) : Reader Command := do
  let (word, written) ← withWritten (do
    match ← tools.next {} with
    | .word parts _ => return parts
    | found => expecting found "word")
  tools.expectWord commandFollows "in"
  return .choice line written word (← tools.readBranches)

/-- Passes blanks and line ends. -/
def skipLines : Reader Unit :=
  loop (fun (_ : Unit) => do
    skipBlanks
    if ← passText? "\n" then return .inl () else return .inr ()) patience ()

/-- Whether a text is a test of one operand. -/
def isUnaryTest (text : String) : Bool :=
  match text.toList with
  | ['-', letter] => "abcdefghkprstuwxGLNOSznov".toList.contains letter
  | _ => false

/-- Whether a text is a test of two operands. -/
def isBinaryTest (text : String) : Bool :=
  ["=", "==", "!=", "=~", "-eq", "-ne", "-lt", "-le", "-gt", "-ge", "-ef", "-nt", "-ot"].contains
    text

/-- Refuses a lexeme in a condition behind a word. -/
def misjudge (found : Lexeme) (previous : String) (complaint : String → Option String) :
    Reader α := do
  let line := (← get).line
  let near : String :=
    match found with
    | .lineEnd => previous
    | .ending => previous
    | .operator text => (text.take 1).toString
    | found => token found
  let line := if found matches .lineEnd then line - 1 else line
  throw (.misjudged line (complaint (token found)) near)

/-- Reads a word of a condition, unless something else comes next. -/
def readOperand? (tools : Tools) (context : Context) : Reader (List Part ⊕ Lexeme) := do
  skipBlanks
  match (← rest).head? with
  | none => return .inr .ending
  | some c =>
    if isMeta c then return .inr (← tools.next {})
    let parts ← tools.parts context
    if Part.plain? parts = some "]]" then return .inr (.word parts (some "]]"))
    else return .inl parts

/-- Reads the operand of an operator behind its text. -/
def readOperand (tools : Tools) (context : Context) (operator kind : String) :
    Reader (List Part) := do
  match ← tools.readOperand? context with
  | .inl parts => return parts
  | .inr found =>
    misjudge found operator fun token =>
      some ("unexpected argument \x60" ++ token ++ "' to conditional " ++ kind ++ " operator")

/-- Reads a condition without operators, in parentheses or negated. -/
def readTerm (tools : Tools) (condition : Reader Condition) : Reader Condition := do
  skipLines
  let negations ← loop (fun count => do
    match ← rest with
    | '!' :: c :: _ =>
      if isBlank c || c = '\n' || c = '(' then
        pass 1
        skipLines
        return .inl (count + 1)
      else return .inr count
    | _ => return .inr count) patience 0
  let term : Condition ← (do
    if ← passText? "(" then
      let inner ← condition
      skipLines
      if ← passText? ")" then return inner
      else
        misjudge (← tools.next {}) "" fun token =>
          if token = "]]" then some "unexpected token \x60]]', expected \x60)'"
          else some "expected \x60)'"
    else
      match ← tools.readOperand? .pattern with
      | .inr found =>
        misjudge found "" fun token =>
          if token = "]]" then none
          else some ("unexpected token \x60" ++ token ++ "' in conditional command")
      | .inl left =>
        let text := Part.literalText left
        if (Part.plain? left).any isUnaryTest then
          return .one text (← tools.readOperand .pattern text "unary")
        skipBlanks
        if (startOf? ["]]", "&&", "||", ")"] (← rest)).isSome then return .one "-n" left
        match ← rest with
        | '<' :: _ => pass 1; return .two left "<" (← tools.readOperand .pattern "<" "binary")
        | '>' :: _ => pass 1; return .two left ">" (← tools.readOperand .pattern ">" "binary")
        | _ =>
          match ← tools.readOperand? .word with
          | .inr found =>
            misjudge found text fun token =>
              some ("unexpected token \x60" ++ token ++ "', conditional binary operator expected")
          | .inl operator =>
            let text := Part.literalText operator
            if isBinaryTest text then
              let context : Context := if text = "=~" then .regular else .pattern
              return .two left text (← tools.readOperand context text "binary")
            else
              misjudge (.word operator (some text)) "" fun _ =>
                some "conditional binary operator expected")
  return (List.range negations).foldl (fun inner _ => .negated inner) term

/-- Reads a condition. At most `fuel` levels of parentheses stand within each other. -/
def readCondition (tools : Tools) : (fuel : Nat) → Reader Condition
  | 0 => refuse "condition too long"
  | fuel + 1 => do
    let term := tools.readTerm (readCondition tools fuel)
    let conjunction : Reader Condition := do
      let first ← term
      loop (fun left => do
        skipLines
        if ← passText? "&&" then return .inl (.both left (← term))
        else return .inr left) patience first
    let first ← conjunction
    loop (fun left => do
      skipLines
      if ← passText? "||" then return .inl (.either left (← conjunction))
      else return .inr left) patience first

/-- Reads a condition on words from behind its opening brackets. -/
def readJudgement (tools : Tools) (line : Nat) : Reader Command := do
  let condition ← tools.readCondition wordDepth
  skipLines
  if ← passText? "]]" then return .judge line condition
  else
    match ← tools.next {} with
    | .ending => unexpected .ending
    | .word parts plain =>
      misjudge (.word parts plain) "" fun _ => some "syntax error in conditional expression"
    | found =>
      misjudge found "" fun token =>
        some ("syntax error in conditional expression: unexpected token \x60" ++ token ++ "'")

/-- Reads commands in parentheses, or an expression, from behind the opening parenthesis. -/
def readParenthesized (tools : Tools) (line : Nat) : Reader Command := do
  let commands : Reader Command := do
    let body ← tools.inner .body
    match ← tools.next {} with
    | .operator ")" => return .subshell line body
    | found => expecting found "\")\""
  if (← isExtended) && (← rest).head? = some '(' then
    let expression : Reader Command := do
      pass 1
      return .compute line (← tools.parts .arithmetic)
    let source ← get
    match expression.run source with
    | .ok (command, source) => set source; return command
    | .error fault =>
      match commands.run source, fault with
      | .ok (command, source), _ => set source; return command
      | .error _, .unended .. => throw fault
      | .error other, _ => throw other
  else commands

/-- Reads a function from behind its first word. -/
def readNamedFunction (tools : Tools) (line : Nat) : Reader Command := do
  match ← tools.next {} with
  | .word parts _ =>
    let name := Part.literalText parts
    skipBlanks
    if ← passText? "(" then tools.readFunction line name
    else
      hold (← tools.next commandFollows)
      return .define line name (← tools.inner .command)
  | found => unexpected found

/-- Reads a command. -/
def readCommand (tools : Tools) : Reader Command := do
  let line := (← get).line
  let first ← tools.next commandStart
  let around (body : Command) : Reader Command := do
    let reached := (← get).line
    let changes ← tools.readRedirections
    let line := if ← isExtended then reached else line
    return if changes.isEmpty then body else .redirected line body changes
  match first with
  | .reserved "if" => around (← tools.readConditional)
  | .reserved "while" =>
    let test ← tools.inner .body
    around (.loop true test (← tools.readBetween "do" "done"))
  | .reserved "until" =>
    let test ← tools.inner .body
    around (.loop false test (← tools.readBetween "do" "done"))
  | .reserved "for" => around (← tools.readEach line)
  | .reserved "case" => around (← tools.readChoice line)
  | .reserved "\x7b" =>
    let body ← tools.inner .body
    tools.expectWord {} "\x7d"
    around body
  | .reserved "[[" => around (← tools.readJudgement line)
  | .reserved "function" => tools.readNamedFunction line
  | .operator "(" => around (← tools.readParenthesized line)
  | .word .. => hold first; tools.readSimple
  | .list _ => hold first; tools.readSimple
  | .redirection .. => hold first; tools.readSimple
  | found => unexpected found

/-- Reads commands joined by pipes. -/
def readPipeline (tools : Tools) : Reader Command := do
  let negations ← loop (fun count => do
    match ← tools.next commandStart with
    | .reserved "!" =>
      if (← isExtended) || count = 0 then return .inl (count + 1)
      else unexpected (.reserved "!")
    | .reserved "time" =>
      return .inl count
    | other => hold other; return .inr count) patience 0
  let first ← (do
    match (← get).held with
    | some .lineEnd => if (← isExtended) && 0 < negations then return .skip else tools.readCommand
    | some (.operator ";") =>
      if (← isExtended) && 0 < negations then return .skip else tools.readCommand
    | _ => tools.readCommand)
  let stages ← loop (fun (stages : List Command) => do
    let joined (stages : List Command) : Reader (List Command ⊕ List Command) := do
      hold (← tools.next commandFollows)
      return .inl (stages ++ [← tools.readCommand])
    match ← tools.next {} with
    | .operator "|" => joined stages
    | .operator "|&" =>
      match stages.reverse with
      | last :: before =>
        let line := (← get).line
        let both := Command.redirected line last [.copy 2 true [.literal false "1"]]
        joined (before.reverse ++ [both])
      | [] => joined stages
    | other => hold other; return .inr stages) patience [first]
  let body : Command :=
    match stages with
    | [only] => only
    | stages => .pipeline stages
  return (List.range negations).foldl (fun body _ => .negated body) body

/-- Reads pipelines joined by `&&` and `||`. -/
def readChain (tools : Tools) : Reader Command := do
  let first ← tools.readPipeline
  loop (fun (left : Command) => do
    match ← tools.next {} with
    | .operator "&&" =>
      hold (← tools.next commandFollows)
      return .inl (.both left (← tools.readPipeline))
    | .operator "||" =>
      hold (← tools.next commandFollows)
      return .inl (.either left (← tools.readPipeline))
    | other => hold other; return .inr left) patience first

/-- Reads commands up to what ends a list of them. -/
def readCommands (tools : Tools) (toLineEnd mayBeEmpty : Bool) : Reader Command :=
  loop (fun ((found, mayEnd) : List Command × Bool) => do
    let finish : Reader ((List Command × Bool) ⊕ Command) :=
      return .inr (Command.ofList found.reverse)
    let first ← tools.next { commandStart with lines := !toLineEnd }
    let ends : Bool :=
      match first with
      | .lineEnd => true
      | .ending => true
      | first => mayEnd && !toLineEnd && endsCommands first
    if ends then
      match first with
      | .lineEnd => finish
      | first => hold first; finish
    else
      hold first
      let command ← tools.readChain
      let behind ← tools.next {}
      match behind with
      | .operator "&" => return .inl (.background command :: found, true)
      | .operator ";" => return .inl (command :: found, true)
      | .lineEnd => hold behind; return .inl (command :: found, true)
      | .ending => hold behind; return .inr (Command.ofList (command :: found).reverse)
      | behind =>
        if toLineEnd then unexpected behind
        else
          hold behind
          return .inr (Command.ofList (command :: found).reverse)) patience ([], mayBeEmpty)

end Tools

/-- Reads commands. At most `fuel` levels of commands stand within each other. -/
def read : (fuel : Nat) → Inner
  | 0, _ => refuse "script too long"
  | fuel + 1, goal =>
    let tools := Tools.ofInner (read fuel) wordDepth
    match goal with
    | .line => tools.readCommands true false
    | .body => tools.readCommands false false
    | .commands => tools.readCommands false true
    | .command => tools.readCommand

/-- How many levels of commands stand within each other. -/
def commandDepth : Nat :=
  2000

/-- Reads the commands of the next line, unless the text is at its end. -/
def readLine : Reader (Option Command) := do
  let tools := Tools.ofInner (read commandDepth) wordDepth
  modify fun source => { source with held := none }
  let first ← tools.next commandStart
  match first with
  | .ending => return none
  | first =>
    hold first
    return some (← read commandDepth .line)

/-- Reads all that is left as a text in which parameters and commands are expanded. -/
def readExpandable : Reader (List Part) :=
  (Tools.ofInner (read commandDepth) wordDepth).parts .document

end Reader

end ManifestPin.Shell
