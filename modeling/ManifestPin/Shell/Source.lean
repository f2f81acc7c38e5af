import ManifestPin.Shell.Script

/-! # The text of a script

Reading a script from its front: what is left of it, the lexemes that it is made of, and the faults
of a text that does not go on as it has to. -/

namespace ManifestPin.Shell

/-- The smallest pieces of a script. -/
inductive Lexeme where
  /-- A word, and its text if nothing of it is quoted or stands for something else. -/
  | word (parts : List Part) (plain : Option String)
  | redirection (descriptor : Option Nat) (operator : String)
  | operator (text : String)
  /-- A word with a meaning of its own. -/
  | reserved (text : String)
  /-- A list that a variable is set to. -/
  | list (assignment : Assignment)
  | lineEnd
  | ending

/-- A text within the script whose lines are still to be read. -/
structure Announcement where
  /-- The number of the text. -/
  index : Nat
  /-- The line that ends it. -/
  delimiter : String
  /-- Whether nothing in it stands for something else. -/
  quoted : Bool
  /-- Whether tabs in front of its lines are dropped. -/
  indented : Bool
  /-- The line that announces it. -/
  line : Nat

/-- The text of a script that is left to read, and what reading it so far led to. -/
structure Source where
  dialect : Dialect
  rest : List Char
  line : Nat
  /-- A lexeme that was read ahead. -/
  held : Option Lexeme := none
  /-- Words that stand for other texts. -/
  aliases : List (String × String) := []
  /-- Words in use, each with how much of the text is left behind what they stand for. -/
  active : List (String × Nat) := []
  /-- How much of the text is left behind a word in use whose text ends with a blank: the next word
  may stand for another text too. -/
  carried : Option Nat := none
  /-- Texts within the script that start behind the current line. -/
  announced : List Announcement := []
  /-- The texts within the script. -/
  documents : Array (List Part)
  /-- Texts within the script that no line ends: their delimiters, first and last lines. -/
  unended : List (String × Nat × Nat) := []

/-- A fault in a script. -/
inductive Misreading where
  /-- A lexeme at a wrong place, and what has to stand there. -/
  | unexpected (line : Nat) (found : Lexeme) (wanted : Option String)
  /-- A text that ends before it is complete: what is missing, and what opened it. -/
  | unended (line start : Nat) (complaint : String) (closer : Char)
  /-- A fault in a condition: what is wrong, if anything is said, and the text that it is near. -/
  | misjudged (line : Nat) (complaint : Option String) (near : String)
  /-- Anything else, as the standard and the extended shell call it. -/
  | faulty (line : Nat) (complaint : String) (extended : String)

/-- A step of reading. -/
abbrev Reader := StateT Source (Except Misreading)

namespace Reader

/-- How many steps a loop may take. No script has more pieces. -/
def patience : Nat :=
  0x1000000

/-- Repeats a step until it gives a result. -/
@[specialize] def loop {σ α : Type} (step : σ → Reader (σ ⊕ α)) : Nat → σ → Reader α
  | 0, _ => fun source => throw (.faulty source.line "script too long" "script too long")
  | fuel + 1, state => do
    match ← step state with
    | .inl state => loop step fuel state
    | .inr result => return result

/-- Refuses the script. -/
def refuse (complaint : String) : Reader α := do
  throw (.faulty (← get).line complaint complaint)

/-- The text that is left. -/
def rest : Reader (List Char) := do
  return (← get).rest

/-- Whether the extended dialect is read. -/
def isExtended : Reader Bool := do
  return (← get).dialect = .extended

/-- Passes a number of characters. -/
def pass (count : Nat) : Reader Unit :=
  modify fun source =>
    let ends := (source.rest.take count).count '\n'
    { source with rest := source.rest.drop count, line := source.line + ends }

/-- Passes characters as long as they pass a test, and gives them. -/
def passWhile (test : Char → Bool) : Reader (List Char) := do
  let (taken, left) := (← rest).span test
  modify fun source => { source with rest := left, line := source.line + taken.count '\n' }
  return taken

/-- Passes a text if it comes next. -/
def passText? (text : String) : Reader Bool := do
  if text.toList.isPrefixOf (← rest) then
    pass text.length
    return true
  else return false

/-- Passes escaped line ends. -/
def joinLines : Reader Unit :=
  loop (fun (_ : Unit) => do
    match ← rest with
    | '\\' :: '\n' :: _ => pass 2; return .inl ()
    | _ => return .inr ()) patience ()

/-- A character that ends a word. -/
def isMeta (c : Char) : Bool :=
  isBlank c || c = '\n' || c = ';' || c = '&' || c = '|' || c = '<' || c = '>' || c = '(' ||
    c = ')'

/-- Passes blanks, escaped line ends and a comment. -/
def skipBlanks : Reader Unit :=
  loop (fun (_ : Unit) => do
    match ← rest with
    | ' ' :: _ => pass 1; return .inl ()
    | '\t' :: _ => pass 1; return .inl ()
    | '\\' :: '\n' :: _ => pass 2; return .inl ()
    | '#' :: _ =>
      let _ ← passWhile (· ≠ '\n')
      return .inr ()
    | _ => return .inr ()) patience ()

/-- The words with a meaning of their own. -/
def reservedWords (dialect : Dialect) : List String :=
  ["!", "case", "do", "done", "elif", "else", "esac", "fi", "for", "if", "in", "then", "until",
    "while", "\x7b", "\x7d"] ++
    match dialect with
    | .standard => []
    | .extended => ["[[", "]]", "function", "time"]

/-- The lexemes that end a list of commands. -/
def endsCommands : Lexeme → Bool
  | .ending => true
  | .operator text => [")", ";;", ";&", ";;&"].contains text
  | .reserved text =>
    ["do", "done", "elif", "else", "esac", "fi", "then", "\x7d"].contains text
  | _ => false

/-- The operators between commands, each in front of its own beginnings. -/
def operatorTexts (dialect : Dialect) : List String :=
  match dialect with
  | .standard => ["&&", "&", "||", "|", ";;", ";", "(", ")"]
  | .extended => ["&&", "&", "||", "|&", "|", ";;&", ";;", ";&", ";", "(", ")"]

/-- The operators of redirections, each in front of its own beginnings. -/
def redirectionTexts (dialect : Dialect) : List String :=
  match dialect with
  | .standard => [">>", ">|", ">&", ">", "<<-", "<<", "<&", "<>", "<"]
  | .extended => [">>", ">|", ">&", ">", "<<<", "<<-", "<<", "<&", "<>", "<", "&>>", "&>"]

/-- The first of several texts that a text starts with. -/
def startOf? (texts : List String) (text : List Char) : Option String :=
  texts.find? fun start => start.toList.isPrefixOf text

/-- The descriptor, the operator and the length of a redirection that a text starts with. -/
def redirection? (dialect : Dialect) (text : List Char) : Option (Option Nat × String × Nat) :=
  let digits := text.takeWhile Char.isDigit
  if digits.length > (if dialect = .standard then 1 else 3) then none
  else
    (startOf? (redirectionTexts dialect) (text.drop digits.length)).bind fun operator =>
      if digits.isEmpty then some (none, operator, operator.length)
      else if operator.startsWith "&" then none
      else some (some (numberOf 10 digits), operator, digits.length + operator.length)

/-- A lexeme as the faults of the extended dialect show it. -/
def token : Lexeme → String
  | .word parts _ => Part.literalText parts
  | .list _ => "("
  | .redirection _ operator => operator
  | .operator text => text
  | .reserved text => text
  | .lineEnd => "newline"
  | .ending => "end of file"

/-- A lexeme as the faults of the standard dialect show it. -/
def shown : Lexeme → String
  | .word .. => "word"
  | .list _ => "word"
  | .redirection .. => "redirection"
  | .operator text => "\"" ++ text ++ "\""
  | .reserved text => "\"" ++ text ++ "\""
  | .lineEnd => "newline"
  | .ending => "end of file"

/-- Refuses a lexeme. -/
def unexpected (found : Lexeme) : Reader α := do
  throw (.unexpected (← get).line found none)

/-- Refuses a lexeme where another one has to stand. -/
def expecting (found : Lexeme) (wanted : String) : Reader α := do
  throw (.unexpected (← get).line found (some wanted))

end Reader

/-- The wording of a fault in the standard dialect, and its line. -/
def Misreading.standard : Misreading → Nat × String
  | .unexpected line found wanted =>
    let suffix : String :=
      match wanted with
      | some wanted => " (expecting " ++ wanted ++ ")"
      | none => ""
    (line, "Syntax error: " ++ Reader.shown found ++ " unexpected" ++ suffix)
  | .unended line _ complaint _ => (line, "Syntax error: " ++ complaint)
  | .misjudged line complaint near => (line, "Syntax error: " ++ complaint.getD near)
  | .faulty line complaint _ => (line, "Syntax error: " ++ complaint)

end ManifestPin.Shell
