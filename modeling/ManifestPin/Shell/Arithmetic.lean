import ManifestPin.Shell.Script

/-! # Arithmetic expressions

The integer expressions of a shell, evaluated while they are read. Integers have 64 bits and wrap
around. What an expression assigns is given beside its value. -/

namespace ManifestPin.Shell.Arithmetic

/-- Why an expression has no value. -/
inductive Fault where
  /-- An operand is missing. -/
  | primary
  /-- Something stands behind the expression. -/
  | ending
  /-- The second choice of a condition is missing. -/
  | colon
  | parenthesis
  | zeroDivision
  /-- The value of a variable is no number. -/
  | number (text : String)
  /-- A variable that has to be set is not. -/
  | unset (name : String)
  /-- A complaint of the extended dialect. -/
  | other (complaint : String)
  deriving DecidableEq

/-- What evaluation needs to know. -/
structure Setting where
  dialect : Dialect
  /-- Whether variables have to be set. -/
  strict : Bool
  /-- The values of variables, or of elements of lists by name and subscript. -/
  value? : String → Option String → Option String

/-- How far an expression has been read. -/
structure State where
  rest : List Char
  /-- The text from the last lexeme on. -/
  last : List Char
  /-- The variables assigned, with their subscripts, the latest first. -/
  writes : List (String × Option String × Int) := []

/-- A step of evaluation. -/
abbrev Evaluation := StateT State (Except Fault)

/-- The integer of 64 bits that a result is reduced to. -/
def wrap (value : Int) : Int :=
  value.bmod 0x10000000000000000

/-- The greatest integer. -/
def greatest : Int :=
  0x7fffffffffffffff

/-- The value of a truth value. -/
def truth (holds : Bool) : Int :=
  if holds then 1 else 0

/-- The natural number of the 64 bits of an integer. -/
def bits (value : Int) : Nat :=
  (value % 0x10000000000000000).toNat

/-- What an operator of two operands computes. -/
def compute (operator : String) (a b : Int) : Except Fault Int :=
  let shift : Nat := (b % 64).toNat
  match operator with
  | "*" => .ok (wrap (a * b))
  | "/" => if b = 0 then .error .zeroDivision else .ok (wrap (a.tdiv b))
  | "%" => if b = 0 then .error .zeroDivision else .ok (wrap (a.tmod b))
  | "+" => .ok (wrap (a + b))
  | "-" => .ok (wrap (a - b))
  | "<<" => .ok (wrap (a * Int.ofNat (1 <<< shift)))
  | ">>" => .ok (a / Int.ofNat (1 <<< shift))
  | "<" => .ok (truth (a < b))
  | "<=" => .ok (truth (a ≤ b))
  | ">" => .ok (truth (a > b))
  | ">=" => .ok (truth (a ≥ b))
  | "==" => .ok (truth (a = b))
  | "!=" => .ok (truth (a ≠ b))
  | "&" => .ok (wrap (Int.ofNat (bits a &&& bits b)))
  | "^" => .ok (wrap (Int.ofNat (bits a ^^^ bits b)))
  | "|" => .ok (wrap (Int.ofNat (bits a ||| bits b)))
  | _ => .ok b

/-- How loosely an operator of two operands binds. -/
def looseness? (operator : String) : Option Nat :=
  match operator with
  | "*" => some 0
  | "/" => some 0
  | "%" => some 0
  | "+" => some 1
  | "-" => some 1
  | "<<" => some 2
  | ">>" => some 2
  | "<" => some 3
  | "<=" => some 3
  | ">" => some 3
  | ">=" => some 3
  | "==" => some 4
  | "!=" => some 4
  | "&" => some 5
  | "^" => some 6
  | "|" => some 7
  | _ => none

/-- The operators, each in front of its own beginnings. -/
def operators (dialect : Dialect) : List String :=
  (match dialect with
    | .standard => []
    | .extended => ["**", "++", "--", ","]) ++
  ["<<=", ">>=", "<<", ">>", "<=", ">=", "==", "!=", "&&", "||", "+=", "-=", "*=", "/=", "%=",
    "&=", "|=", "^=", "<", ">", "+", "-", "*", "/", "%", "&", "|", "^", "!", "~", "=", "?", ":",
    "(", ")"]

/-- The operator that an operator of assignment applies. -/
def assigning? (operator : String) : Option String :=
  if ["=", "+=", "-=", "*=", "/=", "%=", "<<=", ">>=", "&=", "|=", "^="].contains operator then
    some (operator.dropEnd 1).toString
  else none

/-- A lexeme of an expression. -/
inductive Lexeme where
  | number (value : Int)
  | name (name : String) (subscript : Option String)
  | operator (text : String)
  | ending
  | unknown
  deriving DecidableEq

/-- The greatest integer at most, from a number without sign. -/
def clamp (value : Nat) : Int :=
  min (Int.ofNat value) greatest

/-- The number that a text starts with, and the text behind it. -/
def readNumber (text : List Char) : Int × List Char :=
  let isHex (c : Char) : Bool := digitValue c < 16
  match text with
  | '0' :: x :: rest =>
    let digits := rest.takeWhile isHex
    if (x = 'x' || x = 'X') && !digits.isEmpty then
      (clamp (numberOf 16 digits), rest.drop digits.length)
    else
      let digits := text.takeWhile isOctal
      (clamp (numberOf 8 digits), text.drop digits.length)
  | text =>
    let digits := text.takeWhile Char.isDigit
    (clamp (numberOf 10 digits), text.drop digits.length)

/-- The value of a digit in a base, where bases beyond thirty-six tell capital letters apart. -/
def wideDigit (base : Nat) (c : Char) : Nat :=
  if base ≤ 36 then digitValue c
  else if 'A' ≤ c && c ≤ 'Z' then c.toNat - 'A'.toNat + 36
  else if c = '@' then 62
  else if c = '_' then 63
  else digitValue c

/-- The number of the extended dialect that a text starts with. -/
def readExtendedNumber (text : List Char) : Except String (Int × List Char) :=
  let word := text.takeWhile fun c => c.isAlphanum || c = '#' || c = '@' || c = '_'
  let rest := text.drop word.length
  let based (base : Nat) (digits : List Char) : Except String (Int × List Char) :=
    if digits.any fun c => base ≤ wideDigit base c then
      .error ("value too great for base (error token is \"" ++ String.ofList word ++ "\")")
    else
      let value : Nat := digits.foldl (fun value c => value * base + wideDigit base c) 0
      .ok (wrap (Int.ofNat value), rest)
  match word with
  | '0' :: x :: digits =>
    if x = 'x' || x = 'X' then based 16 digits else based 8 (x :: digits)
  | word =>
    match word.span (· ≠ '#') with
    | (base, _ :: digits) =>
      let base := numberOf 10 base
      if base < 2 || 64 < base then
        .error ("invalid arithmetic base (error token is \"" ++ String.ofList word ++ "\")")
      else based base digits
    | (digits, []) => based 10 digits

/-- The subscript that a text starts with, and the text behind it. -/
def readSubscript (text : List Char) : Option (String × List Char) :=
  let rec go : Nat → List Char → List Char → Option (String × List Char)
    | _, _, [] => none
    | depth, found, c :: rest =>
      if c = '[' then go (depth + 1) (c :: found) rest
      else if c = ']' then
        match depth with
        | 0 => some (String.ofList found.reverse, rest)
        | depth + 1 => go depth (c :: found) rest
      else go depth (c :: found) rest
  match text with
  | '[' :: rest => go 0 [] rest
  | _ => none

/-- The text without blanks in front. -/
def skip (text : List Char) : List Char :=
  text.dropWhile fun c => c = ' ' || c = '\t' || c = '\n'

/-- Whether an operator comes next. Those that change a variable stand in front of one. -/
def starts (text : List Char) (operator : String) : Bool :=
  operator.toList.isPrefixOf text &&
    ((operator ≠ "++" && operator ≠ "--") ||
      (skip (text.drop 2)).head?.any isNameStart)

/-- The lexeme that a text starts with, and the text behind it. -/
def scan (dialect : Dialect) (text : List Char) : Except Fault (Lexeme × List Char) :=
  match text with
  | [] => .ok (.ending, [])
  | c :: _ =>
    if c.isDigit then
      match dialect with
      | .standard =>
        let (value, rest) := readNumber text
        .ok (.number value, rest)
      | .extended =>
        match readExtendedNumber text with
        | .ok (value, rest) => .ok (.number value, rest)
        | .error complaint => .error (.other complaint)
    else if isNameStart c then
      let name := text.takeWhile isNameChar
      let rest := text.drop name.length
      match dialect, readSubscript rest with
      | .extended, some (subscript, rest) =>
        .ok (.name (String.ofList name) (some subscript), rest)
      | _, _ => .ok (.name (String.ofList name) none, rest)
    else
      match (operators dialect).find? (starts text) with
      | some operator => .ok (.operator operator, text.drop operator.length)
      | none => .ok (.unknown, text.drop 1)

/-- Gives the next lexeme. -/
def next (setting : Setting) : Evaluation Lexeme := do
  let state ← get
  let text := skip state.rest
  let (lexeme, rest) ← (scan setting.dialect text : Except Fault (Lexeme × List Char))
  set { state with rest, last := if text.isEmpty then state.last else text }
  return lexeme

/-- The next lexeme, which stays in place. -/
def peek (setting : Setting) : Evaluation Lexeme := do
  let state ← get
  let (lexeme, _) ← (scan setting.dialect (skip state.rest) : Except Fault (Lexeme × List Char))
  return lexeme

/-- Passes an operator if it comes next. -/
def pass? (setting : Setting) (operator : String) : Evaluation Bool := do
  if (← peek setting) = .operator operator then
    let _ ← next setting
    return true
  else return false

/-- Passes an operator that changes the variable in front of it, if it comes next. -/
def passBehind? (operator : String) : Evaluation Bool := do
  let state ← get
  let text := skip state.rest
  if operator.toList.isPrefixOf text then
    set { state with rest := text.drop operator.length, last := text }
    return true
  else return false

/-- A complaint of the extended dialect about the last lexeme. -/
def complain (complaint : String) : Evaluation α := do
  let last := String.ofList (← get).last
  throw (.other (complaint ++ " (error token is \"" ++ last ++ "\")"))

/-- Refuses an expression, with the complaint of the extended dialect. -/
def refuse (setting : Setting) (fault : Fault) (complaint : String) : Evaluation α :=
  match setting.dialect with
  | .standard => throw fault
  | .extended => complain complaint

/-- The integer that the value of a variable is in the standard dialect. -/
def integerOf (text : String) : Except Fault Int :=
  let trimmed := text.toList.dropWhile isSpace
  let (negative, digits) : Bool × List Char :=
    match trimmed with
    | '-' :: rest => (true, rest)
    | '+' :: rest => (false, rest)
    | rest => (false, rest)
  match digits with
  | [] => if trimmed.isEmpty then .ok 0 else .error (.number text)
  | c :: _ =>
    if !c.isDigit then .error (.number text)
    else
      let (value, rest) := readNumber digits
      if !(rest.dropWhile isSpace).isEmpty then .error (.number text)
      else .ok (if negative then -value else value)

/-- The value of a variable. Values of the extended dialect are expressions, which `inner`
evaluates. -/
def fetch (setting : Setting) (inner : String → Except Fault Int) (name : String)
    (subscript : Option String) : Evaluation Int := do
  let written := (← get).writes.find? fun write => write.1 = name && write.2.1 = subscript
  match written with
  | some (_, _, value) => return value
  | none =>
    match setting.value? name subscript, setting.dialect with
    | none, _ => if setting.strict && subscript.isNone then throw (.unset name) else return 0
    | some text, .standard => integerOf text
    | some text, .extended => inner text

/-- Assigns a variable. -/
def assign (name : String) (subscript : Option String) (value : Int) : Evaluation Unit :=
  modify fun state => { state with writes := (name, subscript, value) :: state.writes }

/-- A power, which needs an exponent that is not negative. -/
def power (base : Int) (exponent : Nat) : Int :=
  let rec go : Nat → Int → Nat → Int → Int
    | 0, _, _, result => result
    | fuel + 1, base, exponent, result =>
      if exponent = 0 then result
      else
        go fuel (wrap (base * base)) (exponent / 2)
          (if exponent % 2 = 1 then wrap (result * base) else result)
  go 64 base exponent 1

/-- How expressions within an expression are evaluated. Nothing is assigned or divided in an
expression whose value is not needed. -/
structure Inner where
  expression : (needed : Bool) → Evaluation Int
  operand : (needed : Bool) → Evaluation Int
  value : String → Except Fault Int

/-- Evaluates an operand. -/
def operand (setting : Setting) (inner : Inner) (needed : Bool) : Evaluation Int := do
  match ← next setting with
  | .number value => return value
  | .name name subscript =>
    let value ← (if needed then fetch setting inner.value name subscript else pure 0)
    if setting.dialect = .extended then
      if ← passBehind? "++" then
        if needed then assign name subscript (wrap (value + 1))
      else if ← passBehind? "--" then
        if needed then assign name subscript (wrap (value - 1))
    return value
  | .operator "(" =>
    let value ← inner.expression needed
    if ← pass? setting ")" then return value
    else refuse setting .parenthesis "missing \x60)'"
  | .operator "+" => inner.operand needed
  | .operator "-" => return wrap (-(← inner.operand needed))
  | .operator "!" => return truth ((← inner.operand needed) = 0)
  | .operator "~" => return -(← inner.operand needed) - 1
  | .operator text =>
    if text = "++" || text = "--" then
      match ← next setting with
      | .name name subscript =>
        if !needed then return 0
        let value ← fetch setting inner.value name subscript
        let value := wrap (if text = "++" then value + 1 else value - 1)
        assign name subscript value
        return value
      | _ => complain "syntax error: operand expected"
    else refuse setting .primary "syntax error: operand expected"
  | _ => refuse setting .primary "syntax error: operand expected"

/-- Evaluates an operand and the powers that it is raised to. -/
def powers (setting : Setting) (inner : Inner) (needed : Bool) : Evaluation Int := do
  let base ← operand setting inner needed
  if ← pass? setting "**" then
    let exponent ← inner.operand needed
    if exponent < 0 then complain "exponent less than 0"
    return power base exponent.toNat
  else return base

/-- How many operators an expression may hold. -/
def patience : Nat :=
  0x100000

/-- Evaluates the operators behind a value that bind more tightly than a limit. -/
def operations (setting : Setting) (inner : Inner) (needed : Bool) :
    (fuel : Nat) → (limit : Nat) → Int → Evaluation Int
  | 0, _, value => return value
  | fuel + 1, limit, value => do
    match ← peek setting with
    | .operator operator =>
      match looseness? operator with
      | none => return value
      | some looseness =>
        if limit ≤ looseness then return value
        let _ ← next setting
        let start := skip (← get).rest
        let right ← powers setting inner needed
        let right ← operations setting inner needed fuel looseness right
        if !needed then operations setting inner needed fuel limit value
        else
          match compute operator value right with
          | .ok value => operations setting inner needed fuel limit value
          | .error fault =>
            modify fun state => { state with last := start }
            refuse setting fault "division by 0"
    | _ => return value

/-- Evaluates operands joined by operators of two operands. -/
def binary (setting : Setting) (inner : Inner) (needed : Bool) : Evaluation Int := do
  let value ← powers setting inner needed
  operations setting inner needed patience 8 value

/-- Evaluates operands joined by "and". -/
def conjunction (setting : Setting) (inner : Inner) : (fuel : Nat) → (needed : Bool) →
    Evaluation Int
  | 0, _ => return 0
  | fuel + 1, needed => do
    let left ← binary setting inner needed
    if ← pass? setting "&&" then
      let right ← conjunction setting inner fuel (needed && left ≠ 0)
      return truth (left ≠ 0 && right ≠ 0)
    else return left

/-- Evaluates operands joined by "or". -/
def disjunction (setting : Setting) (inner : Inner) : (fuel : Nat) → (needed : Bool) →
    Evaluation Int
  | 0, _ => return 0
  | fuel + 1, needed => do
    let left ← conjunction setting inner patience needed
    if ← pass? setting "||" then
      let right ← disjunction setting inner fuel (needed && left = 0)
      return truth (left ≠ 0 || right ≠ 0)
    else return left

/-- Evaluates a choice between two values. -/
def choice (setting : Setting) (inner : Inner) : (fuel : Nat) → (needed : Bool) → Evaluation Int
  | 0, _ => return 0
  | fuel + 1, needed => do
    let test ← disjunction setting inner patience needed
    if ← pass? setting "?" then
      let first ← inner.expression (needed && test ≠ 0)
      if !(← pass? setting ":") then
        refuse setting .colon "\x60:' expected for conditional expression"
      let second ← choice setting inner fuel (needed && test = 0)
      return if test ≠ 0 then first else second
    else return test

/-- Evaluates an assignment, or a choice. -/
def assignment (setting : Setting) (inner : Inner) (needed : Bool) : Evaluation Int := do
  let start ← get
  match ← next setting with
  | .name name subscript =>
    match ← next setting with
    | .operator text =>
      match assigning? text with
      | some operator =>
        let right ← inner.expression needed
        if !needed then return right
        let value ← (if operator = "" then pure right
          else do
            let left ← fetch setting inner.value name subscript
            match compute operator left right with
            | .ok value => pure value
            | .error fault => refuse setting fault "division by 0")
        assign name subscript value
        return value
      | none => set start; choice setting inner patience needed
    | _ => set start; choice setting inner patience needed
  | _ =>
    set start
    let value ← choice setting inner patience needed
    match setting.dialect, ← peek setting with
    | .extended, .operator text =>
      if (assigning? text).isSome then
        let _ ← next setting
        complain "attempted assignment to non-variable"
      else return value
    | _, _ => return value

/-- Evaluates an expression. Expressions stand at most `fuel` levels within each other. -/
def expression (setting : Setting) : (fuel : Nat) → (operandOnly : Bool) → (needed : Bool) →
    Evaluation Int
  | 0, _, _ => throw (.other "expression recursion level exceeded")
  | fuel + 1, operandOnly, needed => do
    let value (text : String) : Except Fault Int :=
      let chars := text.toList
      if (skip chars).isEmpty then .ok 0
      else
        match (expression setting fuel false true).run { rest := chars, last := chars } with
        | .ok (value, _) => .ok value
        | .error fault => .error fault
    let inner : Inner :=
      { expression := expression setting fuel false
        operand := expression setting fuel true
        value }
    if operandOnly then operand setting inner needed else assignment setting inner needed

/-- How many levels of expressions stand within each other. -/
def depth : Nat :=
  1000

/-- Evaluates expressions with commas between them up to the end of the text. -/
def expressions (setting : Setting) : (fuel : Nat) → Evaluation Int
  | 0 => return 0
  | fuel + 1 => do
    let value ← expression setting depth false true
    match ← peek setting with
    | .ending => return value
    | .operator "," =>
      let _ ← next setting
      expressions setting fuel
    | _ =>
      let _ ← next setting
      refuse setting .ending "syntax error in expression"

/-- The value of an expression and what it assigns, in order. An empty expression of the extended
dialect is zero. -/
def evaluate (setting : Setting) (text : String) :
    Except Fault (Int × List (String × Option String × Int)) :=
  let chars := text.toList
  if setting.dialect = .extended && (skip chars).isEmpty then .ok (0, [])
  else
    match (expressions setting patience).run { rest := chars, last := chars } with
    | .ok (value, state) => .ok (value, state.writes.reverse)
    | .error fault => .error fault

/-- The wording of a fault in the standard dialect. -/
def Fault.standard (text : String) : Fault → String
  | .primary => "arithmetic expression: expecting primary: \"" ++ text ++ "\""
  | .ending => "arithmetic expression: expecting EOF: \"" ++ text ++ "\""
  | .colon => "arithmetic expression: expecting ':': \"" ++ text ++ "\""
  | .parenthesis => "arithmetic expression: expecting ')': \"" ++ text ++ "\""
  | .zeroDivision => "arithmetic expression: division by zero: \"" ++ text ++ "\""
  | .number text => "Illegal number: " ++ text
  | .unset name => name ++ ": parameter not set"
  | .other complaint => complaint

end ManifestPin.Shell.Arithmetic
