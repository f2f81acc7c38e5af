import ManifestPin.Shell.Machine

/-! # Tests

Conditions on texts, integers and files, given as words. -/

namespace ManifestPin.Shell.Test

/-- The entry that a path leads to, all links followed. -/
def followed? (machine : Machine) (path : String) : Option Entry :=
  (machine.tree.entry (gather path)).toOption

/-- The entry at the end of a path, be it a link. -/
def unfollowed? (machine : Machine) (path : String) : Option Entry :=
  match machine.tree.slot? (gather path) with
  | .ok (some slot) => machine.tree.get? slot.location
  | .ok none => followed? machine path
  | .error _ => none

/-- Whether an entry is a device. -/
def isDevice : Entry → Bool
  | .sink => true
  | _ => false

/-- Whether an entry is a link. -/
def isLink : Entry → Bool
  | .link _ => true
  | _ => false

/-- Whether a condition on the entry that a path leads to holds. -/
def onFile (machine : Machine) (letter : Char) (path : String) : Bool :=
  let entry := followed? machine path
  let bit (mask : Nat) : Bool := entry.any fun entry => entry.mode &&& mask ≠ 0
  match letter with
  | 'e' => entry.isSome
  | 'a' => entry.isSome
  | 'f' => entry.any Entry.isFile
  | 'd' => entry.any Entry.isDirectory
  | 'c' => entry.any isDevice
  | 'r' => entry.isSome
  | 'w' => entry.isSome
  | 'x' => entry.any fun entry => entry.isDirectory || entry.mode &&& 0o111 ≠ 0
  | 's' =>
    entry.any fun entry =>
      match entry with
      | .file content _ => content.size ≠ 0
      | entry => entry.isDirectory
  | 'h' => (unfollowed? machine path).any isLink
  | 'L' => (unfollowed? machine path).any isLink
  | 'O' => entry.isSome
  | 'G' => entry.isSome
  | 'N' => entry.isSome
  | 'u' => bit 0o4000
  | 'g' => bit 0o2000
  | 'k' => bit 0o1000
  | _ => false

/-- Whether a condition on two files holds. -/
def onFiles (machine : Machine) (left operator right : String) : Bool :=
  let location (path : String) : Option Location :=
    (machine.tree.resolve (gather path)).toOption
  match operator with
  | "-ef" =>
    (location left).any fun first => (location right).any fun second =>
      machine.tree.shares first second
  | "-nt" => machine.dialect = .extended && (location left).isSome && (location right).isNone
  | "-ot" => machine.dialect = .extended && (location left).isNone && (location right).isSome
  | _ => false

/-- The integer of a text in base ten, with blanks around it. -/
def integer? (text : String) : Option Int :=
  let chars := text.toList.dropWhile isSpace
  let (negative, digits) : Bool × List Char :=
    match chars with
    | '-' :: rest => (true, rest)
    | '+' :: rest => (false, rest)
    | rest => (false, rest)
  let number := digits.takeWhile Char.isDigit
  let rest := (digits.drop number.length).dropWhile isSpace
  let value := numberOf 10 number
  let limit : Nat := if negative then 0x8000000000000000 else 0x7fffffffffffffff
  if number.isEmpty || !rest.isEmpty || limit < value then none
  else some (if negative then -(value : Int) else value)

/-- How two integers compare. -/
def comparison? (operator : String) : Option (Int → Int → Bool) :=
  match operator with
  | "-eq" => some fun a b => a = b
  | "-ne" => some fun a b => a ≠ b
  | "-lt" => some fun a b => a < b
  | "-le" => some fun a b => a ≤ b
  | "-gt" => some fun a b => a > b
  | "-ge" => some fun a b => a ≥ b
  | _ => none

/-- How two texts compare. -/
def textComparison? (operator : String) : Option (String → String → Bool) :=
  match operator with
  | "=" => some fun a b => a = b
  | "!=" => some fun a b => a ≠ b
  | "<" => some fun a b => a < b
  | ">" => some fun a b => b < a
  | _ => none

/-- Whether a word is an operator of one operand. -/
def isUnary (dialect : Dialect) (word : String) : Bool :=
  match word.toList with
  | ['-', letter] =>
    match dialect with
    | .standard => "rwxefdcbpugkstznhOGLS".toList.contains letter
    | .extended => "rwxefdcbpugkstznhOGLSaNov".toList.contains letter
  | _ => false

/-- Whether a word is an operator of two operands. -/
def isBinary (dialect : Dialect) (word : String) : Bool :=
  (comparison? word).isSome || (textComparison? word).isSome ||
    ["-nt", "-ot", "-ef"].contains word || (dialect = .extended && word = "==")

/-- The complaint about a text that is no integer. -/
def notInteger (dialect : Dialect) (text : String) : String :=
  match dialect with
  | .standard => "Illegal number: " ++ text
  | .extended => text ++ ": integer expression expected"

/-- Whether a condition on one operand holds, or a complaint. -/
def one (machine : Machine) (operator operand : String) : Except String Bool :=
  match operator.toList with
  | ['-', 'n'] => .ok (operand ≠ "")
  | ['-', 'z'] => .ok (operand = "")
  | ['-', 't'] =>
    if machine.dialect = .standard && (integer? operand).isNone then
      .error (notInteger .standard operand)
    else .ok false
  | ['-', 'o'] => .ok (machine.isOn operand)
  | ['-', 'v'] =>
    .ok ((machine.held? operand).any fun held => held.value.isSome)
  | ['-', letter] => .ok (onFile machine letter operand)
  | _ => .ok false

/-- Whether a condition on two operands holds, or a complaint. -/
def two (machine : Machine) (left operator right : String) : Except String Bool :=
  match comparison? operator with
  | some compare =>
    match integer? left, integer? right with
    | some a, some b => .ok (compare a b)
    | none, _ => .error (notInteger machine.dialect left)
    | _, none => .error (notInteger machine.dialect right)
  | none =>
    match textComparison? operator with
    | some compare => .ok (compare left right)
    | none =>
      if operator = "==" then .ok (left = right) else .ok (onFiles machine left operator right)

/-! ## Reading conditions -/

/-- What a word is to a condition. -/
inductive Kind where
  | ending
  | operand
  | unary
  | not
  | both
  | either
  | opening
  deriving DecidableEq

/-- Whether the word at the front is an operand although it looks like an operator. -/
def isOperand (dialect : Dialect) : List String → Bool
  | [_] => true
  | [_, _] => false
  | _ :: next :: _ => isBinary dialect next
  | [] => true

/-- What the word at the front is to a condition. -/
def kindOf (dialect : Dialect) (words : List String) : Kind :=
  match words with
  | [] => .ending
  | word :: rest =>
    if isUnary dialect word then (if isOperand dialect words then .operand else .unary)
    else
      match word with
      | "!" => .not
      | "-a" => .both
      | "-o" => .either
      | "(" => if rest.isEmpty then .operand else .opening
      | _ => .operand

/-- Whether conditions are joined by the word at the front, as a kind and as a text. -/
def joins (dialect : Dialect) (kind : Kind) (operator : String) (words : List String) : Bool :=
  match dialect with
  | .standard => kindOf .standard words = kind
  | .extended => words.head? = some operator

/-- A step of reading: the words are left from the last one that was read on. -/
abbrev Judge := StateT (List String) (Except String)

/-- Passes a number of words. -/
def advance (count : Nat) : Judge Unit :=
  modify (·.drop count)

/-- Judges a condition without operators between conditions. -/
def primary (machine : Machine) (inner : Judge Bool) (kind : Kind) : Judge Bool := do
  let words ← get
  match kind, words with
  | .ending, _ =>
    if machine.dialect = .extended then throw "argument expected" else return false
  | .opening, _ =>
    advance 1
    if (← get).head? = some ")" then return false
    let result ← inner
    advance 1
    match machine.dialect, (← get).head? with
    | _, some ")" => return result
    | .standard, _ => throw "closing paren expected"
    | .extended, some word => throw ("\x60)' expected, found " ++ word)
    | .extended, none => throw "\x60)' expected"
  | .unary, operator :: operands =>
    match operands with
    | [] => throw (operator ++ ": argument expected")
    | operand :: _ =>
      advance 1
      (one machine operator operand : Except String Bool)
  | _, left :: operator :: operands =>
    if isBinary machine.dialect operator then
      match operands with
      | [] => throw (operator ++ ": argument expected")
      | right :: _ =>
        advance 2
        (two machine left operator right : Except String Bool)
    else return left ≠ ""
  | _, word :: _ => return word ≠ ""
  | _, [] => return false

/-- Judges a condition that may be negated. -/
def negation (machine : Machine) (inner : Judge Bool) : (fuel : Nat) → Kind → Judge Bool
  | 0, _ => return false
  | fuel + 1, kind => do
    if kind ≠ .not then primary machine inner kind
    else
      let next := kindOf machine.dialect ((← get).drop 1)
      if next ≠ .ending then advance 1
      return !(← negation machine inner fuel next)

/-- Judges conditions that all have to hold. -/
def conjunction (machine : Machine) (inner : Judge Bool) : (fuel : Nat) → Kind → Judge Bool
  | 0, _ => return false
  | fuel + 1, kind => do
    let first ← negation machine inner (fuel + 1) kind
    if joins machine.dialect .both "-a" ((← get).drop 1) then
      advance 2
      let rest ← conjunction machine inner fuel (kindOf machine.dialect (← get))
      return first && rest
    else return first

/-- Judges conditions of which one has to hold. -/
def disjunction (machine : Machine) (inner : Judge Bool) : (fuel : Nat) → Kind → Judge Bool
  | 0, _ => return false
  | fuel + 1, kind => do
    let first ← conjunction machine inner (fuel + 1) kind
    if joins machine.dialect .either "-o" ((← get).drop 1) then
      advance 2
      let rest ← disjunction machine inner fuel (kindOf machine.dialect (← get))
      return first || rest
    else return first

/-- Judges a condition. Parentheses stand at most `fuel` levels within each other. -/
def condition (machine : Machine) (length : Nat) : (fuel : Nat) → Judge Bool
  | 0 => return false
  | fuel + 1 => do
    disjunction machine (condition machine length fuel) length (kindOf machine.dialect (← get))

/-- Judges words of any number. -/
def judgeAll (machine : Machine) (words : List String) (excess : (last next : String) → String) :
    Except String Bool := do
  let length := words.length + 1
  let (result, left) ← (condition machine length length).run words
  match left with
  | last :: next :: _ => throw (excess last next)
  | _ => return result

/-- Judges words by the rules of the standard dialect. -/
def judgeStandard (machine : Machine) : (fuel : Nat) → List String → Except String Bool
  | 0, _ => .ok false
  | fuel + 1, words =>
    let all (words : List String) : Except String Bool :=
      judgeAll machine words fun last _ => last ++ ": unexpected operator"
    match words with
    | [] => .ok false
    | [left, operator, right] =>
      if isBinary .standard operator then two machine left operator right
      else if left = "(" && right = ")" then all [operator]
      else if left = "!" then (judgeStandard machine fuel [operator, right]).map (!·)
      else all words
    | [first, second, third, fourth] =>
      if first = "(" && fourth = ")" then all [second, third]
      else if first = "!" then
        (judgeStandard machine fuel [second, third, fourth]).map (!·)
      else all words
    | words => all words

/-- Judges words by the rules of the extended dialect, which go by their number. -/
def judgeExtended (machine : Machine) : (fuel : Nat) → List String → Except String Bool
  | 0, _ => .ok false
  | fuel + 1, words =>
    match words with
    | [] => .ok false
    | [word] => .ok (word ≠ "")
    | ["!", word] => .ok (word = "")
    | [operator, operand] =>
      if isUnary .extended operator then one machine operator operand
      else .error (operator ++ ": unary operator expected")
    | [left, operator, right] =>
      if isBinary .extended operator then two machine left operator right
      else if operator = "-a" then .ok (left ≠ "" && right ≠ "")
      else if operator = "-o" then .ok (left ≠ "" || right ≠ "")
      else if left = "!" then (judgeExtended machine fuel [operator, right]).map (!·)
      else if left = "(" && right = ")" then .ok (operator ≠ "")
      else .error (operator ++ ": binary operator expected")
    | ["!", second, third, fourth] =>
      (judgeExtended machine fuel [second, third, fourth]).map (!·)
    | ["(", second, third, ")"] => judgeExtended machine fuel [second, third]
    | words =>
      judgeAll machine words fun _ word =>
        if word.startsWith "-" then "syntax error: \x60" ++ word ++ "' unexpected"
        else "too many arguments"

/-- Judges words. -/
def judge (machine : Machine) (words : List String) : Except String Bool :=
  match machine.dialect with
  | .standard => judgeStandard machine (words.length + 1) words
  | .extended => judgeExtended machine (words.length + 1) words

/-- Judges words that are followed by a closing bracket. -/
def judgeBracketed (machine : Machine) (words : List String) : Except String Bool :=
  match words.reverse with
  | "]" :: inner => judge machine inner.reverse
  | _ => .error (if machine.dialect = .standard then "missing ]" else "missing \x60]'")

end ManifestPin.Shell.Test
