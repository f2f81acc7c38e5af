import ManifestPin.Shell.Regex
import ManifestPin.Shell.Test
import ManifestPin.Shell.Utility.Basic

/-! # Expressions as arguments

The value of an expression whose operands and operators are words, and conditions that are told by
the status alone. -/

namespace ManifestPin.Shell.Utility

/-! ## Values -/

namespace Expression

/-- Whether a text is a decimal integer. -/
def isInteger (text : String) : Bool :=
  match text.toList with
  | '-' :: digits => !digits.isEmpty && digits.all Char.isDigit
  | digits => !digits.isEmpty && digits.all Char.isDigit

/-- The integer of a text, or a complaint. -/
def integer (text : String) : Except String Int :=
  match text.toList with
  | '-' :: digits =>
    if isInteger text then .ok (-(numberOf 10 digits : Int)) else .error "non-integer argument"
  | digits =>
    if isInteger text then .ok (numberOf 10 digits) else .error "non-integer argument"

/-- Whether a value counts as false: nothing, or a zero. -/
def isNull (text : String) : Bool :=
  match text.toList with
  | [] => true
  | '-' :: digits => !digits.isEmpty && digits.all (· = '0')
  | digits => digits.all (· = '0')

/-- The value of a truth. -/
def ofBool (truth : Bool) : String :=
  if truth then "1" else "0"

/-- How values compare: as integers if both are, else as texts. -/
def comparison? (operator : String) : Option (String → String → Bool) :=
  let compared (test : Ordering → Bool) (left right : String) : Bool :=
    match integer left, integer right with
    | .ok a, .ok b => test (compare a b)
    | _, _ => test (compare left right)
  match operator with
  | "<" => some (compared Ordering.isLT)
  | "<=" => some (compared Ordering.isLE)
  | "=" => some (compared Ordering.isEq)
  | "==" => some (compared Ordering.isEq)
  | "!=" => some (compared Ordering.isNe)
  | ">=" => some (compared Ordering.isGE)
  | ">" => some (compared Ordering.isGT)
  | _ => none

/-- How a text matches an expression from its start on: what the first group matches, or how long
the match is. -/
def matched (text pattern : String) : Except String String := do
  let style : RegexStyle := { extended := false, ignoresCase := false }
  let regex ← Regex.ofText style pattern
  let chars := text.toList.toArray
  let found := regex.matchAt? chars 0
  if 0 < regex.groupCount then
    match found.bind fun found => found.groups.lookup 1 with
    | some (low, high) => return String.ofList (chars.extract low high).toList
    | none => return ""
  else return toString ((found.map Match.finish).getD 0)

/-- The part of a text from a place on, counted from one, with a number of characters. -/
def part (text place count : String) : String :=
  match integer place, integer count with
  | .ok place, .ok count =>
    if place ≤ 0 || count ≤ 0 then ""
    else String.ofList ((text.toList.drop (place.toNat - 1)).take count.toNat)
  | _, _ => ""

/-- The place of the first character of a text that is one of some, counted from one. -/
def place (text wanted : String) : Nat :=
  match text.toList.findIdx? wanted.toList.contains with
  | some index => index + 1
  | none => 0

/-! ## Reading -/

/-- A step of reading: the words that are left, behind the last one that was read. -/
abbrev Reckon := StateT (String × List String) (Except String)

/-- Takes the next word, which has to be there. -/
def next : Reckon String := do
  let (last, words) ← get
  match words with
  | word :: words =>
    set (word, words)
    return word
  | [] => throw ("syntax error: missing argument after " ++ quote last)

/-- Takes the next word if it is one of some. -/
def nextOf? (operators : List String) : Reckon (Option String) := do
  let (_, words) ← get
  match words with
  | word :: words =>
    if operators.contains word then
      set (word, words)
      return some word
    else return none
  | [] => return none

/-- A value that is not needed when it is not evaluated. -/
def lazily (evaluated : Bool) (value : Except String String) : Reckon String :=
  if evaluated then (value : Except String String) else return ""

/-- Operators of one rank: a first operand, and operators with further ones. -/
def chain (operators : List String) (operand : Bool → Reckon String)
    (apply : String → String → String → Except String String) (evaluated : Bool) :
    (fuel : Nat) → String → Reckon String
  | 0, left => return left
  | fuel + 1, left => do
    match ← nextOf? operators with
    | none => return left
    | some operator =>
      let right ← operand evaluated
      chain operators operand apply evaluated fuel (← lazily evaluated (apply operator left right))

/-- The value of two operands of an arithmetic operator. -/
def compute (operator left right : String) : Except String String := do
  let a ← integer left
  let b ← integer right
  match operator with
  | "+" => return toString (a + b)
  | "-" => return toString (a - b)
  | "*" => return toString (a * b)
  | "/" => if b = 0 then throw "division by zero" else return toString (a.tdiv b)
  | _ => if b = 0 then throw "division by zero" else return toString (a.tmod b)

/-- The value of an expression within words of a number, at most `fuel` levels deep. -/
def value (length : Nat) : (fuel : Nat) → Bool → Reckon String
  | 0, _ => throw "syntax error"
  | fuel + 1, evaluated => do
    let plain : Reckon String := do
      match ← nextOf? ["("] with
      | none =>
        if (← get).2.head? = some ")" then throw "syntax error: unexpected ')'"
        next
      | some _ =>
        let inner ← value length fuel evaluated
        match (← get).2 with
        | ")" :: rest =>
          set (")", rest)
          return inner
        | word :: _ => throw ("syntax error: expecting ')' instead of " ++ quote word)
        | [] => throw ("syntax error: expecting ')' after " ++ quote (← get).1)
    let rec worded : Nat → Reckon String
      | 0 => plain
      | depth + 1 => do
        match ← nextOf? ["+", "length", "match", "index", "substr"] with
        | some "+" => next
        | some "length" => return toString (← worded depth).length
        | some "match" => do
          let text ← worded depth
          let pattern ← worded depth
          lazily evaluated (matched text pattern)
        | some "index" => do
          let text ← worded depth
          return toString (place text (← worded depth))
        | some _ => do
          let text ← worded depth
          let first ← worded depth
          return part text first (← worded depth)
        | none => plain
    let operand (_ : Bool) : Reckon String := worded length
    let ranked (operators : List String) (inner : Bool → Reckon String)
        (apply : String → String → String → Except String String) (evaluated : Bool) :
        Reckon String := do
      chain operators inner apply evaluated length (← inner evaluated)
    let matching := ranked [":"] operand fun _ left right => matched left right
    let product := ranked ["*", "/", "%"] matching compute
    let sum := ranked ["+", "-"] product compute
    let compared := ranked ["<", "<=", "=", "==", "!=", ">=", ">"] sum fun operator left right =>
      .ok (ofBool ((comparison? operator).any fun test => test left right))
    let rec conjunction : Nat → Bool → String → Reckon String
      | 0, _, left => return left
      | steps + 1, evaluated, left => do
        match ← nextOf? ["&"] with
        | none => return left
        | some _ =>
          let right ← compared (evaluated && !isNull left)
          conjunction steps evaluated (if isNull left || isNull right then "0" else left)
    let rec disjunction : Nat → String → Reckon String
      | 0, left => return left
      | steps + 1, left => do
        match ← nextOf? ["|"] with
        | none => return left
        | some _ =>
          let needed := evaluated && isNull left
          let right ← conjunction length needed (← compared needed)
          disjunction steps (if !isNull left then left else if isNull right then "0" else right)
    disjunction length (← conjunction length evaluated (← compared evaluated))

end Expression

/-- Writes the value of an expression. The status tells whether it counts as false. -/
def expr : Utility := fun arguments => do
  match if arguments.head? = some "--" then arguments.tail else arguments with
  | [] => refuseUsage "missing operand" 2
  | words =>
    let length := words.length + 1
    let refuse (complaint : String) : Task Nat := do
      report complaint
      return 2
    match (Expression.value length length true).run ("", words) with
    | .error complaint => refuse complaint
    | .ok (value, _, word :: _) =>
      if value = "" && word = "" then refuse "syntax error"
      else refuse ("syntax error: unexpected argument " ++ quote word)
    | .ok (value, _, []) =>
      Task.print (value ++ "\n")
      return if Expression.isNull value then 1 else 0

/-! ## Conditions -/

/-- What a program says about a condition that it cannot judge. -/
def judged (result : Except String Bool) : Task Nat := do
  match result with
  | .ok holds => return if holds then 0 else 1
  | .error complaint =>
    report complaint
    return 2

/-- Tells whether a condition holds. -/
def test : Utility := fun words => do
  judged (Test.judge { ← get with dialect := .extended } words)

/-- Tells whether a condition between brackets holds. -/
def bracket : Utility := fun words => do
  let machine ← get
  if words.getLast? = some "]" then
    judged (Test.judge { machine with dialect := .extended } words.dropLast)
  else judged (.error "missing ']'")

end ManifestPin.Shell.Utility
