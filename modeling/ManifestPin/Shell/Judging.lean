import ManifestPin.Shell.Regex
import ManifestPin.Shell.Simple
import ManifestPin.Shell.Test

/-! # Judging conditions

Conditions on words that are part of the language: texts are matched with patterns and regular
expressions, and integers are expressions. -/

namespace ManifestPin.Shell.Interpreter

/-- Keeps what the groups of a regular expression matched. -/
def keepGroups (regex : Regex) (text : String) (found : Option (Nat × Match)) : Run Unit :=
  modify fun machine =>
    let chars := text.toList.toArray
    let part (low high : Nat) : String := String.ofList (chars.extract low high).toList
    let entries : List (Nat × String) :=
      match found with
      | none => []
      | some (start, found) =>
        (List.range (regex.groupCount + 1)).map fun index =>
          if index = 0 then (0, part start found.finish)
          else
            match found.groups.lookup index with
            | some (low, high) => (index, part low high)
            | none => (index, "")
    machine.keep { name := "BASH_REMATCH", value := some (.list entries) }

/-- Whether a regular expression matches somewhere in a text. A faulty expression ends the test with
a status. -/
def judgeRegex (text : String) (pattern : Pattern) : Run Bool := do
  let style : RegexStyle :=
    { extended := true, ignoresCase := (← get).isOn "nocasematch", needsOperands := true }
  match Regex.ofPattern style pattern with
  | .error _ =>
    Run.exit 2
    throw (.stop 0)
  | .ok regex =>
    let found := regex.search? text.toList.toArray 0
    keepGroups regex text found
    return found.isSome

/-- Whether a pattern matches a text. -/
def judgePattern (text : String) (pattern : Pattern) : Run Bool := do
  if (← get).isOn "nocasematch" then
    return Pattern.accepts true (pattern.map fun entry => (entry.1.toLower, entry.2))
      (text.map Char.toLower)
  else return Pattern.accepts true pattern text

/-- A pattern as traces show it: with a backslash in front of each character that stands for
itself. -/
def tracedPattern (pattern : Pattern) : String :=
  String.ofList (pattern.flatMap fun (c, isQuoted) => if isQuoted then ['\\', c] else [c])

/-- Whether a condition on two words holds. -/
def judgeTwo (interpreter : Interpreter) (left : List Part) (operator : String)
    (right : List Part) : Run Bool := do
  let first ← interpreter.powers.text .start left
  let traced (second : String) : Run Unit :=
    interpreter.trace ("[[ " ++ tracedWord first ++ " " ++ operator ++ " " ++ second ++ " ]]")
  let matching : Run Bool := do
    let pattern ← interpreter.powers.pattern right
    traced (tracedPattern pattern)
    judgePattern first pattern
  match operator with
  | "=" => matching
  | "==" => matching
  | "!=" => return !(← matching)
  | "=~" =>
    let pattern ← interpreter.powers.pattern right
    traced (String.ofList (pattern.map (·.1)))
    judgeRegex first pattern
  | operator =>
    let second ← interpreter.powers.text .start right
    traced second
    match Test.comparison? operator with
    | some compare =>
      let low ← Run.evaluate (some "[[") first
      let high ← Run.evaluate (some "[[") second
      return compare low high
    | none => return (Test.two (← get) first operator second).toOption.getD false

/-- Whether a condition holds. -/
def judge (interpreter : Interpreter) : Condition → Run Bool
  | .one operator operand => do
    let text ← interpreter.powers.text .start operand
    interpreter.trace ("[[ " ++ operator ++ " " ++ tracedWord text ++ " ]]")
    return (Test.one (← get) operator text).toOption.getD false
  | .two left operator right => interpreter.judgeTwo left operator right
  | .negated inner => do return !(← interpreter.judge inner)
  | .both first second => do
    if ← interpreter.judge first then interpreter.judge second else return false
  | .either first second => do
    if ← interpreter.judge first then return true else interpreter.judge second

/-- Runs a condition as a command. -/
def runJudgement (interpreter : Interpreter) (condition : Condition) : Run Unit := do
  match ← Run.attempt (interpreter.judge condition) with
  | .ok holds => Run.exit (if holds then 0 else 1)
  | .error (.stop 0) => return ()
  | .error stop => throw stop

end ManifestPin.Shell.Interpreter
