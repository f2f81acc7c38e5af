import ManifestPin.Shell.Octets

/-! # Shell scripts

The commands of a shell script, and the words that they are made of, as read but not yet
expanded. -/

namespace ManifestPin.Shell

/-- The language that a shell reads: the standard one, or the one with lists and conditions. -/
inductive Dialect where
  | standard
  | extended
  deriving DecidableEq, Repr

/-- What stands in for a parameter that is not set. -/
inductive Fallback where
  /-- A word. -/
  | value
  /-- A word, which the parameter is set to. -/
  | assign
  /-- A word if the parameter is set, else nothing. -/
  | alternative
  /-- An error. -/
  | required
  deriving DecidableEq, Repr

/-- Where a pattern that is replaced may match. -/
inductive Scope where
  | first
  | everywhere
  | atStart
  | atEnd
  deriving DecidableEq, Repr

/-- How a redirection opens a file. -/
inductive OpenMode where
  | read
  | write
  /-- Writes also over a file that is there, where that is refused otherwise. -/
  | clobber
  | append
  | readWrite
  deriving DecidableEq, Repr

/-- What a branch of a choice goes on with. -/
inductive BranchEnd where
  | leave
  /-- The commands of the next branch. -/
  | fall
  /-- The patterns of the next branch. -/
  | retry
  deriving DecidableEq, Repr

mutual

/-- A part of a word. Quoted parts are neither split nor taken as patterns. -/
inductive Part where
  | literal (quoted : Bool) (text : String)
  /-- Quotation marks, which make an empty word a word. -/
  | mark
  | parameter (quoted : Bool) (name : String) (place : Place) (rule : ParameterRule)
  | arithmetic (quoted : Bool) (parts : List Part)
  | substitution (quoted : Bool) (body : Command)
  /-- The path of a pipe that holds what commands write, or whose content commands read. -/
  | channel (reads : Bool) (body : Command)

/-- Which elements of a parameter are meant. -/
inductive Place where
  | whole
  /-- All elements, joined to one text or each on its own. -/
  | all (joined : Bool)
  | element (subscript : List Part)

/-- What a word takes from a parameter. -/
inductive ParameterRule where
  | value
  | length
  /-- The value, or what stands in for it when it is not set or, if `emptyToo`, empty. -/
  | orElse (fallback : Fallback) (emptyToo : Bool) (word : List Part)
  /-- The value without a part at its start or end that matches a pattern. -/
  | without (atEnd longest : Bool) (pattern : List Part)
  | slice (offset : List Part) (count : Option (List Part))
  | replaced (scope : Scope) (pattern replacement : List Part)
  /-- The value in capital or small letters: the first one that matches, or all. -/
  | cased (upper everywhere : Bool) (pattern : List Part)
  /-- The value in another form, which a letter names. -/
  | formed (form : Char)
  /-- The value of the parameter whose name the value is. -/
  | indirect (rule : ParameterRule)
  /-- The subscripts that are in use. -/
  | subscripts
  /-- The names of the variables whose names start with this one. -/
  | sameStart (joined : Bool)
  /-- Anything else, which is an error as soon as it is expanded. -/
  | broken (text : String)

/-- A variable and what it is set to. -/
inductive Assignment where
  | word (name : String) (place : Option (List Part)) (append : Bool) (value : List Part)
  /-- A list, whose values are also kept as they are written, up to the closing parenthesis. -/
  | list (name written : String) (append : Bool) (values : List (Option (List Part) × List Part))

/-- A change of descriptors around a command. -/
inductive Redirection where
  | file (descriptor : Nat) (mode : OpenMode) (target : List Part)
  | copy (descriptor : Nat) (writes : Bool) (target : List Part)
  /-- The descriptor reads a text of the script itself, which is kept by its number. -/
  | document (descriptor : Nat) (index : Nat)
  /-- The descriptor reads a word. -/
  | word (descriptor : Nat) (content : List Part)

/-- A condition on words. -/
inductive Condition where
  | one (operator : String) (operand : List Part)
  | two (left : List Part) (operator : String) (right : List Part)
  | negated (inner : Condition)
  | both (first second : Condition)
  | either (first second : Condition)

/-- A command. -/
inductive Command where
  | simple (line : Nat) (assignments : List Assignment) (words : List (List Part))
      (redirections : List Redirection)
  | redirected (line : Nat) (body : Command) (redirections : List Redirection)
  | pipeline (stages : List Command)
  | negated (body : Command)
  | both (first second : Command)
  | either (first second : Command)
  | sequence (commands : List Command)
  | background (body : Command)
  | subshell (line : Nat) (body : Command)
  | conditional (test body : Command) (otherwise : Option Command)
  /-- Runs the body while the test comes out as `wanted`. -/
  | loop (wanted : Bool) (test body : Command)
  /-- Runs the body for each word, or for each positional parameter. The words are also kept as they
  are written. -/
  | each (line : Nat) (name written : String) (words : Option (List (List Part))) (body : Command)
  /-- Runs the body while the second of three expressions is not zero. -/
  | counted (line : Nat) (start test step : List Part) (body : Command)
  /-- Runs the branch whose pattern matches a word, which is also kept as it is written. -/
  | choice (line : Nat) (written : String) (word : List Part)
      (branches : List (List (List Part) × Command × BranchEnd))
  | define (line : Nat) (name : String) (body : Command)
  | judge (line : Nat) (condition : Condition)
  | compute (line : Nat) (expression : List Part)

end

/-- The command that does nothing. -/
def Command.skip : Command :=
  .sequence []

/-- Commands one after the other. -/
def Command.ofList : List Command → Command
  | [only] => only
  | commands => .sequence commands

/-- Whether a command does nothing. -/
def Command.isSkip : Command → Bool
  | .sequence [] => true
  | _ => false

namespace Part

/-- The text of parts as far as it is written out. -/
def literalText (parts : List Part) : String :=
  String.join (parts.map fun part =>
    match part with
    | .literal _ text => text
    | _ => "")

/-- The text of a word that holds nothing but unquoted text. -/
def plain? : List Part → Option String
  | [] => some ""
  | .literal false text :: rest => (plain? rest).map (text ++ ·)
  | _ => none

/-- Whether any part is quoted. -/
def anyQuoted (parts : List Part) : Bool :=
  parts.any fun part =>
    match part with
    | .literal quoted _ => quoted
    | .mark => true
    | _ => false

/-- The parts with a literal text behind, joined with one that ends them. The parts are kept in
reverse. -/
def addLiteral (quoted : Bool) (text : String) : List Part → List Part
  | .literal same before :: rest =>
    if same = quoted then .literal quoted (before ++ text) :: rest
    else .literal quoted text :: .literal same before :: rest
  | parts => .literal quoted text :: parts

end Part

/-- A part of a word as it was written, as far as messages need it. -/
def Part.written : Part → String
  | .literal _ text => text
  | .parameter _ name .whole .value => "$" ++ name
  | .parameter _ name _ _ => "$\x7b" ++ name ++ "\x7d"
  | .substitution .. => "$(...)"
  | _ => ""

end ManifestPin.Shell
