import ManifestPin.Shell.Regex

/-! # Editing commands

A script of editing commands is run on every line of an input. A command acts on the lines that its
selection tells, and branches go to labels of the script. -/

namespace ManifestPin.Shell.Editing

/-- What tells a line. An expression that is left out is the one that was used last. -/
inductive Address where
  | line (number : Nat)
  /-- A line, and each that a number of lines follow on from it. -/
  | step (first step : Nat)
  | last
  | holding (regex : Option Regex)

/-- What tells the end of a range. -/
inductive Bound where
  | line (number : Nat)
  | last
  | holding (regex : Option Regex)
  /-- So many lines more. -/
  | more (count : Nat)
  /-- The next line whose number is a multiple. -/
  | multiple (number : Nat)

/-- The lines that a command acts on. -/
inductive Selection where
  | every
  | one (address : Address)
  | range (first : Address) (bound : Bound)

/-- How the letters of a replacement change. -/
inductive LetterCase where
  | kept
  | small
  | capital
  deriving DecidableEq

/-- What a replacement is made of. -/
inductive Piece where
  | text (text : String)
  /-- What a group matches. The whole match is group zero. -/
  | group (index : Nat)
  /-- The case of all letters from here on. -/
  | letters (letterCase : LetterCase)
  /-- The case of the next letter. -/
  | letter (letterCase : LetterCase)

/-- Replaces matches of an expression. -/
structure Substitution where
  regex : Option Regex
  replacement : List Piece
  /-- The number of the first match that is replaced. -/
  first : Nat := 1
  /-- Whether the matches behind it are replaced too. -/
  all : Bool := false
  prints : Bool := false
  file : Option String := none

/-- When a branch is taken. -/
inductive Condition where
  | always
  | replaced
  | unreplaced
  deriving DecidableEq

/-- What a command does with a line. -/
inductive Edit where
  | enter
  | leave
  | label (name : String)
  /-- Goes on at a label, or at the end of the script if the name is empty. -/
  | branch (condition : Condition) (name : String)
  | substitute (substitution : Substitution)
  | translate (table : List (Char × Char))
  | append (text : String)
  | insert (text : String)
  | change (text : String)
  | delete
  | deleteFirst
  | print
  | printFirst
  | next
  | join
  | recall
  | recallMore
  | keep
  | keepMore
  | exchange
  | clear
  | number
  /-- Writes the line in a form that can be seen, in pieces of a width. -/
  | display (width : Option Nat)
  | quit (printing : Bool) (status : Nat)
  | readFile (path : String)
  | writeFile (path : String)
  | writeFirst (path : String)
  | nothing

/-- A command of a script. -/
structure Command where
  selection : Selection
  negated : Bool
  edit : Edit

/-- A script. -/
structure Script where
  commands : Array Command
  /-- Whether lines are written only by commands. -/
  quiet : Bool
  /-- The character that ends lines. -/
  delimiter : Char
  /-- The usual width of lines that are displayed. -/
  width : Nat

namespace Script

/-- The index behind the end of the block that starts in front of an index. -/
def behindBlock (script : Script) (index : Nat) : Nat :=
  let rec go : (depth : Nat) → (index : Nat) → List Command → Nat
    | _, index, [] => index
    | depth, index, command :: rest =>
      match command.edit, depth with
      | .enter, depth => go (depth + 1) (index + 1) rest
      | .leave, 0 => index + 1
      | .leave, depth + 1 => go depth (index + 1) rest
      | _, depth => go depth (index + 1) rest
  go 0 index (script.commands.toList.drop index)

/-- The index of a label. -/
def labelled? (script : Script) (name : String) : Option Nat :=
  script.commands.toList.findIdx? fun command =>
    match command.edit with
    | .label other => other = name
    | _ => false

/-- The files that a script writes. -/
def files (script : Script) : List String :=
  (script.commands.toList.filterMap fun command =>
    match command.edit with
    | .writeFile path => some path
    | .writeFirst path => some path
    | .substitute substitution => substitution.file
    | _ => none).eraseDups

/-- A label that a branch goes to and that there is not. -/
def missingLabel? (script : Script) : Option String :=
  script.commands.toList.findSome? fun command =>
    match command.edit with
    | .branch _ name =>
      if name = "" || (script.labelled? name).isSome then none else some name
    | _ => none

end Script

end ManifestPin.Shell.Editing
