import ManifestPin.Shell.Script

/-! # Alternatives in braces

In the extended dialect a word with alternatives in braces stands for several words, one for each
alternative. Integers and letters may be given by the first and the last one. -/

namespace ManifestPin.Shell.Braces

/-- A character that is not quoted, or any other part of a word. -/
inductive Atom where
  | char (c : Char)
  | part (part : Part)

/-- The atoms of parts. -/
def atomsOf (parts : List Part) : List Atom :=
  parts.flatMap fun part =>
    match part with
    | .literal false text => text.toList.map Atom.char
    | part => [.part part]

/-- The parts of atoms. -/
def partsOf (atoms : List Atom) : List Part :=
  atoms.foldr
    (fun atom parts =>
      match atom, parts with
      | .char c, .literal false text :: rest =>
        .literal false (String.singleton c ++ text) :: rest
      | .char c, parts => .literal false (String.singleton c) :: parts
      | .part part, parts => part :: parts)
    []

/-- The alternatives behind an opening brace, and what is behind the closing one. -/
def alternatives : (depth : Nat) → List Atom → Option (List (List Atom) × List Atom)
  | _, [] => none
  | depth, atom :: rest =>
    let extend (found : List (List Atom) × List Atom) : List (List Atom) × List Atom :=
      match found with
      | (first :: more, rest) => ((atom :: first) :: more, rest)
      | ([], rest) => ([[atom]], rest)
    match atom, depth with
    | .char '{', depth => (alternatives (depth + 1) rest).map extend
    | .char '}', depth + 1 => (alternatives depth rest).map extend
    | .char '}', 0 => some ([[]], rest)
    | .char ',', 0 => (alternatives 0 rest).map fun (pieces, rest) => ([] :: pieces, rest)
    | _, depth => (alternatives depth rest).map extend

/-- The integer of a text, and how many digits it is written with if it starts with a zero. -/
def bound? (text : String) : Option (Int × Nat) :=
  text.toInt?.map fun value =>
    let digits := text.toList.filter Char.isDigit
    (value, if 1 < digits.length && digits.head? = some '0' then text.length else 0)

/-- An integer filled up with zeros to a width. -/
def shownInteger (width : Nat) (value : Int) : String :=
  let digits := toString value.natAbs
  if value < 0 then "-" ++ padStart (width - 1) '0' digits else padStart width '0' digits

/-- The values from a first to a last one. -/
def stepped (first last : Int) (step : Nat) : List Int :=
  let step := max step 1
  (List.range ((last - first).natAbs / step + 1)).map fun index =>
    if first ≤ last then first + (index * step : Nat) else first - (index * step : Nat)

/-- The texts that a first and a last one stand for. -/
def range? (text : String) : Option (List String) :=
  match text.splitOn ".." with
  | first :: last :: more =>
    let step : Option Nat :=
      match more with
      | [] => some 1
      | [step] => step.toInt?.map Int.natAbs
      | _ => none
    match step, bound? first, bound? last, first.toList, last.toList with
    | some step, some (low, wide), some (high, wider), _, _ =>
      some ((stepped low high step).map (shownInteger (max wide wider)))
    | some step, none, none, [a], [b] =>
      if a.isAlpha && b.isAlpha then
        some ((stepped a.toNat b.toNat step).map fun code =>
          String.singleton (Char.ofNat code.toNat))
      else none
    | _, _, _, _, _ => none
  | _ => none

/-- The text of atoms that are all characters. -/
def textOf? (atoms : List Atom) : Option String :=
  (atoms.mapM fun (atom : Atom) =>
    match atom with
    | .char c => some c
    | .part _ => none).map String.ofList

/-- The words that a word stands for. At most `fuel` braces are looked at on the way. -/
def expandAtoms : (fuel : Nat) → List Atom → List (List Atom)
  | 0, atoms => [atoms]
  | _ + 1, [] => [[]]
  | fuel + 1, .char '{' :: rest =>
    let literal (_ : Unit) : List (List Atom) :=
      (expandAtoms fuel rest).map (Atom.char '{' :: ·)
    match alternatives 0 rest with
    | some ([only], behind) =>
      match (textOf? only).bind range? with
      | some texts =>
        texts.flatMap fun text =>
          (expandAtoms fuel behind).map (text.toList.map Atom.char ++ ·)
      | none => literal ()
    | some (pieces, behind) =>
      pieces.flatMap fun piece =>
        (expandAtoms fuel piece).flatMap fun before =>
          (expandAtoms fuel behind).map (before ++ ·)
    | none => literal ()
  | fuel + 1, atom :: rest => (expandAtoms fuel rest).map (atom :: ·)

/-- The words that a word stands for. -/
def expand (parts : List Part) : List (List Part) :=
  let atoms := atomsOf parts
  let opens : Bool := atoms.any fun atom =>
    match atom with
    | .char c => c = '{'
    | .part _ => false
  if opens then (expandAtoms (atoms.length + 1) atoms).map partsOf else [parts]

end ManifestPin.Shell.Braces
