import ManifestPin.Shell.Utility.Contents

/-! # Comparing contents

The programs that tell whether and where files differ. -/

namespace ManifestPin.Shell.Utility

/-- Ends a program with lines that tell what is wrong and how to learn about it, both under its
name. -/
def refuseOperands (complaint : String) : Task Nat := do
  report complaint
  report ("Try '" ++ (← get).name ++ " --help' for more information.")
  return 2

/-! ## Octets -/

/-- Tells the first octet in which two files differ. -/
def cmp : Utility :=
  withOptions
    { letters := "bi:ln:s", names := [("print-bytes", 'b'), ("ignore-initial", 'i'),
        ("verbose", 'l'), ("bytes", 'n'), ("quiet", 's'), ("silent", 's')] } 2
    fun taken => do
      match taken.operands with
      | [] => refuseOperands "missing operand after 'cmp'"
      | first :: rest =>
        let second := rest.headD "-"
        let read (path : String) : Task (Except Nat (List Char)) := do
          match ← contentOf path with
          | .ok content =>
            let chars := content.toList
            return .ok (((taken.value? 'n').bind sizeOf?).elim chars chars.take)
          | .error fault =>
            if !taken.has 's' then report (path ++ ": " ++ fault.text)
            return .error 2
        match ← read first with
        | .error status => return status
        | .ok left =>
          match ← read second with
          | .error status => return status
          | .ok right =>
            let shared := (left.zip right).takeWhile fun (a, b) => a = b
            let (count, lines) := (shared.length, (shared.filter (·.1 = '\n')).length)
            if left = right then return 0
            if taken.has 's' then return 1
            if taken.has 'l' then
              for ((a, b), index) in (left.zip right).zipIdx do
                if a ≠ b then
                  let octal (c : Char) : String := padStart 3 ' ' (digitsOf 8 c.toNat)
                  Task.print (toString (index + 1) ++ " " ++ octal a ++ " " ++ octal b ++ "\n")
            if count = left.length || count = right.length then
              let short := if left.length < right.length then first else second
              if count = 0 then report ("EOF on " ++ short ++ " which is empty")
              else
                let isWhole := (shared.getLast?).any fun entry => entry.1 = '\n'
                report ("EOF on " ++ short ++ " after byte " ++ toString count ++
                  (if isWhole then ", line " ++ toString lines
                  else ", in line " ++ toString (lines + 1)))
            else if !taken.has 'l' then
              Task.print (first ++ " " ++ second ++ " differ: char " ++ toString (count + 1) ++
                ", line " ++ toString (lines + 1) ++ "\n")
            return 1

/-! ## Lines -/

/-- How a line comes from one content to another. -/
inductive LineChange where
  | kept (line : String)
  | dropped (line : String)
  | added (line : String)

namespace LineChange

/-- The lengths of the longest sequences that the endings of a list have in common with another
list, whose endings count from the whole one on. The list of the rows starts with that of the whole
first list. -/
def lengths (same : String → String → Bool) (second : List String) :
    List String → List (List Nat)
  | [] => [List.replicate (second.length + 1) 0]
  | line :: rest =>
    let rows := lengths same second rest
    let below := rows.headD []
    let row := (second.zip (below.zip (below.drop 1))).foldr
      (fun (other, beside, behind) (row : List Nat) =>
        (if same line other then behind + 1 else max beside (row.headD 0)) :: row) [0]
    row :: rows

/-- The changes that keep as many lines as can be kept. -/
def between (same : String → String → Bool) :
    List String → List String → List (List Nat) → List LineChange
  | [], second, _ => second.map .added
  | first, [], _ => first.map .dropped
  | a :: first, b :: second, rows =>
    let below := rows.drop 1
    if same a b then .kept a :: between same first second (below.map (List.drop 1))
    else
      let whenDropped := (below.headD []).headD 0
      let whenAdded := ((rows.headD []).drop 1).headD 0
      if whenAdded ≤ whenDropped then .dropped a :: between same first (b :: second) below
      else .added b :: between same (a :: first) second (rows.map (List.drop 1))
termination_by first second => first.length + second.length

end LineChange

/-- Lines that are replaced by others, and how many lines of each content are in front of them. -/
structure Hunk where
  before : Nat × Nat
  dropped : List String
  added : List String

/-- The hunks of changes, with the lines that are kept between them. -/
def hunksOf (changes : List LineChange) : List Hunk :=
  let close (hunks : List Hunk) (open' : Hunk) : List Hunk :=
    if open'.dropped.isEmpty && open'.added.isEmpty then hunks else open' :: hunks
  let (hunks, last) := changes.foldl
    (fun ((hunks, current) : List Hunk × Hunk) change =>
      match change with
      | .dropped line => (hunks, { current with dropped := current.dropped ++ [line] })
      | .added line => (hunks, { current with added := current.added ++ [line] })
      | .kept _ =>
        (close hunks current,
          { before := (current.before.1 + current.dropped.length + 1,
              current.before.2 + current.added.length + 1)
            dropped := [], added := [] }))
    ([], { before := (0, 0), dropped := [], added := [] })
  (close hunks last).reverse

namespace Hunk

/-- The lines of a hunk in one of the contents. -/
def span (before count : Nat) : String :=
  if count = 0 then toString before
  else if count = 1 then toString (before + 1)
  else toString (before + 1) ++ "," ++ toString (before + count)

/-- A hunk as it is shown. -/
def shown (hunk : Hunk) : String :=
  let line (mark text : String) : String :=
    mark ++ text ++ if text.endsWith "\n" then "" else "\n\\ No newline at end of file\n"
  let kind :=
    if hunk.dropped.isEmpty then "a" else if hunk.added.isEmpty then "d" else "c"
  span hunk.before.1 hunk.dropped.length ++ kind ++ span hunk.before.2 hunk.added.length ++ "\n" ++
    String.join (hunk.dropped.map (line "< ")) ++ (if kind = "c" then "---\n" else "") ++
    String.join (hunk.added.map (line "> "))

end Hunk

/-- Shows the lines in which two files differ. -/
def diff : Utility := fun arguments => do
  let rules : OptionRules :=
    { letters := "abBiqrsNtTw", names := [("brief", 'q'), ("ignore-case", 'i'),
        ("report-identical-files", 's'), ("text", 'a'), ("ignore-space-change", 'b'),
        ("ignore-all-space", 'w'), ("ignore-blank-lines", 'B'), ("new-file", 'N')] }
  match take rules arguments with
  | .error complaint => refuseOperands complaint
  | .ok taken =>
    match taken.operands with
    | [] => refuseOperands ("missing operand after '" ++ (arguments.getLast?.getD (← get).name) ++ "'")
    | [operand] => refuseOperands ("missing operand after '" ++ operand ++ "'")
    | first :: second :: rest =>
      match rest with
      | extra :: _ => refuseOperands ("extra operand '" ++ extra ++ "'")
      | [] =>
        let machine ← get
        let isDirectory (path : String) : Bool := machine.tree.isDirectory (gather path)
        let inside (directory path : String) : String :=
          directory ++ "/" ++ (piecesAt '/' path).getLast?.getD ""
        let (left, right) : String × String :=
          match isDirectory first, isDirectory second with
          | true, false => (inside first second, second)
          | false, true => (first, inside second first)
          | _, _ => (first, second)
        let read (path : String) : Task (Option String) := do
          match ← contentOf path with
          | .ok content => return some content
          | .error fault =>
            if fault = .noEntry && taken.has 'N' then return some ""
            report (path ++ ": " ++ fault.text)
            return none
        let before ← read left
        let after ← read right
        match before, after with
        | some before, some after =>
          let plain (line : String) : String :=
            let line := if taken.has 'i' then line.map Char.toLower else line
            if taken.has 'w' then String.ofList (line.toList.filter fun c => !isSpace c) else line
          let same (a b : String) : Bool := plain a = plain b
          let (old, new) := (segments before, segments after)
          let hunks := hunksOf (LineChange.between same old new (LineChange.lengths same new old))
          if hunks.isEmpty then
            if taken.has 's' then
              Task.print ("Files " ++ left ++ " and " ++ right ++ " are identical\n")
            return 0
          else if taken.has 'q' then
            Task.print ("Files " ++ left ++ " and " ++ right ++ " differ\n")
          else Task.print (String.join (hunks.map Hunk.shown))
          return 1
        | _, _ => return 2

end ManifestPin.Shell.Utility
