import ManifestPin.Shell.Regex
import ManifestPin.Shell.Utility.Contents

/-! # Searching lines

Lines that match one of several expressions are selected, and written with what tells where they
are. -/

namespace ManifestPin.Shell.Utility

/-- How expressions are written that lines are searched with. -/
inductive SearchKind where
  | basic
  | extended
  | fixed
  deriving DecidableEq

/-- What lines are searched for. -/
structure Search where
  regexes : List Regex
  wholeLine : Bool
  wholeWord : Bool
  inverted : Bool

namespace Search

/-- Whether a match from a position on is a whole word. -/
def isWord (text : Array Char) (start finish : Nat) : Bool :=
  !Regex.isInWord (Regex.before text start) && !Regex.isInWord text[finish]?

/-- The first and longest match from a position on, with its start and its end. -/
def find? (search : Search) (text : Array Char) (position : Nat) : Option (Nat × Nat) :=
  (List.range (text.size + 1 - position)).findSome? fun offset =>
    let start := position + offset
    let ends := search.regexes.flatMap fun regex =>
      (regex.ends text { finish := start, groups := [] }).map Match.finish
    let fits := ends.filter fun finish =>
      (!search.wholeLine || (start = 0 && finish = text.size)) &&
        (!search.wholeWord || isWord text start finish)
    match fits with
    | [] => none
    | first :: more => some (start, more.foldl max first)

/-- Whether a line is selected. -/
def selects (search : Search) (line : String) : Bool :=
  (search.find? line.toList.toArray 0).isSome != search.inverted

/-- The parts of a line that match and are not empty. -/
def parts (search : Search) (line : String) : List (Nat × String) :=
  let text := line.toList.toArray
  let rec go : (fuel : Nat) → Nat → List (Nat × String)
    | 0, _ => []
    | fuel + 1, position =>
      match search.find? text position with
      | none => []
      | some (start, finish) =>
        if finish = start then go fuel (start + 1)
        else (start, String.ofList (text.extract start finish).toList) :: go fuel finish
  go (text.size + 1) 0

end Search

/-- A line that is written: its number, whether it is selected or context, and its offset. -/
structure ShownLine where
  number : Nat
  text : String
  selected : Bool
  offset : Nat

/-- The lines of a content that are selected, and those around them. -/
def withContext (before after : Nat) (lines : List (ShownLine)) : List ShownLine :=
  let marks := (lines.filter (·.selected)).map (·.number)
  lines.filter fun line =>
    marks.any fun mark => mark ≤ line.number + before && line.number ≤ mark + after

/-- Searches lines. -/
def grep (usual : SearchKind) : Utility := fun arguments =>
  let arguments := arguments.map fun word =>
    match word.toList with
    | '-' :: digits =>
      if !digits.isEmpty && digits.all Char.isDigit then "-C" ++ String.ofList digits else word
    | _ => word
  withOptions
    { letters := "EFGPivclLnqsowxhHe:f:m:A:B:C:rRzabyTU0:1:2:"
      names := [("extended-regexp", 'E'), ("fixed-strings", 'F'), ("basic-regexp", 'G'),
        ("ignore-case", 'i'), ("invert-match", 'v'), ("count", 'c'), ("files-with-matches", 'l'),
        ("files-without-match", 'L'), ("line-number", 'n'), ("quiet", 'q'), ("silent", 'q'),
        ("no-messages", 's'), ("only-matching", 'o'), ("word-regexp", 'w'), ("line-regexp", 'x'),
        ("no-filename", 'h'), ("with-filename", 'H'), ("regexp", 'e'), ("file", 'f'),
        ("max-count", 'm'), ("after-context", 'A'), ("before-context", 'B'), ("context", 'C'),
        ("recursive", 'r'), ("byte-offset", 'b'), ("color", '0'), ("text", 'a')] } 2
    (fun taken => do
      let kind : SearchKind :=
        match taken.last? ['E', 'F', 'G', 'P'] with
        | some 'E' => .extended
        | some 'P' => .extended
        | some 'F' => .fixed
        | some _ => .basic
        | none => usual
      let given := taken.values 'e'
      let mut patterns := given.flatMap (piecesAt '\n')
      for path in taken.values 'f' do
        match ← contentOf path with
        | .ok content => patterns := patterns ++ linesOf content
        | .error fault =>
          report (path ++ ": " ++ fault.text)
          return 2
      let isGiven := taken.has 'e' || taken.has 'f'
      let operands := if isGiven then taken.operands else taken.operands.drop 1
      if !isGiven then
        match taken.operands with
        | [] =>
          Task.complain ("Usage: " ++ (← get).name ++ " [OPTION]... PATTERNS [FILE]...")
          adviseHelp
          return 2
        | pattern :: _ => patterns := piecesAt '\n' pattern
      let style : RegexStyle :=
        { extended := kind = .extended, ignoresCase := taken.has 'i' || taken.has 'y' }
      let regexes := patterns.mapM fun pattern =>
        if kind = .fixed then .ok (Regex.exactly style pattern) else Regex.ofText style pattern
      match regexes with
      | .error complaint =>
        report complaint
        return 2
      | .ok regexes =>
        let search : Search :=
          { regexes, wholeLine := taken.has 'x', wholeWord := taken.has 'w'
            inverted := taken.has 'v' }
        let number (letter : Char) : Option Nat := (taken.value? letter).bind String.toNat?
        let context := (number 'C').getD 0
        let before := (number 'B').getD context
        let after := (number 'A').getD context
        let machine ← get
        let recursive := taken.has 'r' || taken.has 'R'
        let listed (path : String) : List String :=
          if recursive && machine.tree.isDirectory (gather path) then
            match machine.tree.resolve (gather path) with
            | .ok location =>
              let below := machine.tree.entries.filter fun held =>
                location.isSuffixOf held.1 && held.2.isFile
              (below.map fun held =>
                let names := (held.1.take (held.1.length - location.length)).reverse.map spread
                if path = "." && operands.isEmpty then "/".intercalate names
                else path ++ (if path.endsWith "/" then "" else "/") ++
                  "/".intercalate names).mergeSort fun a b => a ≤ b
            | .error _ => [path]
          else [path]
        let files :=
          (if operands.isEmpty then (if recursive then ["."] else ["-"]) else operands).flatMap
            listed
        let labelled := (1 < files.length || recursive || taken.has 'H') && !taken.has 'h'
        let step (state : Nat × Bool) (file : String) : Task (Nat × Bool) := do
          let (worst, found) := state
          match ← contentOf file with
          | .error fault =>
            if !taken.has 's' then
              report (file ++ ": " ++ fault.text)
            return (2, found)
          | .ok content =>
            let lines := linesOf content
            let (_, numbered) := lines.zipIdx.foldl
              (fun ((offset, done) : Nat × List ShownLine) (text, index) =>
                (offset + text.length + 1,
                  { number := index + 1, text, selected := search.selects text, offset } :: done))
              (0, [])
            let numbered := numbered.reverse
            let limit := number 'm'
            let chosen := numbered.filter (·.selected)
            let chosen := match limit with | some limit => chosen.take limit | none => chosen
            let isFound := !chosen.isEmpty
            let file' := if file = "-" then "(standard input)" else file
            let label (mark : String) : String := if labelled then file' ++ mark else ""
            if content.toList.contains '\x00' && isFound && !taken.has 'a' && !taken.has 'c' &&
                !taken.has 'l' && !taken.has 'q' && !taken.has 'z' then
              Task.print ((← get).name ++ ": " ++ file' ++ ": binary file matches\n")
              return (worst, true)
            if taken.has 'q' then return (worst, found || isFound)
            else if taken.has 'L' then
              if !isFound then Task.print (file' ++ "\n")
              return (worst, found || !isFound)
            else if taken.has 'l' then
              if isFound then Task.print (file' ++ "\n")
            else if taken.has 'c' then
              Task.print (label ":" ++ toString chosen.length ++ "\n")
            else
              let prefixed (line : ShownLine) (offset : Nat) (mark text : String) : String :=
                label mark ++ (if taken.has 'n' then toString line.number ++ mark else "") ++
                  (if taken.has 'b' then toString offset ++ mark else "") ++ text ++ "\n"
              if taken.has 'o' then
                if !search.inverted then
                  for line in chosen do
                    for (start, text) in search.parts line.text do
                      Task.print (prefixed line (line.offset + start) ":" text)
              else if before = 0 && after = 0 then
                for line in chosen do
                  Task.print (prefixed line line.offset ":" line.text)
              else
                let marked := numbered.map fun line =>
                  { line with selected := chosen.any fun other => other.number = line.number }
                let shown := withContext before after marked
                let _ ← shown.foldlM
                  (fun (last : Nat) line => do
                    if last ≠ 0 && last + 1 < line.number then Task.print "--\n"
                    Task.print (prefixed line line.offset (if line.selected then ":" else "-")
                      line.text)
                    return line.number) 0
            return (worst, found || isFound)
        let (worst, found) ← files.foldlM step (0, false)
        return if found && (taken.has 'q' || worst = 0) then 0
          else if worst = 0 then 1 else worst) arguments

end ManifestPin.Shell.Utility
