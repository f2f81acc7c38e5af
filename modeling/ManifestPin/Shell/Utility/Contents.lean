import ManifestPin.Shell.Utility.Basic

/-! # Utilities on contents

The programs that write what files hold, in whole or in part, and those that count it. -/

namespace ManifestPin.Shell.Utility

/-- The lines of a content, each with its end. -/
def segments (content : String) : List String :=
  let pieces := piecesAt '\n' content
  let whole := pieces.dropLast.map (· ++ "\n")
  match pieces.getLast? with
  | some "" => whole
  | some last => whole ++ [last]
  | none => whole

/-! ## Whole contents -/

/-- A character in a form that can be seen. -/
def visible (tabs : Bool) (c : Char) : String :=
  let low (n : Nat) : String :=
    if n < 32 then "^" ++ String.singleton (Char.ofNat (n + 64))
    else if n = 127 then "^?"
    else String.singleton (Char.ofNat n)
  if c = '\n' || (c = '\t' && !tabs) then String.singleton c
  else if c.toNat < 128 then low c.toNat
  else "M-" ++ low (c.toNat - 128)

/-- Lines with numbers, ends marked and empty ones joined, as options ask for. -/
def catLines (taken : Taken) (start : Nat) (content : String) : String × Nat :=
  let shows := taken.has 'v' || taken.has 'A' || taken.has 'e' || taken.has 't'
  let tabs := taken.has 'T' || taken.has 'A' || taken.has 't'
  let ends := taken.has 'E' || taken.has 'A' || taken.has 'e'
  let (shown, number, _) := (segments content).foldl
    (fun ((shown, number, blank) : List String × Nat × Bool) line =>
      let isEmpty := line = "\n"
      if taken.has 's' && isEmpty && blank then (shown, number, true)
      else
        let counted := taken.has 'b' && !isEmpty || taken.has 'n' && !taken.has 'b'
        let body := (line.toList.filter (· ≠ '\n')).map fun c =>
          if shows then visible tabs c
          else if tabs && c = '\t' then "^I"
          else String.singleton c
        let number := if counted then number + 1 else number
        let label := if counted then padStart 6 ' ' (toString number) ++ "\t" else ""
        let tail := if line.endsWith "\n" then (if ends then "$\n" else "\n") else ""
        ((label ++ String.join body ++ tail) :: shown, number, isEmpty))
    ([], start, false)
  (String.join shown.reverse, number)

/-- Writes the contents of files. -/
def cat : Utility :=
  withOptions
    { letters := "AbeEnstTuv"
      names := [("show-all", 'A'), ("number-nonblank", 'b'), ("show-ends", 'E'), ("number", 'n'),
        ("squeeze-blank", 's'), ("show-tabs", 'T'), ("show-nonprinting", 'v')] } 1
    fun taken =>
      onContents taken.operands fun content =>
        if taken.options.all fun entry => entry.1 = 'u' then Task.print content
        else Task.print (catLines taken 0 content).1

/-- Writes the lines of files from the last to the first. -/
def tac : Utility :=
  withOptions { letters := "brs:" } 1 fun taken =>
    onContents taken.operands fun content =>
      Task.print (String.join (segments content).reverse)

/-- Writes the characters of each line from the last to the first. -/
def rev : Utility :=
  withOptions { letters := "V" } 1 fun taken =>
    onContents taken.operands fun content =>
      Task.print (String.join ((segments content).map fun line =>
        let body := line.toList.filter (· ≠ '\n')
        String.ofList body.reverse ++ if line.endsWith "\n" then "\n" else ""))

/-- Writes the input to files and to the output. -/
def tee : Utility :=
  withOptions { letters := "aip", names := [("append", 'a')] } 1 fun taken => do
    let content ← Task.readAll
    Task.print content
    forEach taken.operands fun operand => do
      match ← writeFile operand (taken.has 'a') content with
      | .ok () => return 0
      | .error fault =>
        report (quoteIfActive operand ++ ": " ++ fault.text)
        return 1

/-! ## Parts -/

/-- How many lines or octets are asked for. -/
structure Extent where
  octets : Bool
  /-- Whether the count is that of what is left out. -/
  without : Bool
  /-- Whether the count is from the start of the content. -/
  fromStart : Bool
  count : Nat

/-- Reads the extent that a value asks for. -/
def Extent.ofText? (octets : Bool) (text : String) : Option Extent :=
  let (sign, digits) : Char × String :=
    match text.toList with
    | '+' :: rest => ('+', String.ofList rest)
    | '-' :: rest => ('-', String.ofList rest)
    | _ => (' ', text)
  (sizeOf? digits).map fun count =>
    { octets, without := sign = '-', fromStart := sign = '+', count }

/-- Arguments with counts behind a hyphen or a plus written as options. -/
def spellCounts (plus : Bool) : List String → List String
  | [] => []
  | word :: rest =>
    match word.toList with
    | '-' :: c :: digits =>
      if c.isDigit then
        let count := (c :: digits).takeWhile Char.isDigit
        let letters := (c :: digits).drop count.length
        let letter := if letters.contains 'c' then "-c" else "-n"
        letter :: String.ofList count :: rest
      else word :: rest
    | '+' :: digits =>
      if plus && !digits.isEmpty && digits.all Char.isDigit then "-n" :: word :: rest
      else word :: rest
    | _ => word :: rest

/-- The units of a content: octets or lines. -/
def unitsOf (octets : Bool) (content : String) : List String :=
  if octets then content.toList.map String.singleton else segments content

/-- The first units of a content. -/
def Extent.first (extent : Extent) (content : String) : String :=
  let units := unitsOf extent.octets content
  String.join (units.take
    (if extent.without then units.length - extent.count else extent.count))

/-- The last units of a content. -/
def Extent.final (extent : Extent) (content : String) : String :=
  let units := unitsOf extent.octets content
  String.join (units.drop
    (if extent.fromStart then extent.count - 1 else units.length - extent.count))

/-- Writes a part of each content, under the names of the files if there are several. -/
def excerpt (plus : Bool) (select : Extent → String → String) : Utility :=
  fun arguments =>
    withOptions
      { letters := "c:n:qvzfF", names := [("bytes", 'c'), ("lines", 'n'), ("quiet", 'q'),
          ("silent", 'q'), ("verbose", 'v'), ("follow", 'f')] } 1
      (fun taken => do
        let (octets, text) :=
          match taken.last? ['c', 'n'] with
          | some 'c' => (true, (taken.value? 'c').getD "")
          | _ => (false, (taken.value? 'n').getD "10")
        match Extent.ofText? octets text with
        | none =>
          report ("invalid number of " ++ (if octets then "bytes" else "lines") ++
            ": " ++ quote text)
          return 1
        | some extent =>
          let operands := inputs taken.operands
          let labelled := (1 < operands.length || taken.has 'v') && !taken.has 'q'
          let (status, _) ← operands.foldlM
            (fun ((status, isFirst) : Nat × Bool) operand => do
              match ← contentOf operand with
              | .ok content =>
                let shown := if operand = "-" then "standard input" else operand
                if labelled then
                  Task.print ((if isFirst then "" else "\n") ++ "==> " ++ shown ++ " <==\n")
                Task.print (select extent content)
                return (status, false)
              | .error .isDirectory =>
                report ("error reading " ++ quote operand ++ ": Is a directory")
                return (1, isFirst)
              | .error fault =>
                report ("cannot open " ++ quote operand ++ " for reading: " ++
                  fault.text)
                return (1, isFirst)) (0, true)
          return status) (spellCounts plus arguments)

/-- Writes the first lines of files. -/
def head : Utility :=
  excerpt false Extent.first

/-- Writes the last lines of files. -/
def tail : Utility :=
  excerpt true Extent.final

/-! ## Counts -/

/-- How many words a content has. -/
def wordCount (content : String) : Nat :=
  (content.toList.foldl
    (fun ((count, inWord) : Nat × Bool) c =>
      if isSpace c then (count, false) else (if inWord then count else count + 1, true))
    (0, false)).1

/-- Counts lines, words, octets and the widths of lines. -/
def wc : Utility :=
  withOptions
    { letters := "clLmw", names := [("bytes", 'c'), ("chars", 'm'), ("lines", 'l'),
        ("max-line-length", 'L'), ("words", 'w')] } 1
    fun taken => do
      let asked : List Char := ['l', 'w', 'm', 'c', 'L'].filter taken.has
      let asked := if asked.isEmpty then ['l', 'w', 'c'] else asked
      let count (content : String) : List Nat :=
        asked.map fun letter =>
          match letter with
          | 'l' => content.toList.count '\n'
          | 'w' => wordCount content
          | 'L' => ((linesOf content).map String.length).foldl max 0
          | _ => content.length
      let operands := inputs taken.operands
      let machine ← get
      let sizes := operands.map fun operand =>
        match (if operand = "-" then .error .noEntry else machine.readPath operand) with
        | .ok content => content.size
        | .error _ => 0
      let total := sizes.foldl (· + ·) 0
      let simple := operands.length = 1 && asked.length = 1
      let width :=
        if simple then 1
        else if operands.any fun operand => operand = "-" || machine.tree.isDirectory (gather operand)
        then 7
        else (toString total).length
      let line (counts : List Nat) (label : String) : String :=
        " ".intercalate (counts.map fun count => padStart width ' ' (toString count)) ++
          (if label = "" then "" else " " ++ label) ++ "\n"
      let (status, sums) ← operands.foldlM
        (fun ((status, sums) : Nat × List Nat) operand => do
          match ← contentOf operand with
          | .ok content =>
            let counts := count content
            Task.print (line counts (if taken.operands.isEmpty then "" else operand))
            return (status, (sums.zip counts).map fun entry => entry.1 + entry.2)
          | .error fault =>
            report (quoteIfActive operand ++ ": " ++ fault.text)
            if fault = .isDirectory then Task.print (line (asked.map fun _ => 0) operand)
            return (1, sums)) (0, asked.map fun _ => 0)
      if 1 < operands.length then Task.print (line sums "total")
      return status

/-! ## Other layouts -/

/-- Writes the lines of files with numbers. -/
def nl : Utility :=
  withOptions
    { letters := "b:n:s:v:w:i:", names := [("body-numbering", 'b'), ("number-format", 'n'),
        ("number-separator", 's'), ("starting-line-number", 'v'), ("number-width", 'w')] } 1
    fun taken =>
      let all := taken.value? 'b' = some "a"
      let width := ((taken.value? 'w').bind String.toNat?).getD 6
      let separator := (taken.value? 's').getD "\t"
      let start := ((taken.value? 'v').bind String.toNat?).getD 1
      let label (number : Nat) : String :=
        match taken.value? 'n' with
        | some "ln" => padEnd width (toString number)
        | some "rz" => padStart width '0' (toString number)
        | _ => padStart width ' ' (toString number)
      onContents taken.operands fun content =>
        let (shown, _) := (linesOf content).foldl
          (fun ((shown, number) : List String × Nat) line =>
            if line = "" && !all then
              ((String.ofList (List.replicate (width + separator.length) ' ') ++ "\n") :: shown,
                number)
            else ((label number ++ separator ++ line ++ "\n") :: shown, number + 1))
          ([], start)
        Task.print (String.join shown.reverse)

/-- Pieces of a list of a length. -/
def chunks (size : Nat) : (fuel : Nat) → List Char → List (List Char)
  | 0, _ => []
  | fuel + 1, chars =>
    if chars.length ≤ size then [chars]
    else chars.take size :: chunks size fuel (chars.drop size)

/-- Breaks long lines. -/
def fold : Utility :=
  withOptions { letters := "bsw:", names := [("width", 'w')] } 1 fun taken =>
    let width := ((taken.value? 'w').bind String.toNat?).getD 80
    onContents taken.operands fun content =>
      Task.print (String.join ((segments content).map fun line =>
        let body := line.toList.filter (· ≠ '\n')
        "\n".intercalate ((chunks (max width 1) (body.length + 1) body).map String.ofList) ++
          if line.endsWith "\n" then "\n" else ""))

/-- Lists side by side, up to the end of the longest. -/
def transpose : (fuel : Nat) → List (List String) → List (List String)
  | 0, _ => []
  | fuel + 1, columns =>
    if columns.all List.isEmpty then []
    else columns.map (fun column => column.headD "") :: transpose fuel (columns.map List.tail)

/-- Texts with separators between them, which are taken in turn. -/
def joinTurns (separators : List String) : List String → String
  | [] => ""
  | [text] => text
  | text :: rest =>
    text ++ separators.headD "" ++ joinTurns (separators.tail ++ separators.take 1) rest

/-- Writes the lines of files side by side. -/
def paste : Utility :=
  withOptions { letters := "d:s", names := [("delimiters", 'd'), ("serial", 's')] } 1
    fun taken => do
      let rec separatorsOf : List Char → List String
        | '\\' :: 'n' :: rest => "\n" :: separatorsOf rest
        | '\\' :: 't' :: rest => "\t" :: separatorsOf rest
        | '\\' :: '\\' :: rest => "\\" :: separatorsOf rest
        | '\\' :: '0' :: rest => "" :: separatorsOf rest
        | c :: rest => String.singleton c :: separatorsOf rest
        | [] => []
      let separators := separatorsOf ((taken.value? 'd').getD "\t").toList
      let mut columns : List (List String) := []
      for operand in inputs taken.operands do
        match ← contentOf operand with
        | .ok content => columns := columns ++ [linesOf content]
        | .error fault =>
          report (quoteIfActive operand ++ ": " ++ fault.text)
          return 1
      let rows :=
        if taken.has 's' then columns
        else transpose ((columns.map List.length).foldl max 0 + 1) columns
      Task.print (asLines (rows.map (joinTurns separators)))
      return 0

end ManifestPin.Shell.Utility
