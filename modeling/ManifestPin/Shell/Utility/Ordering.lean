import ManifestPin.Shell.Utility.Printing

/-! # Utilities on the order of lines

The programs that sort lines, drop repeated ones, and compare sorted files. -/

namespace ManifestPin.Shell.Utility

/-! ## Comparing -/

/-- The number that a text starts with, scaled to a number of places. -/
def leadingNumber (text : String) : Scaled :=
  let chars := text.toList.dropWhile isBlank
  let (negative, chars) : Bool × List Char :=
    match chars with
    | '-' :: rest => (true, rest)
    | chars => (false, chars)
  let (whole, rest) := chars.span Char.isDigit
  let fraction : List Char :=
    match rest with
    | '.' :: fraction => fraction.takeWhile Char.isDigit
    | _ => []
  let value : Int := numberOf 10 (whole ++ fraction)
  { value := if negative then -value else value, places := fraction.length }

/-- The order of two texts by the numbers that they start with. -/
def compareNumbers (a b : String) : Ordering :=
  let (x, y) := (leadingNumber a, leadingNumber b)
  let places := max x.places y.places
  compare (x.widen places) (y.widen places)

/-- The rank of a character between the numbers of a version. -/
def versionRank : Option Char → Int
  | none => 0
  | some c =>
    if c = '~' then -1
    else if c.isDigit then 0
    else if c.isAlpha then c.toNat
    else c.toNat + 256

/-- The order of two versions: texts and numbers in turn. -/
def compareVersions : (fuel : Nat) → List Char → List Char → Ordering
  | 0, _, _ => .eq
  | fuel + 1, a, b =>
    let rec texts : (fuel : Nat) → List Char → List Char → Ordering × List Char × List Char
      | 0, a, b => (.eq, a, b)
      | fuel + 1, a, b =>
        let more (text : List Char) : Bool := (text.head?).any fun c => !c.isDigit
        if more a || more b then
          match compare (versionRank a.head?) (versionRank b.head?) with
          | .eq => texts fuel a.tail b.tail
          | order => (order, a, b)
        else (.eq, a, b)
    match texts (a.length + b.length + 1) a b with
    | (.eq, a, b) =>
      let digits (text : List Char) : List Char := text.takeWhile Char.isDigit
      match compare (numberOf 10 (digits a)) (numberOf 10 (digits b)) with
      | .eq =>
        let (a, b) := (a.dropWhile Char.isDigit, b.dropWhile Char.isDigit)
        if a.isEmpty && b.isEmpty then .eq else compareVersions fuel a b
      | order => order
    | (order, _, _) => order

/-- A number with a letter for its unit, as its unit and its value. -/
def humanNumber (text : String) : Nat × String :=
  let chars := text.toList.dropWhile isBlank
  let digits := chars.takeWhile fun c => c.isDigit || c = '.' || c = '-'
  let unit := (chars.drop digits.length).headD ' '
  let rank := ("KMGTPEZY".toList.findIdx? (· = unit.toUpper)).map (· + 1)
  (rank.getD 0, String.ofList digits)

/-- How lines or keys are compared. -/
structure Collation where
  numeric : Bool
  general : Bool
  human : Bool
  version : Bool
  reversed : Bool
  foldsCase : Bool
  skipsBlanks : Bool
  dictionary : Bool

/-- The collation that letters ask for. -/
def Collation.ofLetters (letters : List Char) : Collation :=
  { numeric := letters.contains 'n'
    general := letters.contains 'g'
    human := letters.contains 'h'
    version := letters.contains 'V'
    reversed := letters.contains 'r'
    foldsCase := letters.contains 'f'
    skipsBlanks := letters.contains 'b'
    dictionary := letters.contains 'd' }

/-- The order of two texts. -/
def Collation.compare (collation : Collation) (a b : String) : Ordering :=
  let prepare (text : String) : String :=
    let text := if collation.foldsCase then text.map Char.toUpper else text
    let text :=
      if collation.skipsBlanks then String.ofList (text.toList.dropWhile isBlank) else text
    if collation.dictionary then
      String.ofList (text.toList.filter fun c => c.isAlphanum || isBlank c)
    else text
  let order :=
    if collation.numeric || collation.general then compareNumbers a b
    else if collation.human then
      let ((x, s), (y, t)) := (humanNumber a, humanNumber b)
      (Ord.compare x y).then (compareNumbers s t)
    else if collation.version then
      compareVersions (a.length + b.length + 2) a.toList b.toList
    else Ord.compare (prepare a) (prepare b)
  if collation.reversed then order.swap else order

/-! ## Keys -/

/-- A part of a line that lines are sorted by. -/
structure SortKey where
  firstField : Nat
  firstChar : Nat
  lastField : Option Nat
  lastChar : Nat
  letters : List Char

/-- Reads a key. -/
def SortKey.ofText? (text : String) : Option SortKey :=
  let position (chars : List Char) : Nat × Nat × List Char × List Char :=
    let field := chars.takeWhile Char.isDigit
    let rest := chars.drop field.length
    let (char, rest) : List Char × List Char :=
      match rest with
      | '.' :: rest => rest.span Char.isDigit
      | rest => ([], rest)
    let letters := rest.takeWhile Char.isAlpha
    (numberOf 10 field, numberOf 10 char, letters, rest.drop letters.length)
  let (firstField, firstChar, letters, rest) := position text.toList
  if firstField = 0 then none
  else
    match rest with
    | [] => some { firstField, firstChar, lastField := none, lastChar := 0, letters }
    | ',' :: rest =>
      let (lastField, lastChar, more, rest) := position rest
      if lastField = 0 || !rest.isEmpty then none
      else
        some
          { firstField, firstChar, lastField := some lastField, lastChar
            letters := letters ++ more }
    | _ => none

/-- The fields of a line. Without a separator blanks in front belong to a field. -/
def sortFields (separator : Option Char) (line : String) : List String :=
  match separator with
  | some separator => piecesAt separator line
  | none =>
    let rec go : (fuel : Nat) → List Char → List String
      | 0, _ => []
      | fuel + 1, chars =>
        if chars.isEmpty then []
        else
          let blanks := chars.takeWhile isBlank
          let body := (chars.drop blanks.length).takeWhile fun c => !isBlank c
          let field := blanks ++ body
          String.ofList field :: go fuel (chars.drop field.length)
    go (line.length + 1) line.toList

/-- The part of a line that a key names. -/
def SortKey.select (key : SortKey) (separator : Option Char) (line : String) : String :=
  let fields := sortFields separator line
  let glue : String := match separator with | some c => String.singleton c | none => ""
  let upTo :=
    match key.lastField with
    | some last =>
      let cutShort (field : String) : String := (field.take key.lastChar).toString
      if key.lastChar = 0 then fields.take last
      else fields.take (last - 1) ++ ((fields.drop (last - 1)).take 1).map cutShort
    | none => fields
  let text := glue.intercalate (upTo.drop (key.firstField - 1))
  (text.drop (key.firstChar - 1)).toString

/-- Lines of several contents. A last line without an end gets one. -/
def linesOfAll (status : Nat) (operands : List String) :
    Task (Except Nat (List String)) := do
  let mut lines : List String := []
  for operand in inputs operands do
    match ← contentOf operand with
    | .ok content => lines := lines ++ linesOf content
    | .error fault =>
      report ("cannot read: " ++ quoteIfActive operand ++ ": " ++ fault.text)
      return .error status
  return .ok lines

/-- Writes lines in order. -/
def sort : Utility :=
  withOptions
    { letters := "bcCdfghik:mno:rRsS:t:T:uVz"
      names := [("ignore-leading-blanks", 'b'), ("check", 'c'), ("dictionary-order", 'd'),
        ("ignore-case", 'f'), ("general-numeric-sort", 'g'), ("human-numeric-sort", 'h'),
        ("key", 'k'), ("merge", 'm'), ("numeric-sort", 'n'), ("output", 'o'), ("reverse", 'r'),
        ("stable", 's'), ("field-separator", 't'), ("unique", 'u'), ("version-sort", 'V'),
        ("zero-terminated", 'z')] } 2
    fun taken => do
      let overall := taken.options.map (·.1)
      let separator := (taken.value? 't').bind fun text => text.toList.head?
      let keyTexts := taken.values 'k'
      match keyTexts.find? fun text => (SortKey.ofText? text).isNone with
      | some text =>
        report ("invalid number at field start: invalid count at start of " ++
          quote text)
        return 2
      | none =>
        let keys := keyTexts.filterMap SortKey.ofText?
        let compareKeys (a b : String) : Ordering :=
          if keys.isEmpty then (Collation.ofLetters overall).compare a b
          else
            keys.foldl
              (fun order key =>
                order.then
                  ((Collation.ofLetters
                    (if key.letters.isEmpty then overall else key.letters)).compare
                    (key.select separator a) (key.select separator b)))
              .eq
        let whole (a b : String) : Ordering :=
          let last := if taken.has 's' || taken.has 'u' then .eq else compare a b
          (compareKeys a b).then (if taken.has 'r' then last.swap else last)
        match ← linesOfAll 2 taken.operands with
        | .error status => return status
        | .ok lines =>
          let sorted := lines.mergeSort fun a b => whole a b ≠ .gt
          if taken.has 'c' || taken.has 'C' then
            let pairs := (lines.zip lines.tail).zipIdx
            match pairs.find? fun ((a, b), _) => whole a b = .gt with
            | none => return 0
            | some ((_, b), index) =>
              if taken.has 'c' then
                report ((inputs taken.operands).headD "-" ++ ":" ++
                  toString (index + 2) ++ ": disorder: " ++ b)
              return 1
          else
            let chosen :=
              if taken.has 'u' then
                (sorted.foldl
                  (fun found line =>
                    match found with
                    | last :: _ => if compareKeys last line = .eq then found else line :: found
                    | [] => [line])
                  []).reverse
              else sorted
            match taken.value? 'o' with
            | none =>
              Task.print (asLines chosen)
              return 0
            | some path =>
              match ← writeFile path false (asLines chosen) with
              | .ok () => return 0
              | .error fault =>
                report ("open failed: " ++ quoteIfActive path ++ ": " ++ fault.text)
                return 2

/-! ## Neighbours -/

/-- Runs of equal lines, each with its length. -/
def runsOf (same : String → String → Bool) (lines : List String) : List (String × Nat) :=
  (lines.foldl
    (fun found line =>
      match found with
      | (first, count) :: more =>
        if same first line then (first, count + 1) :: more else (line, 1) :: found
      | [] => [(line, 1)])
    ([] : List (String × Nat))).reverse

/-- Drops lines that repeat the one before. -/
def uniq : Utility :=
  withOptions
    { letters := "cdDf:is:uw:z", names := [("count", 'c'), ("repeated", 'd'),
        ("skip-fields", 'f'), ("ignore-case", 'i'), ("skip-chars", 's'), ("unique", 'u'),
        ("check-chars", 'w')] } 1
    fun taken => do
      let number (letter : Char) : Option Nat := (taken.value? letter).bind String.toNat?
      let key (line : String) : String :=
        let fields := number 'f'
        let chars := (List.range (fields.getD 0)).foldl
          (fun chars _ => (chars.dropWhile isBlank).dropWhile fun c => !isBlank c) line.toList
        let chars := chars.drop ((number 's').getD 0)
        let chars := match number 'w' with | some width => chars.take width | none => chars
        let text := String.ofList chars
        if taken.has 'i' then text.map Char.toLower else text
      match ← contentOf ((taken.operands.head?).getD "-") with
      | .error fault =>
        report (quoteIfActive (taken.operands.headD "") ++ ": " ++ fault.text)
        return 1
      | .ok content =>
        let runs := runsOf (fun a b => key a = key b) (linesOf content)
        let kept := runs.filter fun entry =>
          (!taken.has 'd' || 1 < entry.2) && (!taken.has 'u' || entry.2 = 1)
        let shown := kept.map fun (line, count) =>
          if taken.has 'c' then padStart 7 ' ' (toString count) ++ " " ++ line else line
        match taken.operands.drop 1 with
        | path :: _ =>
          match ← writeFile path false (asLines shown) with
          | .ok () => return 0
          | .error fault =>
            report (quoteIfActive path ++ ": " ++ fault.text)
            return 1
        | [] =>
          Task.print (asLines shown)
          return 0

/-- The lines that only the first list has, only the second, or both: each with its column. -/
def mergeColumns : (fuel : Nat) → List String → List String → List (Nat × String)
  | 0, _, _ => []
  | _ + 1, [], second => second.map fun line => (2, line)
  | _ + 1, first, [] => first.map fun line => (1, line)
  | fuel + 1, a :: first, b :: second =>
    match compare a b with
    | .eq => (3, a) :: mergeColumns fuel first second
    | .lt => (1, a) :: mergeColumns fuel first (b :: second)
    | .gt => (2, b) :: mergeColumns fuel (a :: first) second

/-- Compares two sorted files line by line. -/
def comm : Utility :=
  withOptions { letters := "123" } 1 fun taken => do
    match taken.operands with
    | [first, second] =>
      match ← contentOf first, ← contentOf second with
      | .ok a, .ok b =>
        let (a, b) := (linesOf a, linesOf b)
        let columns := mergeColumns (a.length + b.length + 1) a b
        let hidden (column : Nat) : Bool := taken.has (Nat.digitChar column)
        let tabs (column : Nat) : String :=
          String.join ((List.range column).filterMap fun before =>
            if before = 0 || hidden before then none else some "\t")
        Task.print (asLines ((columns.filter fun entry => !hidden entry.1).map fun entry =>
          tabs entry.1 ++ entry.2))
        return 0
      | .error fault, _ =>
        report (quoteIfActive first ++ ": " ++ fault.text)
        return 1
      | _, .error fault =>
        report (quoteIfActive second ++ ": " ++ fault.text)
        return 1
    | [] => refuseUsage "missing operand" 1
    | [operand] => refuseUsage ("missing operand after " ++ quote operand) 1
    | _ :: _ :: operand :: _ => refuseUsage ("extra operand " ++ quote operand) 1

end ManifestPin.Shell.Utility
