import ManifestPin.Shell.Format
import ManifestPin.Shell.Utility.Contents

/-! # Utilities on parts of lines

The programs that select fields and characters, and that replace characters by others. -/

namespace ManifestPin.Shell.Utility

/-! ## Fields -/

/-- Positions from a first one up to a last one. -/
structure Span where
  first : Nat
  last : Option Nat

/-- Whether a position belongs to one of several spans. -/
def Span.contain (spans : List Span) (position : Nat) : Bool :=
  spans.any fun span => span.first ≤ position && (span.last.map (decide <| position ≤ ·)).getD true

/-- Reads a list of positions. -/
def Span.listOf? (text : String) : Option (List Span) :=
  (text.toList.splitOnP (fun c => c = ',' || c = ' ')).mapM fun piece =>
    let (low, rest) := piece.span Char.isDigit
    match rest with
    | [] =>
      let value := numberOf 10 low
      if low.isEmpty || value = 0 then none else some { first := value, last := some value }
    | '-' :: high =>
      if !high.all Char.isDigit || (low.isEmpty && high.isEmpty) then none
      else
        let first := if low.isEmpty then 1 else numberOf 10 low
        let last := if high.isEmpty then none else some (numberOf 10 high)
        if first = 0 || last.any (· < first) then none else some { first, last }
    | _ => none

/-- Selects parts of lines. -/
def cut : Utility :=
  withOptions
    { letters := "b:c:d:f:nsO:Cz", names := [("bytes", 'b'), ("characters", 'c'),
        ("delimiter", 'd'), ("fields", 'f'), ("only-delimited", 's'), ("output-delimiter", 'O'),
        ("complement", 'C'), ("zero-terminated", 'z')] } 1
    fun taken => do
      match taken.last? ['b', 'c', 'f'] with
      | none => refuseUsage "you must specify a list of bytes, characters, or fields" 1
      | some kind =>
        let text := (taken.value? kind).getD ""
        match Span.listOf? text with
        | none =>
          let what := if kind = 'f' then "field" else "byte or character"
          if text = "0" || text.startsWith "0-" then
            refuseUsage ((if kind = 'f' then "fields" else "byte/character positions") ++
              " are numbered from 1") 1
          else if (text.toList.filter Char.isDigit).isEmpty then
            refuseUsage ("invalid " ++ what ++ " value " ++ quote text) 1
          else refuseUsage "invalid decreasing range" 1
        | some spans =>
          let wanted (position : Nat) : Bool := Span.contain spans position != taken.has 'C'
          let delimiterText := (taken.value? 'd').getD "\t"
          if 1 < delimiterText.length then
            return ← refuseUsage "the delimiter must be a single character" 1
          if taken.has 'd' && kind ≠ 'f' then
            return ← refuseUsage
              "an input delimiter may be specified only when operating on fields" 1
          let delimiter := delimiterText.toList.headD '\x00'
          let output? := taken.value? 'O'
          let choose {α : Type} (items : List α) : List α :=
            (items.zipIdx.filter fun entry => wanted (entry.2 + 1)).map (·.1)
          let line (text : String) : Option String :=
            if kind = 'f' then
              if !text.toList.contains delimiter then (if taken.has 's' then none else some text)
              else
                some ((output?.getD (String.singleton delimiter)).intercalate
                  (choose (piecesAt delimiter text)))
            else some (String.ofList (choose text.toList))
          onContents taken.operands fun content =>
            Task.print (asLines ((linesOf content).filterMap line))

/-! ## Characters -/

/-- The characters of a class. -/
def classMembers (accepts : Char → Bool) : List Char :=
  ((List.range 256).map Char.ofNat).filter accepts

/-- What a set of characters is made of. -/
inductive SetPiece where
  | one (c : Char)
  | range (low high : Char)
  | named (name : String)
  | repeated (c : Char) (count : Option Nat)

/-- The pieces that the text of a set is made of. -/
def setPieces : (fuel : Nat) → List Char → List SetPiece
  | 0, _ => []
  | _ + 1, [] => []
  | fuel + 1, '[' :: ':' :: rest =>
    let name := rest.takeWhile Char.isAlpha
    match rest.drop name.length with
    | ':' :: ']' :: rest => .named (String.ofList name) :: setPieces fuel rest
    | _ => .one '[' :: setPieces fuel (':' :: rest)
  | fuel + 1, '[' :: '=' :: c :: '=' :: ']' :: rest => .one c :: setPieces fuel rest
  | fuel + 1, chars =>
    let single (chars : List Char) : Option (Char × List Char) :=
      match chars with
      | [] => none
      | '\\' :: c :: rest =>
        if isOctal c then
          let digits := (c :: rest).takeWhile isOctal |>.take 3
          some (Char.ofNat (numberOf 8 digits % 256), (c :: rest).drop digits.length)
        else
          let escaped : Char :=
            match c with
            | 'a' => '\x07'
            | 'b' => '\x08'
            | 'f' => '\x0c'
            | 'n' => '\n'
            | 'r' => '\x0d'
            | 't' => '\t'
            | 'v' => '\x0b'
            | c => c
          some (escaped, rest)
      | c :: rest => some (c, rest)
    match chars, single chars with
    | _, none => []
    | '[' :: c :: '*' :: rest, some (first, after) =>
      let digits := rest.takeWhile Char.isDigit
      match rest.drop digits.length with
      | ']' :: behind =>
        .repeated c (if digits.isEmpty then none else some (numberOf 10 digits)) ::
          setPieces fuel behind
      | _ => .one first :: setPieces fuel after
    | _, some (low, '-' :: rest) =>
      match single rest with
      | some (high, rest) => .range low high :: setPieces fuel rest
      | none => .one low :: setPieces fuel ('-' :: rest)
    | _, some (c, rest) => .one c :: setPieces fuel rest

/-- The characters of a piece. -/
def SetPiece.members : SetPiece → List Char
  | .one c => [c]
  | .range low high =>
    (List.range (high.toNat + 1 - low.toNat)).map fun offset => Char.ofNat (low.toNat + offset)
  | .named name => classMembers ((namedClass? name).getD fun _ => false)
  | .repeated c count => List.replicate (count.getD 1) c

/-- What is wrong with a piece of a set. -/
def SetPiece.complaint? : SetPiece → Option String
  | .range low high =>
    if low ≤ high then none
    else
      some ("range-endpoints of '" ++ String.ofList [low, '-', high] ++
        "' are in reverse collating sequence order")
  | .named name =>
    if (namedClass? name).isSome then none else some ("invalid character class '" ++ name ++ "'")
  | _ => none

/-- What is wrong with the texts of sets. -/
def setComplaint? (texts : List String) : Option String :=
  texts.findSome? fun text =>
    (setPieces (text.length + 1) text.toList).findSome? SetPiece.complaint?

/-- The characters that the text of a set names, up to a size. -/
def setMembers (size : Nat) (text : String) : List Char :=
  let pieces := setPieces (text.length + 1) text.toList
  let known := (pieces.map fun piece =>
    match piece with
    | .repeated _ none => 0
    | piece => piece.members.length).foldl (· + ·) 0
  pieces.flatMap fun piece =>
    match piece with
    | .repeated c none => List.replicate (size - known) c
    | piece => piece.members

/-- A text in which runs of a character that passes a test are one character. -/
def squeeze (test : Char → Bool) (chars : List Char) : List Char :=
  (chars.foldl
    (fun (found : List Char) c => if found.head? = some c && test c then found else c :: found)
    []).reverse

/-- Replaces, drops or squeezes characters of the input. -/
def tr : Utility :=
  withOptions
    { letters := "cCdst", inOrder := true
      names := [("complement", 'c'), ("delete", 'd'), ("squeeze-repeats", 's'),
        ("truncate-set1", 't')] } 1
    fun taken => do
      let complements := taken.has 'c' || taken.has 'C'
      let (deletes, squeezes) := (taken.has 'd', taken.has 's')
      let needed := if deletes = squeezes then 2 else 1
      match taken.operands with
      | [] => refuseUsage "missing operand" 1
      | first :: rest =>
        if needed = 2 && rest.isEmpty then
          report ("missing operand after " ++ quote first)
          Task.complain (if deletes then
              "Two strings must be given when both deleting and squeezing repeats."
            else "Two strings must be given when translating.")
          adviseHelp
          return 1
        match rest.drop (if deletes && !squeezes then 0 else 1) with
        | extra :: _ => refuseUsage ("extra operand " ++ quote extra) 1
        | [] =>
          match setComplaint? taken.operands with
          | some complaint =>
            report complaint
            return 1
          | none => pure ()
          let named := setMembers 0 first
          let source :=
            if complements then classMembers fun c => !named.contains c else named
          let second := setMembers source.length (rest.headD "")
          let source := if taken.has 't' then source.take second.length else source
          let target := second ++
            List.replicate (source.length - second.length) (second.getLast?.getD '\x00')
          let table := (source.zip target).reverse
          let content := (← Task.readAll).toList
          let shown : List Char :=
            if deletes then
              let kept := content.filter fun c => !source.contains c
              if squeezes then squeeze second.contains kept else kept
            else if rest.isEmpty then squeeze source.contains content
            else
              let mapped := content.map fun c => (table.lookup c).getD c
              if squeezes then squeeze second.contains mapped else mapped
          Task.print (String.ofList shown)
          return 0

end ManifestPin.Shell.Utility
