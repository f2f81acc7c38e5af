import ManifestPin.Shell.Pattern

/-! # Regular expressions

Expressions that lines are searched with. Of the matches that start first the longest one counts,
and what its groups match is known. -/

namespace ManifestPin.Shell

/-- A regular expression. -/
inductive Regex where
  | nothing
  | one (accepts : Char → Bool)
  /-- A place, which a test tells by the characters before and behind it. -/
  | place (holds : Option Char → Option Char → Bool)
  | both (first second : Regex)
  | either (first second : Regex)
  | repeated (inner : Regex) (least : Nat) (most : Option Nat)
  | group (index : Nat) (inner : Regex)
  /-- The text that a group matched. -/
  | same (index : Nat)

/-- How a regular expression is written. -/
structure RegexStyle where
  /-- Whether operators are written without backslashes. -/
  extended : Bool
  /-- Whether capital and small letters are the same. -/
  ignoresCase : Bool
  /-- Whether lines of a text start and end as the text does. -/
  byLines : Bool := false
  /-- Whether an operator needs something to repeat. -/
  needsOperands : Bool := false
  /-- Whether a closing parenthesis needs one that opens. -/
  needsOpener : Bool := false

/-- What matches a regular expression: where it ends, and where its groups start and end. -/
structure Match where
  finish : Nat
  groups : List (Nat × Nat × Nat)
  deriving DecidableEq

namespace Match

/-- Matches with those of one end only once, the longest first. -/
def ordered (matches' : List Match) : List Match :=
  let distinct := matches'.foldl
    (fun (found : List Match) next =>
      if found.any fun other => other.finish = next.finish then found else next :: found)
    []
  distinct.reverse.mergeSort fun a b => b.finish ≤ a.finish

end Match

namespace Regex

/-- The character in front of a position. -/
def before (text : Array Char) (position : Nat) : Option Char :=
  if position = 0 then none else text[position - 1]?

/-- The matches behind one that ends with the first part. -/
def ends (text : Array Char) : Regex → Match → List Match
  | .nothing, start => [start]
  | .one accepts, start =>
    match text[start.finish]? with
    | some c => if accepts c then [{ start with finish := start.finish + 1 }] else []
    | none => []
  | .place holds, start =>
    if holds (before text start.finish) text[start.finish]? then [start] else []
  | .both first second, start =>
    Match.ordered ((ends text first start).flatMap fun reached => ends text second reached)
  | .either first second, start =>
    Match.ordered (ends text first start ++ ends text second start)
  | .group index inner, start =>
    (ends text inner start).map fun reached =>
      { reached with
        groups := (index, start.finish, reached.finish) ::
          reached.groups.filter fun entry => entry.1 ≠ index }
  | .same index, start =>
    match start.groups.lookup index with
    | some (low, high) =>
      let wanted := text.extract low high
      let finish := start.finish + (high - low)
      if text.extract start.finish finish = wanted && finish ≤ text.size then
        [{ start with finish }]
      else []
    | none => []
  | .repeated inner least most, start =>
    let rounds := match most with | some most => most | none => text.size + least + 1
    let (_, found) := (List.range rounds).foldl
      (fun ((fresh, found) : List Match × List Match) round =>
        if fresh.isEmpty then (fresh, found)
        else
          let next := Match.ordered (fresh.flatMap fun reached => ends text inner reached)
          if round + 1 < least then (next, found)
          else
            let new := next.filter fun reached =>
              !found.any fun other => other.finish = reached.finish
            (new, found ++ new))
      ([start], if least = 0 then [start] else [])
    Match.ordered found.reverse

/-- The longest match that starts at a position. -/
def matchAt? (regex : Regex) (text : Array Char) (position : Nat) : Option Match :=
  (ends text regex { finish := position, groups := [] }).head?

/-- The first match from a position on, with its start. -/
def search? (regex : Regex) (text : Array Char) (position : Nat) : Option (Nat × Match) :=
  (List.range (text.size + 1 - position)).findSome? fun offset =>
    (regex.matchAt? text (position + offset)).map fun found => (position + offset, found)

/-- Whether an expression matches somewhere in a text. -/
def occursIn (regex : Regex) (text : String) : Bool :=
  (regex.search? text.toList.toArray 0).isSome

/-! ## Reading -/

/-- The pieces that a regular expression is written with. -/
inductive Token where
  | opener
  | closer
  | bar
  | times (least : Nat) (most : Option Nat)
  | one (accepts : Char → Bool)
  | place (holds : Option Char → Option Char → Bool)
  | same (index : Nat)

/-- A character of a word. -/
def isWord (c : Char) : Bool :=
  c.isAlphanum || c = '_'

/-- Whether a character is there and belongs to a word. -/
def isInWord (c : Option Char) : Bool :=
  c.any isWord

/-- The place that an escaped letter stands for. -/
def escapedPlace? : Char → Option (Option Char → Option Char → Bool)
  | 'b' => some fun before behind => isInWord before != isInWord behind
  | 'B' => some fun before behind => isInWord before == isInWord behind
  | '<' => some fun before behind => !isInWord before && isInWord behind
  | '>' => some fun before behind => isInWord before && !isInWord behind
  | '\x60' => some fun before _ => before.isNone
  | '\'' => some fun _ behind => behind.isNone
  | _ => none

/-- The class that an escaped letter stands for. -/
def escapedClass? : Char → Option (Char → Bool)
  | 'w' => some isWord
  | 'W' => some fun c => !isWord c
  | 's' => some isSpace
  | 'S' => some fun c => !isSpace c
  | _ => none

/-- The members of a bracket up to its closing one, and what follows that. -/
def readBracket : (fuel : Nat) → (first : Bool) → List (Char → Bool) → Pattern →
    Except String (List (Char → Bool) × Pattern)
  | 0, _, _, _ => .error "Unmatched [, [^, [:, [., or [="
  | fuel + 1, first, found, text =>
    match text with
    | [] => .error "Unmatched [, [^, [:, [., or [="
    | (']', _) :: rest =>
      if first then readBracket fuel false ((· = ']') :: found) rest else .ok (found, rest)
    | ('[', _) :: (':', _) :: rest =>
      match Pattern.readClassName rest with
      | some (accepts, rest) => readBracket fuel false (accepts :: found) rest
      | none => .error "Invalid character class name"
    | ('[', _) :: ('=', _) :: (c, _) :: ('=', _) :: (']', _) :: rest =>
      readBracket fuel false ((· = c) :: found) rest
    | ('[', _) :: ('.', _) :: (c, _) :: ('.', _) :: (']', _) :: rest =>
      readBracket fuel false ((· = c) :: found) rest
    | (low, _) :: ('-', q) :: (high, r) :: rest =>
      if high = ']' then
        readBracket fuel false ((· = '-') :: (· = low) :: found) ((high, r) :: rest)
      else if high < low then .error "Invalid range end"
      else if high = '[' && (rest.head?).any (fun entry => entry.1 = '.') then
        readBracket fuel false ((· = low) :: found) (('-', q) :: (high, r) :: rest)
      else readBracket fuel false ((fun c => low ≤ c && c ≤ high) :: found) rest
    | (c, _) :: rest => readBracket fuel false ((· = c) :: found) rest

/-- A class that treats capital and small letters alike, if asked to. -/
def foldCase (style : RegexStyle) (accepts : Char → Bool) : Char → Bool :=
  if style.ignoresCase then fun c => accepts c || accepts c.toLower || accepts c.toUpper
  else accepts

/-- The numbers of an interval up to its closing brace, and what follows that. -/
def readInterval (style : RegexStyle) (text : Pattern) :
    Except String (Nat × Option Nat × Pattern) :=
  let digits (text : Pattern) : List Char × Pattern :=
    let taken := (text.map (·.1)).takeWhile Char.isDigit
    (taken, text.drop taken.length)
  let closed (low : Nat) (high : Option Nat) (text : Pattern) :
      Except String (Nat × Option Nat × Pattern) :=
    let faulty : Except String (Nat × Option Nat × Pattern) :=
      .error "Invalid content of \\\x7b\\\x7d"
    let fitting (rest : Pattern) : Except String (Nat × Option Nat × Pattern) :=
      if high.any (· < low) then faulty
      else if 32767 < max low (high.getD 0) then .error "Regular expression too big"
      else .ok (low, high, rest)
    match style.extended, text with
    | true, ('\x7d', _) :: rest => fitting rest
    | false, ('\\', _) :: ('\x7d', _) :: rest => fitting rest
    | _, [] => .error "Unmatched \\\x7b"
    | _, _ => faulty
  let (low, rest) := digits text
  match rest with
  | (',', _) :: rest =>
    let (high, rest) := digits rest
    closed (numberOf 10 low) (if high.isEmpty then none else some (numberOf 10 high)) rest
  | rest =>
    if low.isEmpty then
      .error (if rest.isEmpty then "Unmatched \\\x7b" else "Invalid content of \\\x7b\\\x7d")
    else closed (numberOf 10 low) (some (numberOf 10 low)) rest

/-- The place at the start of a text. -/
def startPlace (style : RegexStyle) : Token :=
  .place fun before _ => before.isNone || (style.byLines && before = some '\n')

/-- The place at the end of a text. -/
def endPlace (style : RegexStyle) : Token :=
  .place fun _ behind => behind.isNone || (style.byLines && behind = some '\n')

/-- Whether a basic expression ends here, or an alternative or a group of it. -/
def endsBasic : Pattern → Bool
  | [] => true
  | ('\\', false) :: (')', _) :: _ => true
  | ('\\', false) :: ('|', _) :: _ => true
  | _ => false

/-- The tokens of an expression. At the start of an alternative some operators stand for
themselves in basic expressions. -/
def tokens (style : RegexStyle) : (fuel : Nat) → (start : Bool) → Pattern →
    Except String (List Token)
  | 0, _, _ => .ok []
  | fuel + 1, start, text => do
    let token (token : Token) (start : Bool) (rest : Pattern) : Except String (List Token) := do
      return token :: (← tokens style fuel start rest)
    let itself (c : Char) (rest : Pattern) : Except String (List Token) :=
      token (.one (foldCase style (· = c))) false rest
    match text with
    | [] => return []
    | (c, true) :: rest => itself c rest
    | ('[', false) :: rest =>
      let negated := (rest.head?).any fun entry => entry.1 = '^'
      let body := if negated then rest.drop 1 else rest
      if body.isEmpty then throw "Invalid regular expression"
      let (members, rest) ← readBracket (body.length + 1) true [] body
      let accepts (c : Char) : Bool := members.any fun accepts => accepts c
      let folded := foldCase style accepts
      token (.one (if negated then fun c => !folded c else folded)) false rest
    | ('.', false) :: rest => token (.one fun _ => true) false rest
    | ('*', false) :: rest =>
      if start && !style.extended then itself '*' rest else token (.times 0 none) false rest
    | ('^', false) :: rest =>
      if style.extended || start then token (startPlace style) true rest else itself '^' rest
    | ('$', false) :: rest =>
      if style.extended || endsBasic rest then token (endPlace style) false rest else itself '$' rest
    | ('\\', false) :: [] => throw "Trailing backslash"
    | ('\\', false) :: (c, _) :: rest =>
      match escapedPlace? c, escapedClass? c with
      | some holds, _ => token (.place holds) false rest
      | none, some accepts => token (.one accepts) false rest
      | none, none =>
        if c.isDigit && c ≠ '0' then token (.same (digitValue c)) false rest
        else if style.extended then itself c rest
        else
          match c with
          | '(' => token .opener true rest
          | ')' => token .closer false rest
          | '|' => token .bar true rest
          | '+' => if start then itself c rest else token (.times 1 none) false rest
          | '?' => if start then itself c rest else token (.times 0 (some 1)) false rest
          | '\x7b' =>
            let (least, most, rest) ← readInterval style rest
            token (.times least most) false rest
          | c => itself c rest
    | (c, false) :: rest =>
      if !style.extended then itself c rest
      else
        match c with
        | '(' => token .opener true rest
        | ')' => token .closer false rest
        | '|' => token .bar true rest
        | '+' => token (.times 1 none) false rest
        | '?' => token (.times 0 (some 1)) false rest
        | '\x7b' =>
          match readInterval style rest with
          | .ok (least, most, rest) => token (.times least most) false rest
          | .error complaint =>
            if style.needsOperands || (rest.map (·.1)).contains '\x7d' then throw complaint
            else itself c rest
        | c => itself c rest

/-- What is read of an expression: the alternatives in front of the last one, what the last one
holds so far but for its last item, and that item. -/
structure Reading where
  choices : Option Regex := none
  earlier : Regex := .nothing
  last : Option Regex := none

namespace Reading

/-- The last alternative. -/
def sequence (reading : Reading) : Regex :=
  match reading.last with
  | some last => .both reading.earlier last
  | none => reading.earlier

/-- The whole expression. -/
def regex (reading : Reading) : Regex :=
  match reading.choices with
  | some choices => .either choices reading.sequence
  | none => reading.sequence

/-- The reading with another item. -/
def push (reading : Reading) (item : Regex) : Reading :=
  { reading with earlier := reading.sequence, last := some item }

end Reading

/-- Whether an item can be repeated: there is one, it is no place, and in basic expressions it is not
itself repeated. -/
def canRepeat (style : RegexStyle) (item : Option Regex) (least : Nat) (most : Option Nat) : Bool :=
  match item with
  | none => false
  | some (.place _) => false
  | some (.repeated ..) =>
    style.extended || (least = 1 && most = none) || (least = 0 && most = some 1)
  | some _ => true

/-- Reads an expression up to a closing parenthesis, and gives what follows and the number of the
last group. A closing parenthesis that none opens stands for itself in extended expressions. At most
`fuel` tokens are read. -/
def assemble (style : RegexStyle) : (fuel : Nat) → (depth : Nat) → (groups : Nat) → Reading → List Token →
    Except String (Regex × List Token × Nat)
  | 0, _, _, _, _ => .error "Regular expression too big"
  | fuel + 1, depth, groups, reading, tokens =>
    match tokens with
    | [] => if depth = 0 then .ok (reading.regex, [], groups) else .error "Unmatched ( or \\("
    | .closer :: rest =>
      if 0 < depth then .ok (reading.regex, rest, groups)
      else if style.extended && !style.needsOpener then
        assemble style fuel depth groups (reading.push (.one (· = ')'))) rest
      else .error "Unmatched ) or \\)"
    | .opener :: rest => do
      let (inner, rest, after) ← assemble style fuel (depth + 1) (groups + 1) {} rest
      assemble style fuel depth after (reading.push (.group (groups + 1) inner)) rest
    | .bar :: rest => assemble style fuel depth groups { choices := some reading.regex } rest
    | .times least most :: rest =>
      if style.needsOperands && !canRepeat style reading.last least most then
        .error "Invalid preceding regular expression"
      else
        match reading.last with
        | some last =>
          assemble style fuel depth groups
            { reading with last := some (.repeated last least most) } rest
        | none => assemble style fuel depth groups reading rest
    | .one accepts :: rest => assemble style fuel depth groups (reading.push (.one accepts)) rest
    | .place holds :: rest => assemble style fuel depth groups (reading.push (.place holds)) rest
    | .same index :: rest =>
      if groups < index then .error "Invalid back reference"
      else assemble style fuel depth groups (reading.push (.same index)) rest

/-- Reads an expression of which some characters stand for themselves. -/
def ofPattern (style : RegexStyle) (pattern : Pattern) : Except String Regex := do
  let tokens ← tokens style (pattern.length + 1) true pattern
  let (regex, _, _) ← assemble style (tokens.length + 1) 0 0 {} tokens
  return regex

/-- Reads an expression. -/
def ofText (style : RegexStyle) (text : String) : Except String Regex :=
  ofPattern style (text.toList.map fun c => (c, false))

/-- The expression that only a text matches. -/
def exactly (style : RegexStyle) (text : String) : Regex :=
  text.toList.foldr (fun c rest => .both (.one (foldCase style (· = c))) rest) .nothing

/-- How many groups an expression has. -/
def groupCount : Regex → Nat
  | .group index inner => max index (groupCount inner)
  | .both first second => max (groupCount first) (groupCount second)
  | .either first second => max (groupCount first) (groupCount second)
  | .repeated inner _ _ => groupCount inner
  | _ => 0

end Regex

end ManifestPin.Shell
