import ManifestPin.Files.Walk
import ManifestPin.Shell.Octets

/-! # Patterns

The patterns that words are matched with, against texts and against the names of files. The
characters of a pattern come with whether they are quoted, and then stand for themselves. -/

namespace ManifestPin.Shell

/-- A pattern: its characters, each with whether it is quoted. -/
abbrev Pattern := List (Char × Bool)

/-- One item of a pattern. -/
inductive Item where
  /-- One character of a class. -/
  | one (accepts : Char → Bool)
  /-- Any characters. -/
  | many
  /-- Patterns to choose from, and a character that tells how often. -/
  | group (kind : Char) (choices : List (List Item))

/-- The class of characters of a name. -/
def namedClass? (name : String) : Option (Char → Bool) :=
  let isPunctuation (c : Char) : Bool := '!' ≤ c && c ≤ '~' && !c.isAlphanum
  match name with
  | "alpha" => some Char.isAlpha
  | "digit" => some Char.isDigit
  | "alnum" => some Char.isAlphanum
  | "upper" => some Char.isUpper
  | "lower" => some Char.isLower
  | "space" => some isSpace
  | "blank" => some isBlank
  | "punct" => some isPunctuation
  | "print" => some fun c => ' ' ≤ c && c ≤ '~'
  | "graph" => some fun c => '!' ≤ c && c ≤ '~'
  | "cntrl" => some fun c => c < ' ' || c = '\x7f'
  | "xdigit" => some fun c => digitValue c < 16
  | _ => none

namespace Pattern

/-- A class name between colons behind a bracket, and what follows its closing bracket. -/
def readClassName (text : Pattern) : Option ((Char → Bool) × Pattern) :=
  let name := text.takeWhile fun entry => entry.1.isAlpha
  match text.drop name.length with
  | (':', _) :: (']', _) :: rest =>
    (namedClass? (String.ofList (name.map (·.1)))).map fun accepts => (accepts, rest)
  | _ => none

/-- The members of a class up to its closing bracket, and what follows that. -/
def readMembers : (fuel : Nat) → Pattern → List (Char → Bool) → (first : Bool) →
    Option (List (Char → Bool) × Pattern)
  | 0, _, _, _ => none
  | fuel + 1, text, found, first =>
    match text with
    | [] => none
    | (']', false) :: rest =>
      if first then readMembers fuel rest ((· = ']') :: found) false else some (found, rest)
    | ('[', false) :: (':', q) :: rest =>
      match readClassName rest with
      | some (accepts, rest) => readMembers fuel rest (accepts :: found) false
      | none => readMembers fuel ((':', q) :: rest) ((· = '[') :: found) false
    | ('\\', false) :: (c, _) :: rest => readMembers fuel ((c, true) :: rest) found false
    | (low, _) :: ('-', false) :: (high, quoted) :: rest =>
      if high = ']' && !quoted then
        readMembers fuel ((']', false) :: rest) ((· = '-') :: (· = low) :: found) false
      else
        let (high, rest) : Char × Pattern :=
          match high, quoted, rest with
          | '\\', false, (c, _) :: rest => (c, rest)
          | high, _, rest => (high, rest)
        readMembers fuel rest ((fun c => low ≤ c && c ≤ high) :: found) false
    | (c, _) :: rest => readMembers fuel rest ((· = c) :: found) false

/-- The class behind an opening bracket, and the pattern behind it. -/
def readClass (text : Pattern) : Option ((Char → Bool) × Pattern) :=
  let negated := text.head? = some ('!', false) || text.head? = some ('^', false)
  let body := if negated then text.drop 1 else text
  (readMembers (2 * body.length + 2) body [] true).map fun (members, rest) =>
    (fun c => (members.any fun accepts => accepts c) != negated, rest)

/-- The patterns between parentheses and bars, and the pattern behind them. -/
def readChoices : (depth : Nat) → Pattern → Option (List Pattern × Pattern)
  | _, [] => none
  | depth, (c, quoted) :: rest =>
    let extend (found : List Pattern × Pattern) : List Pattern × Pattern :=
      match found with
      | (first :: more, rest) => (((c, quoted) :: first) :: more, rest)
      | ([], rest) => ([[(c, quoted)]], rest)
    if quoted then (readChoices depth rest).map extend
    else
      match c, depth with
      | '(', depth => (readChoices (depth + 1) rest).map extend
      | ')', 0 => some ([[]], rest)
      | ')', depth + 1 => (readChoices depth rest).map extend
      | '|', 0 => (readChoices 0 rest).map fun (choices, rest) => ([] :: choices, rest)
      | _, depth => (readChoices depth rest).map extend

/-- Whether a character tells how often patterns in parentheses occur. -/
def isRepeater (c : Char) : Bool :=
  c = '?' || c = '*' || c = '+' || c = '@' || c = '!'

/-- The items of a pattern. Patterns in parentheses are known on request. -/
def items (grouped : Bool) : (fuel : Nat) → Pattern → List Item
  | 0, _ => []
  | _ + 1, [] => []
  | fuel + 1, (c, quoted) :: rest =>
    let itself (_ : Unit) : List Item := .one (· = c) :: items grouped fuel rest
    let single (_ : Unit) : List Item :=
      if c = '*' then .many :: items grouped fuel rest
      else if c = '?' then .one (fun _ => true) :: items grouped fuel rest
      else if c = '[' then
        match readClass rest with
        | some (accepts, rest) => .one accepts :: items grouped fuel rest
        | none => itself ()
      else if c = '\\' then
        match rest with
        | (escaped, _) :: rest => .one (· = escaped) :: items grouped fuel rest
        | [] => itself ()
      else itself ()
    if quoted then itself ()
    else
      match grouped && isRepeater c, rest with
      | true, ('(', false) :: inner =>
        match readChoices 0 inner with
        | some (choices, rest) =>
          .group c (choices.map (items grouped fuel)) :: items grouped fuel rest
        | none => single ()
      | _, _ => single ()

/-- A text and all its endings. -/
def endings : List Char → List (List Char)
  | [] => [[]]
  | c :: rest => (c :: rest) :: endings rest

/-- Endings of one text, each only once. -/
def distinct (rests : List (List Char)) : List (List Char) :=
  rests.foldl
    (fun found rest =>
      if found.any fun other => other.length = rest.length then found else found ++ [rest])
    []

/-- The longest of several texts. -/
def longest? (texts : List (List Char)) : Option (List Char) :=
  texts.foldl
    (fun found text =>
      match found with
      | some longest => if longest.length < text.length then some text else found
      | none => some text)
    none

/-- What may be left of texts behind an item. Groups nest at most `fuel` levels and repeat at most
as often. -/
def behindItem : (fuel : Nat) → Item → List (List Char) → List (List Char)
  | _, .one accepts, texts =>
    texts.filterMap fun text =>
      match text with
      | [] => none
      | c :: rest => if accepts c then some rest else none
  | _, .many, texts =>
    match longest? texts with
    | some text => endings text
    | none => []
  | 0, .group .., _ => []
  | fuel + 1, .group kind choices, texts =>
    let once (texts : List (List Char)) : List (List Char) :=
      distinct (choices.flatMap fun choice =>
        choice.foldl (fun texts item => behindItem fuel item texts) texts)
    let repeated (texts : List (List Char)) : List (List Char) :=
      (List.range fuel).foldl
        (fun (all, fresh) _ =>
          let next := (once fresh).filter fun text =>
            !all.any fun other => other.length = text.length
          (all ++ next, next))
        (texts, texts) |>.1
    if kind = '@' then once texts
    else if kind = '?' then distinct (texts ++ once texts)
    else if kind = '*' then repeated texts
    else if kind = '+' then repeated (once texts)
    else
      texts.flatMap fun text =>
        let refused := once [text]
        (endings text).filter fun rest =>
          !refused.any fun other => other.length = rest.length

/-- What may be left of a text behind items. -/
def behind (items : List Item) (text : List Char) : List (List Char) :=
  items.foldl (fun texts item => behindItem (text.length + 20) item texts) [text]

/-- What may be left of a text behind a pattern. -/
def rests (grouped : Bool) (pattern : Pattern) (text : List Char) : List (List Char) :=
  behind (items grouped (pattern.length + 1) pattern) text

/-- Whether a text matches a pattern. -/
def accepts (grouped : Bool) (pattern : Pattern) (text : String) : Bool :=
  (rests grouped pattern text.toList).any List.isEmpty

/-- The value without its start that matches a pattern. -/
def withoutStart (grouped longest : Bool) (pattern : Pattern) (value : String) : String :=
  let lengths := (rests grouped pattern value.toList).map List.length
  let kept : Option Nat := if longest then lengths.min? else lengths.max?
  match kept with
  | some length => String.ofList (value.toList.drop (value.length - length))
  | none => value

/-- The value without its end that matches a pattern. -/
def withoutEnd (grouped longest : Bool) (pattern : Pattern) (value : String) : String :=
  let items := items grouped (pattern.length + 1) pattern
  let candidates := endings value.toList
  let ordered := if longest then candidates else candidates.reverse
  match ordered.find? fun text => (behind items text).any List.isEmpty with
  | some text => String.ofList (value.toList.take (value.length - text.length))
  | none => value

/-- The value with matches of a pattern replaced. A match is as long as possible. -/
def replace (grouped everywhere : Bool) (pattern : Pattern) (replacement value : String) :
    String :=
  let items := items grouped (pattern.length + 1) pattern
  let rec go : Nat → List Char → List Char → List Char
    | 0, text, found => found.reverse ++ text
    | _ + 1, [], found => found.reverse
    | fuel + 1, c :: rest, found =>
      match ((behind items (c :: rest)).map List.length).min? with
      | some length =>
        if length = rest.length + 1 then go fuel rest (c :: found)
        else
          let after := (c :: rest).drop (rest.length + 1 - length)
          let found := replacement.toList.reverse ++ found
          if everywhere then go fuel after found else found.reverse ++ after
      | none => go fuel rest (c :: found)
  String.ofList (go (value.length + 1) value.toList [])

/-- Whether a pattern may match more than one text. -/
def isWild (pattern : Pattern) : Bool :=
  pattern.any fun (c, quoted) => !quoted && (c = '*' || c = '?' || c = '[')

/-- The text of a pattern. -/
def text (pattern : Pattern) : String :=
  String.ofList (pattern.map (·.1))

/-- The text that a pattern without wild characters matches. -/
def unescaped : Pattern → List Char
  | [] => []
  | ('\\', false) :: (c, _) :: rest => c :: unescaped rest
  | (c, _) :: rest => c :: unescaped rest

/-- The pieces of a pattern between its slashes. -/
def pieces : Pattern → List Pattern
  | [] => [[]]
  | (c, quoted) :: rest =>
    match pieces rest with
    | [] => [[(c, quoted)]]
    | piece :: more => if c = '/' then [] :: piece :: more else ((c, quoted) :: piece) :: more

/-- The paths that match the pieces of a pattern below a path. The directory itself and the one above
it are among them if `dots` holds. -/
def below (grouped dots : Bool) (tree : Tree) : List Pattern → String → List String
  | [], path => [path]
  | piece :: more, path =>
    let close (path : String) : String := if more.isEmpty then path else path ++ "/"
    if isWild piece || (grouped && piece.any fun entry => entry = ('(', false)) then
      let directory := if path = "" then "." else path
      match tree.resolve (gather directory) with
      | .error _ => []
      | .ok location =>
        let hidden := (piece.head?.map (·.1)) = some '.'
        let listed := (tree.names location).map spread
        let own := if hidden && dots then [".", ".."] else []
        let names := (listed ++ own).filter fun name =>
          accepts grouped piece name && (hidden || name.toList.head? ≠ some '.')
        (names.mergeSort fun a b => a ≤ b).flatMap fun name =>
          below grouped dots tree more (close (path ++ name))
    else below grouped dots tree more (close (path ++ String.ofList (unescaped piece)))

/-- Whether a path leads to an entry, be it a link. -/
def leads (tree : Tree) (path : String) : Bool :=
  match tree.slot? path with
  | .ok (some slot) =>
    (tree.get? slot.location).isSome && (!slot.slash || tree.isDirectory path)
  | .ok none => (tree.entry path).toOption.isSome
  | .error _ => false

/-- The paths that match a pattern, in order. -/
def paths (grouped dots : Bool) (tree : Tree) (pattern : Pattern) : List String :=
  if isWild pattern || (grouped && pattern.any fun entry => entry = ('(', false)) then
    (below grouped dots tree (pieces pattern) "").filter fun path => leads tree (gather path)
  else []

end Pattern

end ManifestPin.Shell
