import ManifestPin.CommandLine.ValuePattern
import ManifestPin.Event
import ManifestPin.Text.Alphanumeric
import ManifestPin.Text.Fields

/-! # Event filters

Which events are shown. A filter is directives, each of which shows the events of some targets up to
a level; of several the most specific one decides. -/

namespace ManifestPin.CommandLine

/-- A rule of a filter. -/
structure Directive where
  /-- What the targets of the events start with; nothing for all events. -/
  target : Option String
  /-- The fields that the events have. -/
  fields : List String
  /-- The rank of the least urgent level that is shown. -/
  rank : Nat
  deriving DecidableEq, Repr

namespace Directive

/-- Whether a directive is about an event. -/
def concerns (directive : Directive) (event : Event) : Bool :=
  (directive.target.all fun target => target.toList.isPrefixOf event.target.toList) &&
    directive.fields.all fun field =>
      field = "message" || event.fields.any fun entry => entry.1 = field

/-- How specific a directive is: by its target's length, then by how many fields it names. -/
def compare (a b : Directive) : Ordering :=
  let weight (directive : Directive) : Nat :=
    match directive.target with
    | none => 0
    | some target => target.utf8ByteSize + 1
  (Ord.compare (weight a) (weight b)).then
    ((Ord.compare a.fields.length b.fields.length).then
      ((Ord.compare (a.target.getD "") (b.target.getD "")).then (Ord.compare a.fields b.fields)))

end Directive

/-- A filter of events. -/
abbrev Filter := List Directive

namespace Filter

/-- The most specific directive about an event; of equal ones, the last. -/
def directive? (filter : Filter) (event : Event) : Option Directive :=
  filter.foldl
    (fun found directive =>
      if directive.concerns event then
        match found with
        | none => some directive
        | some best => if (directive.compare best).isGE then some directive else some best
      else found)
    none

/-- Whether an event is shown. -/
def shows (filter : Filter) (event : Event) : Bool :=
  (filter.directive? event).any fun directive => event.level.rank ≤ directive.rank

/-- The filter that shows all events up to a level. -/
def upTo (rank : Nat) : Filter :=
  [{ target := none, fields := [], rank }]

/-- The rank of the least urgent level that a text names, by word or number. -/
def rank? (text : List Char) : Option Nat :=
  let byNumber :=
    match Numeral.read text with
    | .ok number => if number ≤ 5 then some number else none
    | .error _ => none
  byNumber.orElse fun _ =>
    match String.ofList (text.map Char.toLower) with
    | "off" => some 0
    | "error" => some 1
    | "warn" => some 2
    | "info" => some 3
    | "debug" => some 4
    | "trace" => some 5
    | _ => none

/-- The rank behind an equals sign, where nothing means all levels. -/
def givenRank? (text : List Char) : Option Nat :=
  if text.isEmpty then some Level.trace.rank else rank? text

/-- How many octets the characters of a text take up. -/
def width : List Char → Nat
  | [] => 0
  | c :: rest => c.utf8Size + width rest

/-- The text from a position on. Positions count octets. -/
def textFrom : Nat → List Char → List Char
  | 0, text => text
  | _ + 1, [] => []
  | position + 1, c :: rest => textFrom (position + 1 - c.utf8Size) rest

/-- The text up to a position. Positions count octets. -/
def textTo (position : Nat) (text : List Char) : List Char :=
  text.take (text.length - (textFrom position text).length)

/-- A directive in the course of reading. Where its parts meet is looked for without the blanks
around it, but the parts are cut from the text with them. -/
structure Cursor where
  /-- The text with the blanks around it. -/
  whole : List Char
  /-- What is left of the text without them. -/
  rest : List Char
  /-- How many octets of the text without blanks were passed. -/
  position : Nat

namespace Cursor

/-- The cursor behind a number of characters. -/
def pass (cursor : Cursor) (count : Nat) : Cursor :=
  { cursor with
    rest := cursor.rest.drop count
    position := cursor.position + width (cursor.rest.take count) }

/-- The text from a position up to the cursor. -/
def since (cursor : Cursor) (start : Nat) : List Char :=
  textFrom start (textTo cursor.position cursor.whole)

/-- All text from the cursor on. -/
def remainder (cursor : Cursor) : List Char :=
  textFrom cursor.position cursor.whole

/-- The cursor in front of the next of some characters. -/
def upTo (cursor : Cursor) (stops : List Char) : Cursor :=
  cursor.pass (cursor.rest.takeWhile fun c => !stops.contains c).length

end Cursor

/-- What a directive says about spans and fields. -/
structure Scope where
  /-- Whether it is about events within a span of some name. -/
  named : Bool
  /-- A field, and whether the directive asks for its value. -/
  field : Option (String × Bool)

/-- Reads a field: a name, and behind an equals sign a pattern of its value. -/
def readField (text : List Char) : Option (String × Bool) :=
  match Text.splitAt '=' text with
  | name :: value :: _ =>
    if ValuePattern.isReadable value then some (String.ofList name, true) else none
  | _ => if text.isEmpty then none else some (String.ofList text, false)

/-- Reads the scope of a directive, from behind its opening bracket to behind the closing one. -/
def readScope (cursor : Cursor) : Option (Scope × Cursor) :=
  let stop := cursor.upTo [']', '\x7b']
  let named := !(stop.since cursor.position).isEmpty
  match stop.rest with
  | ']' :: _ => some ({ named := true, field := none }, stop.pass 1)
  | '\x7b' :: _ => do
    let start := stop.pass 1
    let stop := start.upTo ['\x7d']
    match stop.rest with
    | _ :: ']' :: _ =>
      let field ← readField (stop.since start.position)
      return ({ named, field := some field }, stop.pass 2)
    | _ => none
  | _ => none

/-- The directives of a target, a scope and a rank: none if the scope is about spans or values, as
no event happens in a span and only spans have values that are looked at. -/
def inScope (target : Option String) (scope : Scope) (rank : Nat) : List Directive :=
  match scope with
  | { named := false, field := some (name, false) } => [{ target, fields := [name], rank }]
  | _ => []

/-- Reads a directive behind its target and the opening bracket of its scope. -/
def readScoped (target : Option String) (cursor : Cursor) : Option (List Directive) := do
  let (scope, cursor) ← readScope cursor
  match cursor.rest with
  | [] => return inScope target scope Level.trace.rank
  | '=' :: _ => return inScope target scope (← givenRank? (cursor.pass 1).remainder)
  | _ => none

/-- Whether a directive's target or level may start with a character. -/
def startsDirective (c : Char) : Bool :=
  c = '-' || c = ':' || c = '_' || Text.isAlphanumeric c

/-- Reads one directive. -/
def readDirective (text : List Char) : Option (List Directive) :=
  let cursor : Cursor := { whole := text, rest := Text.trim text, position := 0 }
  match cursor.rest with
  | [] => none
  | '[' :: _ => readScoped none (cursor.pass 1)
  | c :: _ =>
    if !startsDirective c then none
    else
      let stop := cursor.upTo ['=', '[']
      let target := some (String.ofList (stop.since 0))
      match stop.rest with
      | '=' :: _ => do
        let rank ← givenRank? (stop.pass 1).remainder
        return [{ target, fields := [], rank }]
      | '[' :: _ => readScoped target (stop.pass 1)
      | _ =>
        match rank? text with
        | some rank => some [{ target := none, fields := [], rank }]
        | none =>
          some [{ target := some (String.ofList text), fields := [], rank := Level.trace.rank }]

/-- Reads directives separated by commas. Empty ones are passed over, and without any nothing is
shown. -/
def parse? (text : String) : Option Filter := do
  let pieces := (Text.splitAt ',' text.toList).filter fun piece => !piece.isEmpty
  let directives ← pieces.mapM readDirective
  return directives.flatten

end Filter

end ManifestPin.CommandLine
