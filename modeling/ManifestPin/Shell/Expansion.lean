import ManifestPin.Shell.Glyph
import ManifestPin.Shell.Parameter

/-! # Expansion

The words of a command are expanded: parameters, expressions and commands in them give way to what
they stand for, values are split into fields, and patterns to the paths that match them. -/

namespace ManifestPin.Shell

/-- Where a tilde stands for a directory. -/
inductive Tilde where
  | nowhere
  /-- At the start. -/
  | start
  /-- At the start and behind colons. -/
  | colons
  /-- Behind the first equals sign and behind colons after it. -/
  | assigned
  deriving DecidableEq

/-- What a word is expanded for. -/
structure Purpose where
  /-- Whether the word may become several fields. -/
  split : Bool
  tilde : Tilde
  /-- Whether the word stands in for a parameter. -/
  inner : Bool := false

/-- What expansion needs from the commands in words. -/
structure Powers where
  /-- Runs commands and gives what they write. -/
  capture : Command → Run String

namespace Expansion

/-- The elements of a list between separators. -/
def joinElements (machine : Machine) (values : List String) : String :=
  let separator : String :=
    match machine.text? "IFS" with
    | none => " "
    | some text => String.ofList (text.toList.take 1)
  separator.intercalate values

/-- The glyphs of the elements of a list. -/
def listGlyphs (machine : Machine) (purpose : Purpose) (quoted joined : Bool)
    (values : List String) : List Glyph :=
  if purpose.split && quoted && !joined then
    ((values.map fun value => Glyph.mark :: Glyph.ofValue true value).intersperse
      [.boundary]).flatten
  else if purpose.split && !quoted then
    ((values.map fun value => Glyph.ofValue false value).intersperse [.gap]).flatten
  else if machine.dialect = .extended && !joined then
    Glyph.ofValue quoted (" ".intercalate values)
  else Glyph.ofValue quoted (joinElements machine values)

/-- The directory of a user. -/
def homeOf? (machine : Machine) (user : String) : Option String :=
  match user, machine.dialect with
  | "", .standard => machine.text? "HOME"
  | "", .extended => some ((machine.text? "HOME").getD "/root")
  | "+", .extended => some machine.directory
  | "-", .extended => machine.text? "OLDPWD"
  | "root", _ => some "/root"
  | _, _ => none

/-- The glyphs of a text in which tildes may stand for directories. Behind the last one more of the
word follows if `open'` holds. -/
def tildeGlyphs (machine : Machine) (colons open' : Bool) (literal : Char → Glyph) :
    (fuel : Nat) → (start : Bool) → List Char → List Glyph
  | 0, _, text => text.map literal
  | _ + 1, _, [] => []
  | fuel + 1, true, '~' :: rest =>
    let name := rest.takeWhile fun c => c ≠ '/' && !(colons && c = ':')
    let behind := rest.drop name.length
    match behind.isEmpty && open', homeOf? machine (String.ofList name) with
    | false, some home =>
      Glyph.ofValue true home ++ tildeGlyphs machine colons open' literal fuel false behind
    | _, _ => literal '~' :: tildeGlyphs machine colons open' literal fuel false rest
  | fuel + 1, _, c :: rest =>
    literal c :: tildeGlyphs machine colons open' literal fuel (colons && c = ':') rest

/-- The glyphs of a literal part. -/
def literalGlyphs (machine : Machine) (purpose : Purpose) (isFirst isLast quoted : Bool)
    (text : String) : List Glyph :=
  let literal (c : Char) : Glyph :=
    if quoted then .quoted c
    else if purpose.inner && purpose.split then .result c
    else .plain c
  let chars := text.toList
  match purpose.tilde, quoted with
  | .start, false =>
    if isFirst && chars.head? = some '~' then
      tildeGlyphs machine false (!isLast) literal (chars.length + 1) true chars
    else chars.map literal
  | .colons, false =>
    tildeGlyphs machine true (!isLast) literal (chars.length + 1) isFirst chars
  | .assigned, false =>
    let name := if isFirst then chars.takeWhile (· ≠ '=') else []
    let value := chars.drop name.length
    let equals := if isFirst then value.take 1 else []
    (name ++ equals).map literal ++
      tildeGlyphs machine true (!isLast) literal (chars.length + 1) isFirst
        (value.drop equals.length)
  | _, _ => chars.map literal

/-- The status with which the extended shell ends because of a parameter that is not set. -/
def unsetStatus (machine : Machine) : Nat :=
  let isMain := machine.main.isNone && machine.process = machine.shell
  if isMain && !machine.isOn "errexit" then 127 else 1

/-- Refuses a parameter that has to be set. -/
def refuseUnset (name : String) : Run α := do
  if ← Run.isExtended then
    Run.report ((if isNumeral name then "$" ++ name else name) ++ ": unbound variable")
    Run.exit (unsetStatus (← get))
    throw .leave
  else Run.fail (name ++ ": parameter not set") 2

/-- The number of characters, or of elements. -/
def lengthOf (machine : Machine) (name : String) (place : Place) (values : List String) : Nat :=
  match place, machine.dialect with
  | .all _, _ => values.length
  | .whole, .extended =>
    if name = "@" || name = "*" then values.length else (values.head?.getD "").length
  | _, _ => (joinElements machine values).length

/-- A value with letters that match a pattern in capital or small letters. -/
def recase (upper everywhere : Bool) (pattern : Pattern) (value : String) : String :=
  let turn (c : Char) : Char :=
    if pattern.isEmpty || Pattern.accepts true pattern (String.singleton c) then
      (if upper then c.toUpper else c.toLower)
    else c
  match value.toList with
  | [] => value
  | c :: rest => String.ofList (turn c :: (if everywhere then rest.map turn else rest))

/-- A text as the extended shell would have to read it to get the same text. -/
def quoteText (text : String) : String :=
  let special (c : Char) : Bool := c < ' ' || '\x7e' < c
  let escape (c : Char) : String :=
    match c with
    | '\n' => "\\n"
    | '\t' => "\\t"
    | '\x0d' => "\\r"
    | '\x07' => "\\a"
    | '\x1b' => "\\E"
    | '\\' => "\\\\"
    | '\'' => "\\'"
    | c => if special c then "\\" ++ padStart 3 '0' (digitsOf 8 c.toNat) else String.singleton c
  if text.toList.any special then "$'" ++ String.join (text.toList.map escape) ++ "'"
  else "'" ++ text.replace "'" "'\\''" ++ "'"

/-- A value in the form that a letter names. -/
def formValue (form : Char) (value : String) : String :=
  match form with
  | 'U' => value.map Char.toUpper
  | 'u' => recase true false [] value
  | 'L' => value.map Char.toLower
  | 'Q' => quoteText value
  | 'E' => value
  | _ => value

/-- The part of a sequence from an offset on, with a number of elements at most or an end counted
from behind. -/
def slice (values : List α) (offset : Int) (count : Option Int) : Option (List α) :=
  let size : Int := values.length
  let start := if offset < 0 then size + offset else offset
  if start < 0 || size < start then some []
  else
    let rest := values.drop start.toNat
    match count with
    | none => some rest
    | some count =>
      if 0 ≤ count then some (rest.take count.toNat)
      else if start ≤ size + count then some (rest.take (size + count - start).toNat)
      else none

/-- The message of a parameter that has to be set. -/
def requiredMessage (dialect : Dialect) (emptyToo : Bool) : String :=
  match dialect, emptyToo with
  | _, false => "parameter not set"
  | .standard, true => "parameter not set or null"
  | .extended, true => "parameter null or not set"

/-- How the words within a word are expanded. -/
structure Nested where
  glyphs : Purpose → List Part → Run (List Glyph)

/-- The text of a word within a word. -/
def Nested.text (nested : Nested) (parts : List Part) : Run String := do
  return Glyph.text (← nested.glyphs { split := false, tilde := .start, inner := true } parts)

/-- The pattern of a word within a word. -/
def Nested.pattern (nested : Nested) (parts : List Part) : Run Pattern := do
  return Glyph.pattern (← nested.glyphs { split := false, tilde := .start, inner := true } parts)

/-- A parameter once its values are known. -/
structure Found where
  name : String
  place : Place
  /-- The values, unless the parameter is not set. -/
  values? : Option (List String)
  /-- Whether the values are the elements of a list, and are joined to one text. -/
  listed : Option Bool

/-- The values of a parameter. -/
def find (nested : Nested) (name : String) (place : Place) : Run Found := do
  let machine ← get
  match place with
  | .all joined =>
    let values := machine.elements name
    return { name, place, values? := if values.isEmpty then none else some values
             listed := some joined }
  | .element subscript =>
    let key ← nested.text subscript
    let value? : Option String :=
      match machine.value? name with
      | some (.table entries) => entries.lookup key
      | value =>
        (Run.subscriptNumber machine (Run.listEnd value) key).bind fun index =>
          (Machine.entriesOf value).lookup index
    return { name, place, values? := value?.map fun value => [value], listed := none }
  | .whole =>
    if name = "@" || name = "*" then
      let values := machine.arguments
      return { name, place, values? := if values.isEmpty then none else some values
               listed := some (name = "*") }
    else
      return { name, place, values? := (machine.parameter? name).map fun value => [value]
               listed := none }

/-- The glyphs of the values of a parameter. -/
def Found.glyphs (found : Found) (machine : Machine) (purpose : Purpose) (quoted : Bool)
    (values : List String) : List Glyph :=
  match found.listed with
  | some joined => listGlyphs machine purpose quoted joined values
  | none => Glyph.ofValue quoted (values.head?.getD "")

/-- The name that messages show. -/
def Found.shownName (found : Found) : String :=
  match found.place with
  | .all true => found.name ++ "[*]"
  | .all false => found.name ++ "[@]"
  | .element subscript => found.name ++ "[" ++ String.join (subscript.map Part.written) ++ "]"
  | .whole => found.name

/-- Refuses a parameter that is not set, where parameters have to be. -/
def Found.check (found : Found) : Run Unit := do
  let machine ← get
  if machine.isOn "nounset" && found.values?.isNone && found.listed.isNone then
    refuseUnset found.shownName

/-- Expands what stands in for a parameter. -/
def expandFallback (nested : Nested) (purpose : Purpose) (quoted : Bool) (found : Found)
    (kind : Fallback) (emptyToo : Bool) (word : List Part) : Run (List Glyph) := do
  let present : Bool :=
    match found.values? with
    | some values => !(emptyToo && values.length ≤ 1 && values.all (· = ""))
    | none => false
  let standIn : Run (List Glyph) :=
    nested.glyphs { purpose with tilde := if quoted then .nowhere else .start, inner := !quoted }
      word
  match kind, present with
  | .alternative, true => standIn
  | .alternative, false => return []
  | _, true => return found.glyphs (← get) purpose quoted (found.values?.getD [])
  | .value, false => standIn
  | .assign, false =>
    let text ← nested.text word
    if !isName found.name then
      if ← Run.isExtended then
        Run.report ("$" ++ found.name ++ ": cannot assign in this way")
        Run.exit 1
        throw .fault
      else Run.fail (found.name ++ ": bad variable name") 2
    match found.place with
    | .element subscript => Run.assignElement found.name (← nested.text subscript) text
    | _ => Run.assign found.name text
    return Glyph.ofValue quoted text
  | .required, false =>
    let text ← nested.text word
    let usual := requiredMessage (← get).dialect emptyToo
    let complaint := if text = "" then usual else text
    if ← Run.isExtended then
      Run.report (found.shownName ++ ": " ++ complaint)
      Run.exit (unsetStatus (← get))
      throw .leave
    else Run.fail (found.name ++ ": " ++ complaint) 2

/-- Expands a slice of a parameter. -/
def expandSlice (nested : Nested) (purpose : Purpose) (quoted : Bool) (found : Found)
    (offset : List Part) (count : Option (List Part)) : Run (List Glyph) := do
  let offset ← Run.evaluate none (← nested.text offset)
  let count : Option Int ← (do
    match count with
    | some count => return some (← Run.evaluate none (← nested.text count))
    | none => return none)
  let machine ← get
  let refuse : Run (List Glyph) := do
    Run.report (toString (count.getD 0) ++ ": substring expression < 0")
    Run.exit 1
    throw .fault
  match found.listed with
  | some joined =>
    let values := found.values?.getD []
    let values : List String :=
      match found.place with
      | .whole => machine.name :: values
      | _ => values
    match slice values offset count with
    | some values => return listGlyphs machine purpose quoted joined values
    | none => refuse
  | none =>
    match slice ((found.values?.getD []).head?.getD "").toList offset count with
    | some chars => return Glyph.ofValue quoted (String.ofList chars)
    | none => refuse

/-- Expands a parameter by a rule. -/
def expandRule (nested : Nested) (purpose : Purpose) (quoted : Bool) (found : Found)
    (rule : ParameterRule) : Run (List Glyph) := do
  let each (change : String → String) : Run (List Glyph) := do
    found.check
    return found.glyphs (← get) purpose quoted ((found.values?.getD []).map change)
  match rule with
  | .value =>
    found.check
    return found.glyphs (← get) purpose quoted (found.values?.getD [])
  | .length =>
    found.check
    let machine ← get
    return Glyph.ofValue quoted
      (toString (lengthOf machine found.name found.place (found.values?.getD [])))
  | .orElse kind emptyToo word => expandFallback nested purpose quoted found kind emptyToo word
  | .without atEnd longest pattern =>
    let grouped ← Run.isExtended
    let pattern ← nested.pattern pattern
    each fun value =>
      if atEnd then Pattern.withoutEnd grouped longest pattern value
      else Pattern.withoutStart grouped longest pattern value
  | .slice offset count =>
    found.check
    expandSlice nested purpose quoted found offset count
  | .replaced scope pattern replacement =>
    let pattern ← nested.pattern pattern
    let replacement ← nested.text replacement
    each fun value =>
      match scope with
      | .first => Pattern.replace true false pattern replacement value
      | .everywhere => Pattern.replace true true pattern replacement value
      | .atStart =>
        let chars := value.toList
        if (Pattern.rests true pattern chars).isEmpty then value
        else replacement ++ Pattern.withoutStart true true pattern value
      | .atEnd =>
        let rest := Pattern.withoutEnd true true pattern value
        if rest = value && !Pattern.accepts true pattern "" then value else rest ++ replacement
  | .cased upper everywhere pattern =>
    let pattern ← nested.pattern pattern
    each (recase upper everywhere pattern)
  | .formed form => each (formValue form)
  | .subscripts =>
    let machine ← get
    return found.glyphs machine purpose quoted (machine.subscripts found.name)
  | .sameStart joined =>
    let machine ← get
    let names := (machine.bindings.map (·.name)).filter fun name => name.startsWith found.name
    return listGlyphs machine purpose quoted joined (names.mergeSort fun a b => a ≤ b)
  | .indirect _ => return []
  | .broken text =>
    if ← Run.isExtended then
      Run.report (text ++ ": bad substitution")
      Run.exit 1
      throw .fault
    else Run.fail "Bad substitution" 2

/-- Expands a parameter. -/
def expandParameter (nested : Nested) (purpose : Purpose) (quoted : Bool) (name : String)
    (place : Place) (rule : ParameterRule) : Run (List Glyph) := do
  match rule with
  | .indirect inner =>
    let found ← find nested name place
    match found.values? with
    | some (target :: _) =>
      let (name, subscript) := target.toList.span (· ≠ '[')
      let key := String.ofList ((subscript.drop 1).takeWhile (· ≠ ']'))
      let place : Place :=
        if subscript.isEmpty then .whole
        else if key = "@" then .all false
        else if key = "*" then .all true
        else .element [.literal true key]
      let target ← find nested (String.ofList name) place
      expandRule nested purpose quoted target inner
    | _ =>
      Run.report (name ++ ": invalid indirect expansion")
      Run.exit 1
      throw .fault
  | rule => expandRule nested purpose quoted (← find nested name place) rule

/-- A text without the line ends that it ends with, and without octets of the number zero. -/
def trimOutput (text : String) : String :=
  let chars := text.toList.filter (· ≠ '\x00')
  String.ofList (chars.reverse.dropWhile (· = '\n')).reverse

/-- The first descriptor from a number downwards that is not in use. -/
def freeDescriptor (machine : Machine) : (count : Nat) → Nat
  | 0 => 10
  | count + 1 =>
    if (machine.descriptors.lookup (count + 10)).isSome then freeDescriptor machine count
    else count + 10

/-- Expands a part of a word. -/
def expandPart (powers : Powers) (nested : Nested) (purpose : Purpose) (isFirst isLast : Bool)
    (part : Part) : Run (List Glyph) := do
  match part with
  | .literal quoted text => return literalGlyphs (← get) purpose isFirst isLast quoted text
  | .mark => return [.mark]
  | .parameter quoted name place rule => expandParameter nested purpose quoted name place rule
  | .arithmetic quoted parts =>
    let text := Glyph.text (← nested.glyphs { split := false, tilde := .nowhere } parts)
    return Glyph.ofValue quoted (toString (← Run.evaluate none text))
  | .substitution quoted body =>
    return Glyph.ofValue quoted (trimOutput (← powers.capture body))
  | .channel reads body =>
    let content ← (if reads then return "" else powers.capture body)
    let machine ← get
    let descriptor := freeDescriptor machine 54
    let (machine, index) := machine.addPipe (toOctets content)
    let stream := machine.streams.size
    let machine := machine.openStream descriptor (.pipe index)
    set (if reads then machine.enlist body (some stream) else machine)
    return Glyph.ofValue true ("/dev/fd/" ++ toString descriptor)

/-- Expands the parts of a word. Words within words go at most `fuel` levels deep. -/
def expandParts (powers : Powers) : (fuel : Nat) → Purpose → List Part → Run (List Glyph)
  | 0, _, _ => throw .exhausted
  | fuel + 1, purpose, parts => do
    let nested : Nested := { glyphs := expandParts powers fuel }
    let last := parts.length - 1
    let glyphs ← parts.zipIdx.mapM fun (part, index) =>
      expandPart powers nested purpose (index = 0) (index = last) part
    return glyphs.flatten

/-- How many levels words within words are expanded. -/
def depth : Nat :=
  1000

end Expansion

namespace Powers

/-- The text of a word. -/
def text (powers : Powers) (tilde : Tilde) (parts : List Part) : Run String := do
  let purpose : Purpose := { split := false, tilde }
  return Glyph.text (← Expansion.expandParts powers Expansion.depth purpose parts)

/-- The pattern of a word. -/
def pattern (powers : Powers) (parts : List Part) : Run Pattern := do
  let purpose : Purpose := { split := false, tilde := .start }
  return Glyph.pattern (← Expansion.expandParts powers Expansion.depth purpose parts)

/-- The paths that a field matches, or the field itself. -/
def paths (machine : Machine) (field : List Glyph) : List String :=
  let pattern := Glyph.pattern field
  let found : List String :=
    if machine.isOn "noglob" then []
    else
      Pattern.paths (machine.isOn "extglob") (machine.dialect = .standard) machine.tree pattern
  if !found.isEmpty then found
  else if machine.isOn "nullglob" && Pattern.isWild pattern then []
  else [Glyph.text field]

/-- The fields of a word. -/
def fields (powers : Powers) (tilde : Tilde) (parts : List Part) : Run (List String) := do
  let purpose : Purpose := { split := true, tilde }
  let glyphs ← Expansion.expandParts powers Expansion.depth purpose parts
  let machine ← get
  return (Glyph.fields machine.separators glyphs).flatMap (paths machine)

/-- The fields of words. -/
def words (powers : Powers) (words : List (List Part)) : Run (List String) := do
  return (← words.mapM (powers.fields .start)).flatten

end Powers

end ManifestPin.Shell
