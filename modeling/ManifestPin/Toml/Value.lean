import ManifestPin.Decimal.Binary64
import ManifestPin.Text.Quoted

/-! # Document values

The values that a configuration document holds, and the tables that its lines build up. -/

namespace ManifestPin.Toml

/-- How a table came to be, which decides what later lines may add to it. -/
inductive Origin where
  /-- Written between braces; nothing is added. -/
  | closed
  /-- Stated by a header of its own. -/
  | stated
  /-- Implied by the header of a table inside it. -/
  | implied
  /-- Made by a dotted key. -/
  | dotted
  deriving DecidableEq, Repr

/-- A value of a document. -/
inductive Value where
  | text (value : String)
  | integer (value : Int)
  | float (value : Binary64)
  | boolean (value : Bool)
  /-- A date, a time, or both, as written. -/
  | moment (text : String)
  | sequence (values : List Value)
  | table (origin : Origin) (entries : List (String × Value))
  /-- The tables that headers in double brackets add one by one. -/
  | tables (elements : List (List (String × Value)))

/-- What a value is, without what it holds. -/
inductive Kind where
  | text (value : String)
  | integer (value : Int)
  | float (value : Binary64)
  | boolean (value : Bool)
  | sequence
  | map
  deriving DecidableEq, Repr

/-- How messages name a kind of value. -/
def Kind.description : Kind → String
  | .text value => "string " ++ Text.quote value
  | .integer value => "integer `" ++ toString value ++ "`"
  | .float value => "floating point `" ++ value.text ++ "`"
  | .boolean value => "boolean `" ++ (if value then "true" else "false") ++ "`"
  | .sequence => "sequence"
  | .map => "map"

/-- The keys of a table and their values, in the order in which the document states them. -/
abbrev Entries := List (String × Value)

namespace Value

/-- What a value is. A moment counts as a map. -/
def kind : Value → Kind
  | .text value => .text value
  | .integer value => .integer value
  | .float value => .float value
  | .boolean value => .boolean value
  | .moment _ => .map
  | .sequence _ => .sequence
  | .table .. => .map
  | .tables _ => .sequence

/-- The elements of a sequence. -/
def elements? : Value → Option (List Value)
  | .sequence values => some values
  | .tables elements => some (elements.map (.table .stated ·))
  | _ => none

/-- The entries of a map. A moment has none that a configuration asks for. -/
def entries? : Value → Option Entries
  | .table _ entries => some entries
  | .moment _ => some []
  | _ => none

end Value

namespace Entries

/-- The value under a key. -/
def get? (entries : Entries) (key : String) : Option Value :=
  (entries.find? fun entry => entry.1 = key).map (·.2)

/-- The entries with another value under a key that they have. -/
def set (entries : Entries) (key : String) (value : Value) : Entries :=
  entries.map fun entry => if entry.1 = key then (key, value) else entry

/-- The entries without a key. -/
def erase (entries : Entries) (key : String) : Entries :=
  entries.filter fun entry => entry.1 ≠ key

/-- The entries with a new key at the end. A key that is there already is refused. -/
def insert? (entries : Entries) (key : String) (value : Value) : Option Entries :=
  match entries.get? key with
  | some _ => none
  | none => some (entries ++ [(key, value)])

/-- Changes the table at the end of a path, starting from a table of the given origin. Tables that
are missing are made on the way. Closed tables are never entered; a dotted key also enters no table
that a header states. A path through tables added one by one leads to the last of them. -/
def changeAt (dotted : Bool) (change : Origin → Entries → Option Entries) :
    List String → Origin → Entries → Option Entries
  | [], origin, entries => change origin entries
  | key :: rest, _, entries =>
    match entries.get? key with
    | none => do
      let origin : Origin := if dotted then .dotted else .implied
      let inner ← changeAt dotted change rest origin []
      return entries ++ [(key, .table origin inner)]
    | some (.table origin inner) =>
      if origin = .closed || (dotted && origin = .stated) then none
      else do
        let inner ← changeAt dotted change rest origin inner
        return Entries.set entries key (.table origin inner)
    | some (.tables elements) =>
      match elements.reverse with
      | [] => none
      | last :: before => do
        let last ← changeAt dotted change rest .stated last
        return Entries.set entries key (.tables (before.reverse ++ [last]))
    | some _ => none

/-- Inserts a value under a dotted key. All but the last part lead through tables that dotted keys
made. -/
def insertDotted? (entries : Entries) (path : List String) (key : String) (value : Value) :
    Option Entries :=
  changeAt true
    (fun origin inner =>
      if (origin = .dotted) = !path.isEmpty then Entries.insert? inner key value else none)
    path .stated entries

end Entries

end ManifestPin.Toml
