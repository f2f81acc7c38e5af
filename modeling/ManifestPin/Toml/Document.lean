import ManifestPin.Text.Blank
import ManifestPin.Toml.Moment
import ManifestPin.Toml.Value

/-! # Documents

A document is lines that state a key and a value, or open a table. The tables that its lines build
up become one table of all its values. -/

namespace ManifestPin.Toml

/-- How many arrays and tables may be open at once. -/
def depthLimit : Nat :=
  79

/-- A character of a key that needs no quotation marks. -/
def isBareKeyChar (c : Char) : Bool :=
  c.isAlphanum || c = '-' || c = '_'

/-- Reads one part of a key. -/
def readKeyPart (text : List Char) : Option (String × List Char) :=
  match text with
  | '"' :: _ => readLineText text
  | '\'' :: _ => readLineText text
  | text =>
    match text.takeWhile isBareKeyChar with
    | [] => none
    | part => some (String.ofList part, text.dropWhile isBareKeyChar)

/-- Reads the parts of a key between dots, with blanks around each. At most `fuel + 1` parts are
read. -/
def readKeyUpTo : Nat → List Char → Option (List String × List Char)
  | fuel, text => do
    let (part, rest) ← readKeyPart (skipBlanks text)
    match fuel, skipBlanks rest with
    | 0, '.' :: _ => none
    | fuel + 1, '.' :: rest => do
      let (parts, rest) ← readKeyUpTo fuel rest
      return (part :: parts, rest)
    | _, rest => some ([part], rest)

/-- Reads a key: the parts before its last one, and that. -/
def readKey (text : List Char) : Option ((List String × String) × List Char) := do
  let (parts, rest) ← readKeyUpTo (depthLimit - 1) text
  match parts.reverse with
  | [] => none
  | last :: before => return ((before.reverse, last), rest)

/-- Reads a value that holds no other values. -/
def readScalar (text : List Char) : Option (Value × List Char) :=
  match text with
  | [] => none
  | c :: _ =>
    if c = '"' || c = '\'' then (readText text).map fun read => (.text read.1, read.2)
    else if c = 't' then (Text.dropStart? "true".toList text).map (.boolean true, ·)
    else if c = 'f' then (Text.dropStart? "false".toList text).map (.boolean false, ·)
    else
      ((readMoment text).map fun read => (Value.moment read.1, read.2)).orElse fun _ =>
        ((readFloat text).map fun read => (Value.float read.1, read.2)).orElse fun _ =>
          (readInteger text).map fun read => (.integer read.1, read.2)

/-- Reads the elements of an array up to its closing bracket, at most `fuel` of them. -/
def readElements (value : List Char → Option (Value × List Char)) :
    Nat → List Char → Option (List Value × List Char)
  | 0, _ => none
  | fuel + 1, text => do
    match ← skipLines? text with
    | ']' :: rest => return ([], rest)
    | rest => do
      let (first, rest) ← value rest
      match ← skipLines? rest with
      | ']' :: rest => return ([first], rest)
      | ',' :: rest => do
        let (more, rest) ← readElements value fuel rest
        return (first :: more, rest)
      | _ => none

/-- Reads the entries of a table between braces after those read so far, at most `fuel` of them.
A comma stands only between two entries. -/
def readPairs (value : List Char → Option (Value × List Char)) :
    Nat → Entries → List Char → Option (Entries × List Char)
  | 0, _, _ => none
  | fuel + 1, entries, text => do
    let ((path, key), rest) ← readKey text
    let rest ← expect? '=' rest
    let (given, rest) ← value (skipBlanks rest)
    let entries ← Entries.insertDotted? entries path key given
    match skipBlanks rest with
    | '}' :: rest => return (entries, rest)
    | ',' :: rest => readPairs value fuel entries rest
    | _ => none

/-- Reads a value in which at most `depth` arrays and tables are open at once. -/
def readValue : (depth : Nat) → List Char → Option (Value × List Char)
  | 0, text => readScalar text
  | depth + 1, text =>
    match text with
    | '[' :: rest =>
      (readElements (readValue depth) text.length rest).map fun read => (.sequence read.1, read.2)
    | '{' :: rest =>
      match skipBlanks rest with
      | '}' :: rest => some (.table .closed [], rest)
      | rest =>
        (readPairs (readValue depth) text.length [] rest).map fun read =>
          (.table .closed read.1, read.2)
    | text => readScalar text

/-- The tables that the lines of a document have built up so far. -/
structure Draft where
  /-- The finished tables. -/
  root : Entries
  /-- The entries of the table that is open. -/
  current : Entries
  /-- The key of the table that is open; none for the document itself. -/
  header : Option (List String × String)
  /-- Whether the open table is added to others of its key. -/
  repeated : Bool

namespace Draft

/-- The document before its first line. -/
def empty : Draft :=
  { root := [], current := [], header := none, repeated := false }

/-- Adds a table at the end of those under a key. -/
def addElement (key : String) (element : Entries) (entries : Entries) : Option Entries :=
  match entries.get? key with
  | none => some (entries ++ [(key, .tables [element])])
  | some (.tables elements) => some (Entries.set entries key (.tables (elements ++ [element])))
  | some _ => none

/-- Puts the open table in its place. -/
def close? (draft : Draft) : Option Entries :=
  match draft.header with
  | none => some draft.current
  | some (path, key) =>
    Entries.changeAt false
      (fun _ entries =>
        if draft.repeated then addElement key draft.current entries
        else Entries.insert? entries key (.table .stated draft.current))
      path .stated draft.root

/-- Makes sure that tables can be added under a key. -/
def allowElements (key : String) (entries : Entries) : Option Entries :=
  match entries.get? key with
  | none => some (entries ++ [(key, .tables [])])
  | some (.tables _) => some entries
  | some _ => none

/-- Opens a table that is added to others of its key. -/
def openElement? (draft : Draft) (path : List String) (key : String) : Option Draft := do
  let root ← draft.close?
  let root ← Entries.changeAt false (fun _ entries => allowElements key entries) path .stated root
  return { root, current := [], header := some (path, key), repeated := true }

/-- The entries of the table at the end of a path. -/
def entriesAt? : List String → Entries → Option Entries
  | [], entries => some entries
  | key :: rest, entries =>
    match entries.get? key with
    | some (.table _ inner) => entriesAt? rest inner
    | some (.tables elements) => elements.getLast?.bind (entriesAt? rest)
    | _ => none

/-- Opens a table. One that headers of tables inside it have implied is taken out of its place and
goes on with its entries. -/
def openTable? (draft : Draft) (path : List String) (key : String) : Option Draft := do
  let root ← draft.close?
  let root ← Entries.changeAt false (fun _ entries => some entries) path .stated root
  let siblings ← entriesAt? path root
  match siblings.get? key with
  | none => return { root, current := [], header := some (path, key), repeated := false }
  | some (.table .implied inner) => do
    let root ←
      Entries.changeAt false (fun _ entries => some (entries.erase key)) path .stated root
    return { root, current := inner, header := some (path, key), repeated := false }
  | some _ => none

/-- States a value under a key of the open table. -/
def insert? (draft : Draft) (path : List String) (key : String) (value : Value) :
    Option Draft := do
  let current ← Entries.insertDotted? draft.current path key value
  return { draft with current }

end Draft

/-- Reads one header, from behind its first bracket. -/
def readHeader (draft : Draft) (text : List Char) : Option (Draft × List Char) :=
  match text with
  | '[' :: rest => do
    let ((path, key), rest) ← readKey rest
    let rest ← expect? ']' rest
    let rest ← expect? ']' rest
    let rest ← finishLine? rest
    let draft ← draft.openElement? path key
    return (draft, rest)
  | rest => do
    let ((path, key), rest) ← readKey rest
    let rest ← expect? ']' rest
    let rest ← finishLine? rest
    let draft ← draft.openTable? path key
    return (draft, rest)

/-- Reads a line that states a value under a key. -/
def readStatement (draft : Draft) (text : List Char) : Option (Draft × List Char) := do
  let ((path, key), rest) ← readKey text
  let rest ← expect? '=' rest
  let (value, rest) ← readValue depthLimit (skipBlanks rest)
  let rest ← finishLine? rest
  let draft ← draft.insert? path key value
  return (draft, rest)

/-- Reads the lines of a document, at most `fuel` of them. -/
def readLines : Nat → Draft → List Char → Option Draft
  | 0, _, _ => none
  | fuel + 1, draft, text =>
    match skipBlanks text with
    | [] => some draft
    | '[' :: rest => do
      let (draft, rest) ← readHeader draft rest
      readLines fuel draft rest
    | c :: rest =>
      if c = '#' || c = '\n' || c = '\r' then do
        let rest ← finishLine? (c :: rest)
        readLines fuel draft rest
      else do
        let (draft, rest) ← readStatement draft (c :: rest)
        readLines fuel draft rest

/-- The table of all values of a document, unless the text is no document. A byte order mark may
stand in front. -/
def parse? (document : String) : Option Entries := do
  let text := document.toList
  let text := (Text.dropStart? ['\ufeff'] text).getD text
  let draft ← readLines (text.length + 1) Draft.empty text
  draft.close?

end ManifestPin.Toml
