import ManifestPin.Text.Lines

/-! # Pinned fields

A line declares a field when it is blanks, the field's key, an equals sign with blanks around it,
and a value between double quotes, then anything. -/

namespace ManifestPin

/-- A field that a manifest pins. -/
inductive Field where
  | version
  | hash
  deriving DecidableEq, Repr

/-- A line that declares a field, cut around the value. -/
structure FieldLine where
  /-- Everything up to the opening quote, which is included. -/
  lead : List Char
  /-- The value, which holds no quote. -/
  value : List Char
  /-- Everything from the closing quote on. -/
  tail : List Char
  deriving DecidableEq, Repr

namespace FieldLine

/-- The text of the line. -/
def text (line : FieldLine) : List Char :=
  line.lead ++ line.value ++ line.tail

/-- The line with another value. -/
def withValue (line : FieldLine) (value : List Char) : FieldLine :=
  { line with value }

end FieldLine

namespace Field

/-- The key that declares a field. -/
def key : Field → String
  | .version => "version"
  | .hash => "sha256"

/-- Reads a line that declares the field. -/
def readLine? (field : Field) (line : List Char) : Option FieldLine :=
  let indent := line.takeWhile Text.isBlank
  match Text.dropStart? field.key.toList (line.dropWhile Text.isBlank) with
  | none => none
  | some afterKey =>
    match afterKey.dropWhile Text.isBlank with
    | '=' :: afterEquals =>
      match afterEquals.dropWhile Text.isBlank with
      | '"' :: quoted =>
        match quoted.dropWhile (· ≠ '"') with
        | [] => none
        | tail@(_ :: _) =>
          some
            { lead := indent ++ field.key.toList ++ afterKey.takeWhile Text.isBlank ++ ['='] ++
                afterEquals.takeWhile Text.isBlank ++ ['"']
              value := quoted.takeWhile (· ≠ '"')
              tail }
      | _ => none
    | _ => none

/-- The value of the first line of a text that declares the field. -/
def valueIn? (field : Field) (content : List Char) : Option (List Char) :=
  (Text.lines content).findSome? fun line => (field.readLine? line).map FieldLine.value

/-- A segment with the field's value replaced, when it declares the field with the old value. All
line breaks at the end of the segment are kept. -/
def editSegment? (field : Field) (old new : List Char) (segment : List Char) :
    Option (List Char) :=
  match field.readLine? (Text.dropEndWhile Text.isLineBreak segment) with
  | some line =>
    if line.value = old then
      some ((line.withValue new).text ++ Text.takeEndWhile Text.isLineBreak segment)
    else none
  | none => none

/-- The segments with the first one edited that can be. -/
def editFirst? (field : Field) (old new : List Char) :
    List (List Char) → Option (List (List Char))
  | [] => none
  | segment :: more =>
    match field.editSegment? old new segment with
    | some edited => some (edited :: more)
    | none => (editFirst? field old new more).map (segment :: ·)

/-- A text with the old value replaced on the first line that declares the field with it. -/
def edit? (field : Field) (old new content : List Char) : Option (List Char) :=
  (field.editFirst? old new (Text.segments content)).map List.flatten

end Field

end ManifestPin
