import ManifestPin.Toml.Blank

/-! # Quoted values

Texts between quotation marks, with escapes, and between apostrophes, without; each on one line or,
between tripled marks, on several. -/

namespace ManifestPin.Toml

/-- What the characters read so far leave open in a text with escapes. -/
inductive Escape where
  /-- Nothing. -/
  | none
  /-- A backslash. -/
  | backslash
  /-- A code of which more digits are missing, less one, and its value so far. -/
  | code (missing value : Nat)
  /-- A backslash and blanks, which a line end must follow. -/
  | lineEnd
  /-- An escaped line end, with the blanks and line ends after it. -/
  | margin

/-- A character that stands for itself in a text without the given quotation mark. -/
def isPlain (mark c : Char) : Bool :=
  c ≠ mark && isCommentChar c

/-- The character that a letter after a backslash stands for. -/
def escapedChar? : Char → Option Char
  | 'b' => some '\x08'
  | 'f' => some '\x0c'
  | 'n' => some '\n'
  | 'r' => some '\r'
  | 't' => some '\t'
  | '\\' => some '\\'
  | '"' => some '"'
  | _ => none

/-- The value of a hexadecimal digit. -/
def hexValue? (c : Char) : Option Nat :=
  if c.isDigit then some (c.toNat - '0'.toNat)
  else if 'a' ≤ c && c ≤ 'f' then some (c.toNat - 'a'.toNat + 10)
  else if 'A' ≤ c && c ≤ 'F' then some (c.toNat - 'A'.toNat + 10)
  else none

/-- The character of a code, if there is one. -/
def charOfCode? (code : Nat) : Option Char :=
  if code < 0xD800 || (0xDFFF < code && code < 0x110000) then some (Char.ofNat code) else none

/-- The marks that belong to a text, and what follows it, where a run of marks closes it. The last
three of at most five marks close. -/
def closing? (mark : Char) (text : List Char) : Option (List Char × List Char) :=
  let run := (text.takeWhile (· = mark)).length
  if run < 3 then none
  else
    let kept := min (run - 3) 2
    some (List.replicate kept mark, text.drop (kept + 3))

/-- A reading with a character in front of its result. -/
def withChar (c : Char) (reading : Option (List Char × List Char)) :
    Option (List Char × List Char) :=
  reading.map fun read => (c :: read.1, read.2)

/-- Reads the rest of a text with escapes. -/
def escapedBody (multiline : Bool) : Escape → List Char → Option (List Char × List Char)
  | _, [] => none
  | .none, c :: rest =>
    if c = '"' then
      if multiline then
        (closing? '"' (c :: rest)).orElse fun _ => withChar '"' (escapedBody multiline .none rest)
      else some ([], rest)
    else if c = '\\' then escapedBody multiline .backslash rest
    else if multiline && c = '\n' then withChar '\n' (escapedBody multiline .none rest)
    else if multiline && c = '\r' && rest.head? = some '\n' then escapedBody multiline .none rest
    else if isPlain '"' c then withChar c (escapedBody multiline .none rest)
    else none
  | .backslash, c :: rest =>
    if c = 'u' then escapedBody multiline (.code 3 0) rest
    else if c = 'U' then escapedBody multiline (.code 7 0) rest
    else if multiline && isBlank c then escapedBody multiline .lineEnd rest
    else if multiline && c = '\n' then escapedBody multiline .margin rest
    else if multiline && c = '\r' && rest.head? = some '\n' then
      escapedBody multiline .lineEnd rest
    else
      match escapedChar? c with
      | some meant => withChar meant (escapedBody multiline .none rest)
      | none => none
  | .code missing value, c :: rest =>
    match hexValue? c with
    | none => none
    | some digit =>
      match missing with
      | missing + 1 => escapedBody multiline (.code missing (value * 16 + digit)) rest
      | 0 =>
        match charOfCode? (value * 16 + digit) with
        | some meant => withChar meant (escapedBody multiline .none rest)
        | none => none
  | .lineEnd, c :: rest =>
    if isBlank c || (c = '\r' && rest.head? = some '\n') then escapedBody multiline .lineEnd rest
    else if c = '\n' then escapedBody multiline .margin rest
    else none
  | .margin, c :: rest =>
    if isBlank c || c = '\n' || (c = '\r' && rest.head? = some '\n') then
      escapedBody multiline .margin rest
    else if c = '"' then
      (closing? '"' (c :: rest)).orElse fun _ => withChar '"' (escapedBody multiline .none rest)
    else if c = '\\' then escapedBody multiline .backslash rest
    else if isPlain '"' c then withChar c (escapedBody multiline .none rest)
    else none

/-- Reads the rest of a text without escapes. -/
def literalBody (multiline : Bool) : List Char → Option (List Char × List Char)
  | [] => none
  | c :: rest =>
    if c = '\'' then
      if multiline then
        (closing? '\'' (c :: rest)).orElse fun _ => withChar '\'' (literalBody multiline rest)
      else some ([], rest)
    else if multiline && c = '\n' then withChar '\n' (literalBody multiline rest)
    else if multiline && c = '\r' && rest.head? = some '\n' then literalBody multiline rest
    else if isPlain '\'' c then withChar c (literalBody multiline rest)
    else none

/-- The text after a line end that may follow an opening mark. -/
def skipLineEnd (text : List Char) : List Char :=
  (dropLineEnd? text).getD text

/-- Reads a text on one line between its marks. -/
def readLineText (text : List Char) : Option (String × List Char) :=
  let body :=
    match text with
    | '"' :: rest => escapedBody false .none rest
    | '\'' :: rest => literalBody false rest
    | _ => none
  body.map fun read => (String.ofList read.1, read.2)

/-- Reads a text between its marks. -/
def readText (text : List Char) : Option (String × List Char) :=
  match text with
  | '"' :: '"' :: '"' :: rest =>
    (escapedBody true .none (skipLineEnd rest)).map fun read => (String.ofList read.1, read.2)
  | '\'' :: '\'' :: '\'' :: rest =>
    (literalBody true (skipLineEnd rest)).map fun read => (String.ofList read.1, read.2)
  | text => readLineText text

end ManifestPin.Toml
