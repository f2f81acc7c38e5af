/-! # Blanks, comments and line ends

What a document may hold between its keys and values. -/

namespace ManifestPin.Toml

/-- A blank within a line. -/
def isBlank (c : Char) : Bool :=
  c = ' ' || c = '\t'

/-- A character that a comment may hold. -/
def isCommentChar (c : Char) : Bool :=
  c = '\t' || (0x20 ≤ c.toNat && c.toNat ≠ 0x7F)

/-- The text after the blanks that it starts with. -/
def skipBlanks (text : List Char) : List Char :=
  text.dropWhile isBlank

/-- The text after a line end that it starts with. -/
def dropLineEnd? : List Char → Option (List Char)
  | '\n' :: rest => some rest
  | '\r' :: '\n' :: rest => some rest
  | _ => none

/-- The text after a comment that it may start with. -/
def skipComment (text : List Char) : List Char :=
  match text with
  | '#' :: rest => rest.dropWhile isCommentChar
  | text => text

/-- The text after the rest of a line that holds nothing but blanks and perhaps a comment. -/
def finishLine? (text : List Char) : Option (List Char) :=
  match skipComment (skipBlanks text) with
  | [] => some []
  | rest => dropLineEnd? rest

/-- The text after blanks, comments and line ends, of which at most `fuel` are passed. -/
def skipLinesUpTo : Nat → List Char → Option (List Char)
  | 0, text => some (skipBlanks text)
  | fuel + 1, text =>
    match skipBlanks text with
    | '#' :: rest => do
      let rest ← dropLineEnd? (rest.dropWhile isCommentChar)
      skipLinesUpTo fuel rest
    | '\n' :: rest => skipLinesUpTo fuel rest
    | '\r' :: rest => do
      let rest ← dropLineEnd? ('\r' :: rest)
      skipLinesUpTo fuel rest
    | rest => some rest

/-- The text after blanks, comments and line ends. A comment ends with its line. -/
def skipLines? (text : List Char) : Option (List Char) :=
  skipLinesUpTo text.length text

end ManifestPin.Toml
