import ManifestPin.Toml.Number

/-! # Dates and times

A moment is a date, a time of day, or both with perhaps an offset. -/

namespace ManifestPin.Toml

/-- Reads a number of exactly `count` digits between two bounds. -/
def readPart (count low high : Nat) (text : List Char) : Option (Nat × List Char) :=
  let digits := text.take count
  let value := valueOf 10 digits
  if digits.length = count && digits.all Char.isDigit && low ≤ value && value ≤ high then
    some (value, text.drop count)
  else none

/-- The text after a character that it has to start with. -/
def expect? (wanted : Char) (text : List Char) : Option (List Char) :=
  match text with
  | [] => none
  | c :: rest => if c = wanted then some rest else none

/-- How many days a month has. -/
def daysIn (year month : Nat) : Nat :=
  if month = 2 then
    if year % 4 = 0 && (year % 100 ≠ 0 || year % 400 = 0) then 29 else 28
  else if month = 4 || month = 6 || month = 9 || month = 11 then 30
  else 31

/-- The text after a date. -/
def dropDate? (text : List Char) : Option (List Char) := do
  let (year, rest) ← readPart 4 0 9999 text
  let rest ← expect? '-' rest
  let (month, rest) ← readPart 2 1 12 rest
  let rest ← expect? '-' rest
  let (_, rest) ← readPart 2 1 (daysIn year month) rest
  return rest

/-- The text after a fraction of a second that it may start with. A lone point is left. -/
def dropFraction (text : List Char) : List Char :=
  match text with
  | '.' :: c :: rest => if c.isDigit then rest.dropWhile Char.isDigit else text
  | text => text

/-- The text after a time of day, which has seconds. -/
def dropTime? (text : List Char) : Option (List Char) := do
  let (_, rest) ← readPart 2 0 23 text
  let rest ← expect? ':' rest
  let (_, rest) ← readPart 2 0 59 rest
  let rest ← expect? ':' rest
  let (_, rest) ← readPart 2 0 60 rest
  return dropFraction rest

/-- The text after an offset from universal time that it may start with. -/
def dropOffset? (text : List Char) : Option (List Char) :=
  match text with
  | [] => some []
  | c :: rest =>
    if c = 'Z' || c = 'z' then some rest
    else if c = '+' || c = '-' then do
      let (_, rest) ← readPart 2 0 23 rest
      let rest ← expect? ':' rest
      let (_, rest) ← readPart 2 0 59 rest
      return rest
    else some text

/-- Whether a character may stand between a date and a time. -/
def isTimeMark (c : Char) : Bool :=
  c = 'T' || c = 't' || c = ' '

/-- The text after a time and an offset behind a date, if it starts with a time. -/
def dropTimeOfDate? (text : List Char) : Option (List Char) :=
  match text with
  | [] => some []
  | c :: rest =>
    if isTimeMark c then
      match dropTime? rest with
      | some rest => dropOffset? rest
      | none => some text
    else some text

/-- The text after a moment. -/
def dropMoment? (text : List Char) : Option (List Char) :=
  match dropDate? text with
  | some rest => dropTimeOfDate? rest
  | none => dropTime? text

/-- Reads a moment. -/
def readMoment (text : List Char) : Option (String × List Char) :=
  (dropMoment? text).map fun rest =>
    (String.ofList (text.take (text.length - rest.length)), rest)

end ManifestPin.Toml
