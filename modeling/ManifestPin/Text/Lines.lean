import ManifestPin.Text.Blank

/-! # Lines

A text is the concatenation of its segments, each of which ends with a line feed except perhaps
the last. A line is a segment without its line feed and the carriage return before it. -/

namespace ManifestPin.Text

/-- The pieces of a text that end after each line feed. -/
def segments : List Char → List (List Char)
  | [] => []
  | c :: rest =>
    if c = '\n' then [c] :: segments rest
    else match segments rest with
      | [] => [[c]]
      | segment :: more => (c :: segment) :: more

/-- No character is lost between segments. -/
theorem flatten_segments (text : List Char) : (segments text).flatten = text := by
  induction text with
  | nil => rfl
  | cons c rest ih =>
    unfold segments
    split
    · simp [ih]
    · split
      · next none => simp [none] at ih; simp [ih]
      · next segment more same => rw [same] at ih; simpa using ih

/-- A segment without its line feed, and without one carriage return before that line feed. -/
def lineOf (segment : List Char) : List Char :=
  match segment.reverse with
  | '\n' :: '\r' :: rest => rest.reverse
  | '\n' :: rest => rest.reverse
  | _ => segment

/-- The lines of a text. A text that ends with a line feed has no empty last line. -/
def lines (text : List Char) : List (List Char) :=
  (segments text).map lineOf

/-- A character that can end a line. -/
def isLineBreak (c : Char) : Bool :=
  c = '\n' || c = '\r'

/-- Texts joined with a separator between neighbours. -/
def joinWith (separator : List Char) (texts : List (List Char)) : List Char :=
  separator.intercalate texts

end ManifestPin.Text
