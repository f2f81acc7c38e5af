/-! # Blanks and words

Blank characters, trimming, and the words of a text. -/

namespace ManifestPin.Text

/-- The characters of the Unicode property `White_Space`. -/
def blanks : List Char :=
  ['\t', '\n', '\x0b', '\x0c', '\r', ' ', '\u0085', '\u00a0', '\u1680', '\u2000', '\u2001',
    '\u2002', '\u2003', '\u2004', '\u2005', '\u2006', '\u2007', '\u2008', '\u2009', '\u200a',
    '\u2028', '\u2029', '\u202f', '\u205f', '\u3000']

/-- A blank separates words. -/
def isBlank (c : Char) : Bool :=
  blanks.contains c

/-- The text from its first character that is not blank. -/
def trimStart (text : List Char) : List Char :=
  text.dropWhile isBlank

/-- The text up to its last character that fails `drop`. -/
def dropEndWhile (drop : Char → Bool) (text : List Char) : List Char :=
  (text.reverse.dropWhile drop).reverse

/-- The longest ending of the text all of whose characters pass `take`. -/
def takeEndWhile (take : Char → Bool) (text : List Char) : List Char :=
  (text.reverse.takeWhile take).reverse

/-- A text is its part before a longest ending, then that ending. -/
theorem dropEndWhile_append_takeEndWhile (p : Char → Bool) (text : List Char) :
    dropEndWhile p text ++ takeEndWhile p text = text := by
  rw [dropEndWhile, takeEndWhile, ← List.reverse_append, List.takeWhile_append_dropWhile,
    List.reverse_reverse]

/-- The text without blanks at either end. -/
def trim (text : List Char) : List Char :=
  dropEndWhile isBlank (trimStart text)

/-- The maximal runs of characters that are not blank, in order. -/
def words : List Char → List (List Char)
  | [] => []
  | c :: rest =>
    if isBlank c then words rest
    else match rest with
      | [] => [[c]]
      | next :: _ =>
        if isBlank next then [c] :: words rest
        else match words rest with
          | [] => [[c]]
          | word :: more => (c :: word) :: more

/-- The text after `start`, when the text begins with it. -/
def dropStart? (start text : List Char) : Option (List Char) :=
  match start, text with
  | [], text => some text
  | _ :: _, [] => none
  | s :: start, c :: text => if s = c then dropStart? start text else none

/-- What follows a text that is dropped, and nothing else, remains. -/
theorem eq_append_of_dropStart? {start text rest : List Char}
    (h : dropStart? start text = some rest) : text = start ++ rest := by
  induction start generalizing text with
  | nil => simpa [dropStart?] using h
  | cons s start ih =>
    cases text with
    | nil => simp [dropStart?] at h
    | cons c text =>
      simp only [dropStart?] at h
      split at h
      · next same => rw [ih h, same, List.cons_append]
      · simp at h

/-- A text drops from in front of any other. -/
theorem dropStart?_append (start rest : List Char) :
    dropStart? start (start ++ rest) = some rest := by
  induction start with
  | nil => rfl
  | cons s start ih => simp [dropStart?, ih]

end ManifestPin.Text
