import ManifestPin.Shell.Machine

/-! # Expanded words

What becomes of a word once its parameters are known: glyphs, which are joined to a text, read as a
pattern, or split into fields. -/

namespace ManifestPin.Shell

/-- A piece of an expanded word. -/
inductive Glyph where
  /-- A character of the script, which may be part of a pattern. -/
  | plain (c : Char)
  /-- A character that stands for itself. -/
  | quoted (c : Char)
  /-- A character of a value, which may separate fields or be part of a pattern. -/
  | result (c : Char)
  /-- Nothing, but a field all the same. -/
  | mark
  /-- The end of a field. -/
  | boundary
  /-- A blank between the elements of a list. -/
  | gap
  deriving DecidableEq

namespace Glyph

/-- The character of a glyph, and whether it stands for itself. -/
def char? : Glyph → Option (Char × Bool)
  | .plain c => some (c, false)
  | .quoted c => some (c, true)
  | .result c => some (c, false)
  | .mark => none
  | .boundary => some (' ', true)
  | .gap => some (' ', true)

/-- Glyphs as a pattern. -/
def pattern (glyphs : List Glyph) : Pattern :=
  glyphs.filterMap char?

/-- Glyphs as a text. -/
def text (glyphs : List Glyph) : String :=
  String.ofList (glyphs.filterMap fun glyph => glyph.char?.map (·.1))

/-- The glyphs of a value. -/
def ofValue (quoted : Bool) (text : String) : List Glyph :=
  text.toList.map fun c => if quoted then .quoted c else .result c

/-- How a glyph separates fields: not at all, as a blank, or on its own. -/
inductive Separation where
  | none
  | blank
  | own
  deriving DecidableEq

/-- How a glyph separates fields. -/
def separation (separators : List Char) : Glyph → Separation
  | .gap => .blank
  | .result c =>
    if !separators.contains c then .none
    else if c = ' ' || c = '\t' || c = '\n' then .blank
    else .own
  | _ => .none

/-- Passes the separators behind one that ended a field: blanks, and one of the other kind behind
blanks. -/
def skipSeparators (separators : List Char) : (single : Bool) → List Glyph → List Glyph
  | _, [] => []
  | single, glyph :: rest =>
    match separation separators glyph with
    | .blank => skipSeparators separators single rest
    | .own => if single then skipSeparators separators false rest else glyph :: rest
    | .none => glyph :: rest

/-- Passing separators leaves no more than there was. -/
theorem length_skipSeparators_le (separators : List Char) (single : Bool) (glyphs : List Glyph) :
    (skipSeparators separators single glyphs).length ≤ glyphs.length := by
  induction glyphs generalizing single with
  | nil => simp [skipSeparators]
  | cons glyph rest ih =>
    unfold skipSeparators
    split
    · exact Nat.le_succ_of_le (ih single)
    · split
      · exact Nat.le_succ_of_le (ih false)
      · exact Nat.le_refl _
    · exact Nat.le_refl _

/-- The fields of glyphs, where `held` is the current one in reverse. -/
def split (separators : List Char) (held : List Glyph) (glyphs : List Glyph) :
    List (List Glyph) :=
  match glyphs with
  | [] => if held.isEmpty then [] else [held.reverse]
  | .boundary :: rest =>
    if held.isEmpty then split separators [] rest else held.reverse :: split separators [] rest
  | glyph :: rest =>
    match separation separators glyph with
    | .none => split separators (glyph :: held) rest
    | .blank =>
      if held.isEmpty then split separators [] rest
      else held.reverse :: split separators [] (skipSeparators separators true rest)
    | .own => held.reverse :: split separators [] (skipSeparators separators false rest)
termination_by glyphs.length
decreasing_by
  all_goals simp only [List.length_cons]
  all_goals first
    | omega
    | exact Nat.lt_succ_of_le (length_skipSeparators_le ..)

/-- The fields of glyphs. -/
def fields (separators : List Char) (glyphs : List Glyph) : List (List Glyph) :=
  split separators [] glyphs

end Glyph

end ManifestPin.Shell
