import ManifestPin.Proofs.Text.Words
import ManifestPin.Proofs.Version.Grammar

/-! # The characters of version texts

A text that denotes a version consists of ASCII letters and digits, hyphens, dots and plus signs,
with blanks around them, whichever of the two grammars takes it.
-/

namespace ManifestPin

open Text (joinWith)

namespace Version

/-- The characters of versions. -/
def isCharacter (c : Char) : Bool :=
  c.isAlphanum || c = '-' || c = '.' || c = '+'

theorem not_isBlank_of_isCharacter {c : Char} (character : isCharacter c = true) :
    Text.isBlank c = false := by
  have strange : (Text.blanks.all fun blank => !isCharacter blank) = true := by decide
  by_contra blank
  rw [Bool.not_eq_false, Text.isBlank, List.contains_iff_mem] at blank
  have none := List.all_eq_true.mp strange c blank
  rw [character] at none
  contradiction

theorem isCharacter_of_isAllowed {c : Char} (allowed : Identifier.isAllowed c = true) :
    isCharacter c = true := by
  simp only [Identifier.isAllowed, isCharacter, Bool.or_eq_true] at allowed ⊢
  rcases allowed with letter | hyphen
  · exact .inl (.inl (.inl letter))
  · exact .inl (.inl (.inr hyphen))

theorem isCharacter_of_joinWith {pieces : List (List Char)}
    (characters : ∀ piece ∈ pieces, ∀ c ∈ piece, isCharacter c = true) :
    ∀ c ∈ joinWith ['.'] pieces, isCharacter c = true := by
  intro c member
  rcases Text.mem_joinWith member with rfl | ⟨piece, among, inside⟩
  · rfl
  · exact characters piece among c inside

theorem isCharacter_of_marked {mark : Char} {parts : List (List Char)}
    (character : isCharacter mark = true)
    (allowed : ∀ part ∈ parts, ∀ c ∈ part, Identifier.isAllowed c = true) :
    ∀ c ∈ marked mark parts, isCharacter c = true := by
  cases parts with
  | nil => nofun
  | cons part parts =>
      refine List.forall_mem_cons.mpr ⟨character, isCharacter_of_joinWith ?_⟩
      exact fun part among c inside => isCharacter_of_isAllowed (allowed part among c inside)

theorem isCharacter_of_numeral {numeral : Numeral} {c : Char} (member : c ∈ numeral.text) :
    isCharacter c = true := by
  have digits : ∀ c ∈ numeral.digits, isCharacter c = true := fun c inside =>
    isCharacter_of_isAllowed (Identifier.isAllowed_of_isDigit (numeral.fits.digit c inside))
  unfold Numeral.text at member
  split at member
  · rcases List.mem_cons.mp member with rfl | inside
    · rfl
    · exact digits c inside
  · exact digits c member

theorem isCharacter_of_spelling (spelling : Spelling) :
    ∀ c ∈ spelling.text, isCharacter c = true := by
  cases spelling with
  | semantic written =>
      refine List.forall_mem_append.mpr ⟨?_, List.forall_mem_append.mpr ⟨?_, ?_⟩⟩
      · refine isCharacter_of_joinWith fun number among c inside => ?_
        exact isCharacter_of_isAllowed ((written.isCore number among).allowed c inside)
      · exact isCharacter_of_marked rfl fun identifier among =>
          (written.isPreRelease identifier among).isMetadata.allowed
      · exact isCharacter_of_marked rfl fun identifier among =>
          (written.isMetadata identifier among).allowed
  | dotted written =>
      refine isCharacter_of_joinWith fun piece among c inside => ?_
      obtain ⟨numeral, -, rfl⟩ := List.mem_map.mp among
      exact isCharacter_of_numeral inside

/-- A text that denotes a version is characters of versions and blanks. -/
theorem mem_of_parse {text : String} {version : Version} (valid : parse text = .ok version)
    {c : Char} (member : c ∈ text.toList) : Text.isBlank c = true ∨ isCharacter c = true := by
  rcases Text.mem_trim member with blank | kept
  · exact .inl blank
  · obtain ⟨spelling, whole, -⟩ := parse_eq_ok_iff.mp valid
    rw [← whole] at kept
    exact .inr (isCharacter_of_spelling spelling c kept)

end Version

end ManifestPin
