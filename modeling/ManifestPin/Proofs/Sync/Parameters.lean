import ManifestPin.Proofs.Sync.Inspection
import ManifestPin.Proofs.Text.Search

/-! # Parameter files

A parameter file declares the version of the leftmost declaration on its first line that holds one.
The key is any text, taken literally, and what cannot be read as a version there is not looked for
further below.
-/

namespace ManifestPin

namespace Declaration

open Text (isBlank)

/-- At a position of a line stand the key, blanks or none, and an equals sign. -/
def Declares (key line : List Char) (position : Nat) : Prop :=
  ∃ gap rest, (∀ c ∈ gap, isBlank c = true) ∧ line.drop position = key ++ gap ++ '=' :: rest

/-- The first declaration of a key in a text, with the token that follows it. -/
structure Site (key content : List Char) where
  above : List (List Char)
  line : List Char
  below : List (List Char)
  position : Nat
  gap : List Char
  margin : List Char
  token : List Char
  lines : Text.lines content = above ++ line :: below
  declares : line.drop position = key ++ gap ++ '=' :: (margin ++ token)
  blankGap : ∀ c ∈ gap, isBlank c = true
  blankMargin : ∀ c ∈ margin, isBlank c = true
  /-- The blanks behind the equals sign are all skipped. -/
  starts : ∀ c ∈ token.head?, isBlank c = false
  leftmost : ∀ earlier < position, ¬Declares key line earlier
  /-- No line above holds a declaration. -/
  first : ∀ other ∈ above, ∀ position, ¬Declares key other position

section

variable {key text line token : List Char} {position : Nat}

/-- A token is read behind the key, an equals sign and all blanks around it. -/
theorem tokenAtStart?_eq_some_iff :
    tokenAtStart? key text = some token ↔
      ∃ gap margin, (∀ c ∈ gap, isBlank c = true) ∧ (∀ c ∈ margin, isBlank c = true) ∧
        (∀ c ∈ token.head?, isBlank c = false) ∧
        text = key ++ gap ++ '=' :: (margin ++ token) := by
  constructor
  · intro found
    simp only [tokenAtStart?, Option.bind_eq_bind, Option.bind_eq_some_iff] at found
    obtain ⟨rest, keyed, found⟩ := found
    obtain ⟨gap, tail, rfl, blankGap, stop⟩ := Text.exists_run isBlank rest
    rw [Text.trimStart, Text.dropWhile_append_of_stop blankGap stop] at found
    split at found
    next after =>
      obtain ⟨margin, token, rfl, blankMargin, starts⟩ := Text.exists_run isBlank after
      rw [Text.trimStart, Text.dropWhile_append_of_stop blankMargin starts] at found
      obtain rfl := Option.some.inj found
      refine ⟨gap, margin, blankGap, blankMargin, starts, ?_⟩
      rw [Text.eq_append_of_dropStart? keyed, List.append_assoc]
    · cases found
  · rintro ⟨gap, margin, blankGap, blankMargin, starts, rfl⟩
    have equals : Text.trimStart (gap ++ '=' :: (margin ++ token)) = '=' :: (margin ++ token) := by
      refine Text.dropWhile_append_of_stop blankGap fun c first => ?_
      obtain rfl := Option.some.inj first
      decide
    have trimmed : Text.trimStart (margin ++ token) = token :=
      Text.dropWhile_append_of_stop blankMargin starts
    rw [tokenAtStart?, List.append_assoc, Text.dropStart?_append, Option.bind_eq_bind,
      Option.bind_some, equals]
    exact congrArg some trimmed

theorem declares_iff :
    Declares key line position ↔ ∃ token, tokenAtStart? key (line.drop position) = some token := by
  simp only [tokenAtStart?_eq_some_iff]
  constructor
  · rintro ⟨gap, rest, blankGap, found⟩
    obtain ⟨margin, token, rfl, blankMargin, starts⟩ := Text.exists_run isBlank rest
    exact ⟨token, gap, margin, blankGap, blankMargin, starts, found⟩
  · rintro ⟨token, gap, margin, blankGap, -, -, found⟩
    exact ⟨gap, margin ++ token, blankGap, found⟩

theorem tokenAtStart?_eq_none_iff :
    tokenAtStart? key (line.drop position) = none ↔ ¬Declares key line position := by
  rw [declares_iff, not_exists, Option.eq_none_iff_forall_ne_some]

end

variable {content key token : String}

end Declaration

namespace Tree

open Declaration (Declares Site findToken? versionOfToken)

variable {tree : Tree} {path key content token version : String}

namespace Sample

end Sample

end Tree

end ManifestPin
