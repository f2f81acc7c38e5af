import Mathlib.Logic.Relation
import ManifestPin.Proofs.Version.Characters
import ManifestPin.Proofs.Version.Precedence

/-! # Spellings of one version

Zeros in front of a component, components of zeros at the end and blanks around a dotted version
decide which grammar takes it. They do not change how it compares with any other version.
-/

namespace ManifestPin

namespace Numeral

theorem fits_zero_cons {digits : List Char} : Fits ('0' :: digits) ↔ Fits digits := by
  constructor
  · rintro ⟨digit, below⟩
    exact ⟨fun c member => digit c (List.mem_cons_of_mem '0' member),
      value_zero_cons digits ▸ below⟩
  · rintro ⟨digit, below⟩
    exact ⟨List.forall_mem_cons.mpr ⟨rfl, digit⟩, (value_zero_cons digits).symm ▸ below⟩

theorem value_of_zeros {zeros : List Char} (zero : ∀ c ∈ zeros, c = '0') : value zeros = 0 := by
  induction zeros with
  | nil => rfl
  | cons c zeros ih =>
      obtain ⟨rfl, rest⟩ := List.forall_mem_cons.mp zero
      rw [value_zero_cons, ih rest]

end Numeral

namespace Version

open Numeral (Fits value)

open Text (joinWith)

variable {parts others : List (List Char)} {text other : String}

/-- The components of a dotted numeric version. -/
structure IsDotted (parts : List (List Char)) : Prop where
  nonempty : parts ≠ []
  digits : ∀ part ∈ parts, part ≠ [] ∧ Fits part

/-- A text of components between dots, with blanks around it. -/
def Spells (text : String) (parts : List (List Char)) : Prop :=
  ∃ lead trail, (∀ c ∈ lead, Text.isBlank c = true) ∧ (∀ c ∈ trail, Text.isBlank c = true) ∧
    text.toList = lead ++ joinWith ['.'] parts ++ trail

/-- One change of spelling. -/
inductive Respells : List (List Char) → List (List Char) → Prop where
  | addZero (before : List (List Char)) (part : List Char) (after : List (List Char)) :
      Respells (before ++ part :: after) (before ++ ('0' :: part) :: after)
  | dropZero (before : List (List Char)) (part : List Char) (after : List (List Char))
      (more : part ≠ []) : Respells (before ++ ('0' :: part) :: after) (before ++ part :: after)
  | addComponent (parts : List (List Char)) : Respells parts (parts ++ [['0']])
  | dropComponent (parts : List (List Char)) (zeros : List Char) (more : parts ≠ [])
      (zero : ∀ c ∈ zeros, c = '0') : Respells (parts ++ [zeros]) parts

theorem padded_append_zero (release : List Nat) : padded (release ++ [0]) = padded release := by
  induction release with
  | nil =>
      funext place
      cases place <;> rfl
  | cons number release ih => exact (sequence_eq_iff _ _).mpr ⟨rfl, ih⟩

/-- A change of spelling leaves a numeric version with the same sequence of numbers. -/
theorem Respells.keeps (respells : Respells parts others) (dotted : IsDotted parts) :
    IsDotted others ∧ padded (others.map value) = padded (parts.map value) := by
  obtain ⟨nonempty, digits⟩ := dotted
  cases respells with
  | addZero before part after =>
      rw [List.forall_mem_append, List.forall_mem_cons] at digits
      obtain ⟨front, ⟨-, fits⟩, rest⟩ := digits
      refine ⟨⟨by simp, List.forall_mem_append.mpr
        ⟨front, List.forall_mem_cons.mpr ⟨?_, rest⟩⟩⟩, ?_⟩
      · exact ⟨List.cons_ne_nil '0' part, Numeral.fits_zero_cons.mpr fits⟩
      · simp [Numeral.value_zero_cons]
  | dropZero before part after more =>
      rw [List.forall_mem_append, List.forall_mem_cons] at digits
      obtain ⟨front, ⟨-, fits⟩, rest⟩ := digits
      refine ⟨⟨by simp, List.forall_mem_append.mpr
        ⟨front, List.forall_mem_cons.mpr ⟨?_, rest⟩⟩⟩, ?_⟩
      · exact ⟨more, Numeral.fits_zero_cons.mp fits⟩
      · simp [Numeral.value_zero_cons]
  | addComponent =>
      refine ⟨⟨by simp, List.forall_mem_append.mpr ⟨digits, ?_⟩⟩, ?_⟩
      · rw [List.forall_mem_singleton]
        exact ⟨List.cons_ne_nil _ _, List.forall_mem_singleton.mpr rfl, by decide⟩
      · rw [List.map_append]
        exact padded_append_zero _
  | dropComponent parts zeros more zero =>
      refine ⟨⟨more, (List.forall_mem_append.mp digits).1⟩, ?_⟩
      rw [List.map_append, List.map_singleton, Numeral.value_of_zeros zero, padded_append_zero]

/-- So does any number of changes, one after the other. -/
theorem keeps_of_respells (respells : Relation.ReflTransGen Respells parts others)
    (dotted : IsDotted parts) :
    IsDotted others ∧ padded (others.map value) = padded (parts.map value) := by
  induction respells with
  | refl => exact ⟨dotted, rfl⟩
  | tail _ last ih =>
      obtain ⟨between, same⟩ := ih
      obtain ⟨ends, alike⟩ := last.keeps between
      exact ⟨ends, alike.trans same⟩

theorem exists_components (digits : ∀ part ∈ parts, part ≠ [] ∧ Fits part) :
    ∃ components : List Numeral, components.map Numeral.text = parts ∧
      components.map (fun component => value component.digits) = parts.map value := by
  induction parts with
  | nil => exact ⟨[], rfl, rfl⟩
  | cons part parts ih =>
      obtain ⟨⟨some, fits⟩, rest⟩ := List.forall_mem_cons.mp digits
      obtain ⟨components, rfl, values⟩ := ih rest
      exact ⟨⟨false, part, some, fits⟩ :: components, rfl, congrArg (value part :: ·) values⟩

/-- A numeric version is accepted with the values of its components, whichever grammar takes it. -/
theorem parse_of_spells (dotted : IsDotted parts) (spells : Spells text parts) :
    parse text = .ok ⟨parts.map value, [], String.ofList (joinWith ['.'] parts)⟩ := by
  obtain ⟨lead, trail, before, after, whole⟩ := spells
  obtain ⟨components, rfl, values⟩ := exists_components dotted.digits
  have some : components ≠ [] := by simpa using dotted.nonempty
  let spelling : Spelling := .dotted ⟨components, some⟩
  have unblank : ∀ c ∈ spelling.text, Text.isBlank c = false :=
    fun c member => not_isBlank_of_isCharacter (isCharacter_of_spelling spelling c member)
  have trimmed : Text.trim text.toList = spelling.text := by
    rw [whole]
    exact Text.trim_append before after spelling.text_ne_nil unblank
  rw [parse_of_spelling trimmed.symm, ← values]
  rfl

/-- Texts that denote equal versions agree with the same texts. -/
theorem agreement_congr {a b : Version} (first : parse text = .ok a)
    (second : parse other = .ok b) (same : b.compare a = .eq) (third : String) :
    agreement other third = agreement text third ∧
      agreement third other = agreement third text := by
  cases read : parse third with
  | error invalid =>
      have refused (known : String) (version : Version) (valid : parse known = .ok version) :
          agreement known third = .error invalid ∧ agreement third known = .error invalid :=
        ⟨agreement_eq_error_iff.mpr (.inr ⟨⟨version, valid⟩, read⟩),
          agreement_eq_error_iff.mpr (.inl read)⟩
      rw [(refused other b second).1, (refused text a first).1, (refused other b second).2,
        (refused text a first).2]
      exact ⟨rfl, rfl⟩
  | ok c =>
      have left : b.compare c = a.compare c := Std.TransCmp.congr_left same
      have right : c.compare b = c.compare a := Std.TransCmp.congr_right same
      have forward : (b == c) = (a == c) := by
        rw [Bool.eq_iff_iff, beq_iff_compare, beq_iff_compare, left]
      have backward : (c == b) = (c == a) := by
        rw [Bool.eq_iff_iff, beq_iff_compare, beq_iff_compare, right]
      rw [agreement_of_parse second read, agreement_of_parse first read,
        agreement_of_parse read second, agreement_of_parse read first, forward, backward]
      exact ⟨rfl, rfl⟩

/-- The spelling of a numeric version does not matter: leading zeros that are added or dropped,
components of zeros that are added or dropped at the end, and blanks around it give a text that is
accepted and that compares with every version, and agrees with every text, as before. -/
theorem compare_of_respells {respelled : String} (dotted : IsDotted parts)
    (respells : Relation.ReflTransGen Respells parts others) (spelled : Spells text parts)
    (again : Spells respelled others) :
    ∃ a b : Version, parse text = .ok a ∧ parse respelled = .ok b ∧
      (∀ c : Version, b.compare c = a.compare c ∧ c.compare b = c.compare a) ∧
      ∀ other : String, agreement respelled other = agreement text other ∧
        agreement other respelled = agreement other text := by
  obtain ⟨still, numbers⟩ := keeps_of_respells respells dotted
  have first := parse_of_spells dotted spelled
  have second := parse_of_spells still again
  have same : Version.compare ⟨others.map value, [], String.ofList (joinWith ['.'] others)⟩
      ⟨parts.map value, [], String.ofList (joinWith ['.'] parts)⟩ = .eq :=
    compare_eq_eq_iff.mpr ⟨numbers, rfl⟩
  exact ⟨_, _, first, second,
    fun c => ⟨Std.TransCmp.congr_left same, Std.TransCmp.congr_right same⟩,
    agreement_congr first second same⟩

/-- A semantic version stays what it is when it is no longer one. -/
theorem compare_of_respells_zeros :
    ∃ a b : Version, parse "1.2.3" = .ok a ∧ parse " 1.02.3.0\n" = .ok b ∧
      (∀ c : Version, b.compare c = a.compare c ∧ c.compare b = c.compare a) ∧
      ∀ other : String, agreement " 1.02.3.0\n" other = agreement "1.2.3" other ∧
        agreement other " 1.02.3.0\n" = agreement other "1.2.3" := by
  have dotted : IsDotted [['1'], ['2'], ['3']] := by
    refine ⟨List.cons_ne_nil _ _, fun part member => ?_⟩
    simp only [List.mem_cons, List.not_mem_nil, or_false] at member
    rcases member with rfl | rfl | rfl <;>
      exact ⟨List.cons_ne_nil _ _, List.forall_mem_singleton.mpr rfl, by decide⟩
  have zero : Respells [['1'], ['2'], ['3']] [['1'], ['0', '2'], ['3']] :=
    .addZero [['1']] ['2'] [['3']]
  have component : Respells [['1'], ['0', '2'], ['3']] [['1'], ['0', '2'], ['3'], ['0']] :=
    .addComponent [['1'], ['0', '2'], ['3']]
  have respells := (Relation.ReflTransGen.single zero).tail component
  have spelled : Spells "1.2.3" [['1'], ['2'], ['3']] := ⟨[], [], nofun, nofun, rfl⟩
  have again : Spells " 1.02.3.0\n" [['1'], ['0', '2'], ['3'], ['0']] :=
    ⟨[' '], ['\n'], List.forall_mem_singleton.mpr rfl, List.forall_mem_singleton.mpr rfl, rfl⟩
  exact compare_of_respells dotted respells spelled again

end Version

end ManifestPin
