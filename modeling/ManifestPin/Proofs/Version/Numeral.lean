import Mathlib.Data.List.Induction
import Mathlib.Data.Nat.Digits.Defs
import ManifestPin.Version.Numeral

/-! # Numerals

A numeral is digits, with one plus sign in front or none, whose value in base ten fits into 64 bits.
Every other text has a first problem that is met from the left. Reading tells the value of the one
(`read_eq_ok_iff`) and the problem of the other (`read_eq_error_iff`).
-/

namespace ManifestPin

namespace Numeral

variable {before digits : List Char} {fault : Fault}

/-- The number that digits stand for in base ten. -/
def value (digits : List Char) : Nat :=
  Nat.ofDigits 10 (digits.reverse.map digitValue)

@[simp] theorem value_concat (digits : List Char) (c : Char) :
    value (digits ++ [c]) = value digits * 10 + digitValue c := by
  rw [value, value, List.reverse_concat, List.map_cons, Nat.ofDigits_cons, Nat.mul_comm,
    Nat.add_comm]

theorem value_zero_cons (digits : List Char) : value ('0' :: digits) = value digits := by
  induction digits using List.reverseRecOn with
  | nil => rfl
  | append_singleton digits c ih => rw [← List.cons_append, value_concat, value_concat, ih]

theorem value_le_append (before after : List Char) : value before ≤ value (before ++ after) := by
  induction after using List.reverseRecOn with
  | nil => rw [List.append_nil]
  | append_singleton after c ih =>
      rw [← List.append_assoc, value_concat]
      omega

/-- Digits whose value fits into 64 bits. -/
structure Fits (digits : List Char) : Prop where
  digit : ∀ c ∈ digits, c.isDigit = true
  below : value digits < limit

theorem Fits.of_append {before after : List Char} (fits : Fits (before ++ after)) :
    Fits before where
  digit := fun c member => fits.digit c (List.mem_append_left after member)
  below := Nat.lt_of_le_of_lt (value_le_append before after) fits.below

/-- The first problem in a text that should be digits. At one character, not to be a digit comes
before being too much. -/
inductive Stops : List Char → Fault → Prop where
  | invalidDigit {before after : List Char} {c : Char} (fits : Fits before)
      (strange : c.isDigit = false) : Stops (before ++ c :: after) .invalidDigit
  | tooLarge {before after : List Char} {c : Char} (fits : Fits before)
      (digit : c.isDigit = true) (large : limit ≤ value (before ++ [c])) :
      Stops (before ++ c :: after) .tooLarge

theorem Stops.append (stops : Stops before fault) (after : List Char) :
    Stops (before ++ after) fault := by
  cases stops with
  | invalidDigit fits strange =>
      rw [List.append_assoc, List.cons_append]
      exact .invalidDigit fits strange
  | tooLarge fits digit large =>
      rw [List.append_assoc, List.cons_append]
      exact .tooLarge fits digit large

theorem fits_or_stops (digits : List Char) : Fits digits ∨ ∃ fault, Stops digits fault := by
  induction digits using List.reverseRecOn with
  | nil => exact .inl ⟨by simp, by decide⟩
  | append_singleton before c ih =>
      rcases ih with fits | ⟨fault, stops⟩
      · cases digit : c.isDigit with
        | false => exact .inr ⟨_, .invalidDigit fits digit⟩
        | true =>
            rcases Nat.lt_or_ge (value (before ++ [c])) limit with below | large
            · refine .inl ⟨?_, below⟩
              simpa [or_imp, forall_and, digit] using fits.digit
            · exact .inr ⟨_, .tooLarge fits digit large⟩
      · exact .inr ⟨fault, stops.append [c]⟩

/-- Digits that fit are read, and what follows is read on from their value. -/
theorem readDigits_append (fits : Fits before) (rest : List Char) :
    readDigits 0 (before ++ rest) = readDigits (value before) rest := by
  -- from the end, so that the value read so far is that of the digits in front
  induction before using List.reverseRecOn generalizing rest with
  | nil => rfl
  | append_singleton before c ih =>
      have digit : c.isDigit = true := fits.digit c (by simp)
      have below := fits.below
      rw [value_concat] at below ⊢
      rw [List.append_assoc, List.singleton_append, ih fits.of_append, readDigits, if_pos digit]
      exact if_pos below

theorem readDigits_of_fits (fits : Fits digits) : readDigits 0 digits = .ok (value digits) := by
  have read := readDigits_append fits []
  rwa [List.append_nil] at read

theorem readDigits_of_stops (stops : Stops digits fault) : readDigits 0 digits = .error fault := by
  cases stops with
  | invalidDigit fits strange =>
      rw [readDigits_append fits, readDigits, if_neg (by simp [strange])]
  | tooLarge fits digit large =>
      rw [value_concat] at large
      rw [readDigits_append fits, readDigits, if_pos digit]
      exact if_neg (Nat.not_lt.mpr large)

end Numeral

/-- A numeral as it is written. -/
structure Numeral where
  /-- Whether a plus sign stands in front. -/
  signed : Bool
  digits : List Char
  nonempty : digits ≠ []
  fits : Numeral.Fits digits

namespace Numeral

variable {digits part : List Char} {number : Nat} {fault : Fault}

def text (numeral : Numeral) : List Char :=
  if numeral.signed then '+' :: numeral.digits else numeral.digits

theorem mem_text (numeral : Numeral) {c : Char} (member : c ∈ numeral.text) :
    c = '+' ∨ c.isDigit = true := by
  unfold text at member
  split at member
  · rcases List.mem_cons.mp member with plus | inside
    · exact .inl plus
    · exact .inr (numeral.fits.digit c inside)
  · exact .inr (numeral.fits.digit c member)

theorem text_ne_nil (numeral : Numeral) : numeral.text ≠ [] := by
  unfold text
  split
  · exact List.cons_ne_nil _ _
  · exact numeral.nonempty

/-- A plus sign stands in front or nowhere. -/
theorem plus_not_mem_tail (numeral : Numeral) : '+' ∉ numeral.text.tail := by
  have absent : '+' ∉ numeral.digits :=
    fun member => absurd (numeral.fits.digit '+' member) (by decide)
  unfold text
  split
  · exact absent
  · exact fun member => absent (List.mem_of_mem_tail member)

theorem value_text {numeral : Numeral} (digit : ∀ c ∈ numeral.text, c.isDigit = true) :
    value numeral.text = value numeral.digits := by
  unfold text at digit ⊢
  split
  next signed =>
    rw [if_pos signed] at digit
    exact absurd (digit '+' List.mem_cons_self) (by decide)
  next => rfl

/-- The first problem in a text that should be a numeral. A plus sign is passed over if something
follows it. -/
inductive Refuses : List Char → Fault → Prop where
  | empty : Refuses [] .empty
  | signed {c : Char} {rest : List Char} {fault : Fault} (stops : Stops (c :: rest) fault) :
      Refuses ('+' :: c :: rest) fault
  | unsigned {c : Char} {rest : List Char} {fault : Fault} (unsigned : c = '+' → rest = [])
      (stops : Stops (c :: rest) fault) : Refuses (c :: rest) fault

theorem read_cons {c : Char} {rest : List Char} (unsigned : c = '+' → rest = []) :
    read (c :: rest) = readDigits 0 (c :: rest) := by
  unfold read
  split
  next same => cases same
  next same =>
    obtain ⟨rfl, rfl⟩ := List.cons.inj same
    cases unsigned rfl
  next => rfl

theorem read_of_digits (nonempty : digits ≠ []) (digit : ∀ c ∈ digits, c.isDigit = true) :
    read digits = readDigits 0 digits := by
  cases digits with
  | nil => exact absurd rfl nonempty
  | cons c rest =>
      apply read_cons
      rintro rfl
      exact absurd (digit '+' List.mem_cons_self) (by decide)

theorem read_of_fits (nonempty : digits ≠ []) (fits : Fits digits) :
    read digits = .ok (value digits) := by
  rw [read_of_digits nonempty fits.digit, readDigits_of_fits fits]

@[simp] theorem read_text (numeral : Numeral) : read numeral.text = .ok (value numeral.digits) := by
  obtain ⟨signed, digits, nonempty, fits⟩ := numeral
  cases signed with
  | false => exact read_of_fits nonempty fits
  | true =>
      cases digits with
      | nil => exact absurd rfl nonempty
      | cons c rest => exact readDigits_of_fits fits

theorem read_of_refuses (refuses : Refuses part fault) : read part = .error fault := by
  cases refuses with
  | empty => rfl
  | signed stops => exact readDigits_of_stops stops
  | unsigned unsigned stops => rw [read_cons unsigned, readDigits_of_stops stops]

/-- Every text is a numeral or has a first problem. -/
theorem exists_text_or_refuses (part : List Char) :
    (∃ numeral : Numeral, numeral.text = part) ∨ ∃ fault, Refuses part fault := by
  rcases part with _ | ⟨c, rest⟩
  · exact .inr ⟨.empty, .empty⟩
  by_cases unsigned : c = '+' → rest = []
  · rcases fits_or_stops (c :: rest) with fits | ⟨fault, stops⟩
    · exact .inl ⟨⟨false, c :: rest, List.cons_ne_nil c rest, fits⟩, rfl⟩
    · exact .inr ⟨fault, .unsigned unsigned stops⟩
  · obtain ⟨rfl, more⟩ := Classical.not_imp.mp unsigned
    rcases fits_or_stops rest with fits | ⟨fault, stops⟩
    · exact .inl ⟨⟨true, rest, more, fits⟩, rfl⟩
    · obtain ⟨next, after, rfl⟩ := List.exists_cons_of_ne_nil more
      exact .inr ⟨fault, .signed stops⟩

/-- Numerals are read, and nothing else. -/
theorem read_eq_ok_iff :
    read part = .ok number ↔
      ∃ numeral : Numeral, numeral.text = part ∧ value numeral.digits = number := by
  constructor
  · intro valid
    rcases exists_text_or_refuses part with ⟨numeral, rfl⟩ | ⟨fault, refuses⟩
    · rw [read_text, Except.ok.injEq] at valid
      exact ⟨numeral, rfl, valid⟩
    · rw [read_of_refuses refuses] at valid
      contradiction
  · rintro ⟨numeral, rfl, rfl⟩
    exact read_text numeral

/-- What is reported is the first problem from the left. -/
theorem read_eq_error_iff : read part = .error fault ↔ Refuses part fault := by
  refine ⟨fun invalid => ?_, read_of_refuses⟩
  rcases exists_text_or_refuses part with ⟨numeral, rfl⟩ | ⟨first, refuses⟩
  · rw [read_text] at invalid
    contradiction
  · rw [read_of_refuses refuses, Except.error.injEq] at invalid
    exact invalid ▸ refuses

end Numeral

end ManifestPin
