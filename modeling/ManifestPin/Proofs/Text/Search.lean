import Mathlib.Data.List.Infix

/-! # Search from the left

A search tries a text and then each of its endings, the longest first. It finds what is read at the
leftmost position at which anything can be read.
-/

namespace ManifestPin.Text

variable {α : Type} {read : List Char → Option α} {text : List Char} {result : α}

theorem findSome?_tails_cons (read : List Char → Option α) (c : Char) (rest : List Char) :
    (c :: rest).tails.findSome? read = (read (c :: rest)).or (rest.tails.findSome? read) := by
  rw [List.tails_cons, List.findSome?_cons]
  cases read (c :: rest) <;> rfl

/-- A beginning that lacks a character ends before each place where that character stands. -/
theorem exists_of_append_cons_eq {c : Char} {before rest start other : List Char}
    (absent : c ∉ start) (same : before ++ c :: rest = start ++ other) :
    ∃ kept, before = start ++ kept ∧ other = kept ++ c :: rest := by
  rcases List.append_eq_append_iff.mp same with ⟨more, cut, ends⟩ | behind
  · cases more with
    | nil => exact ⟨[], by simpa using cut.symm, ends.symm⟩
    | cons first more =>
        obtain ⟨rfl, -⟩ := List.cons_eq_cons.mp ends
        exact absurd (cut ▸ List.mem_append_right before List.mem_cons_self) absent
  · exact behind

/-- A search fails where nothing can be read at any position. -/
theorem findSome?_tails_eq_none_iff :
    text.tails.findSome? read = none ↔ ∀ position, read (text.drop position) = none := by
  induction text with
  | nil => simp
  | cons c rest ih =>
      rw [findSome?_tails_cons, Option.or_eq_none_iff, ih]
      constructor
      · rintro ⟨here, later⟩ position
        cases position with
        | zero => exact here
        | succ position => exact later position
      · intro none
        exact ⟨none 0, fun position => none (position + 1)⟩

/-- A search finds what is read at the leftmost position. -/
theorem findSome?_tails_eq_some_iff :
    text.tails.findSome? read = some result ↔
      ∃ position, read (text.drop position) = some result ∧
        ∀ earlier < position, read (text.drop earlier) = none := by
  induction text with
  | nil =>
      simp only [List.tails, List.findSome?_singleton, List.drop_nil]
      constructor
      · intro here
        exact ⟨0, here, fun earlier before => absurd before (Nat.not_lt_zero earlier)⟩
      · rintro ⟨-, here, -⟩
        exact here
  | cons c rest ih =>
      rw [findSome?_tails_cons, Option.or_eq_some_iff, ih]
      constructor
      · rintro (here | ⟨fails, position, found, first⟩)
        · exact ⟨0, here, fun earlier before => absurd before (Nat.not_lt_zero earlier)⟩
        · refine ⟨position + 1, found, fun earlier before => ?_⟩
          cases earlier with
          | zero => exact fails
          | succ earlier => exact first earlier (Nat.lt_of_succ_lt_succ before)
      · rintro ⟨position, found, first⟩
        cases position with
        | zero => exact .inl found
        | succ position =>
            exact .inr ⟨first 0 (Nat.zero_lt_succ position), position, found,
              fun earlier before => first (earlier + 1) (Nat.succ_lt_succ before)⟩

end ManifestPin.Text
