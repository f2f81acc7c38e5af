/-! # Results

When a computation that may fail gives a result.
-/

namespace ManifestPin

variable {ε ε' α β : Type} {computation : Except ε α}

theorem bind_eq_ok_iff {next : α → Except ε β} {result : β} :
    computation >>= next = .ok result ↔
      ∃ value, computation = .ok value ∧ next value = .ok result := by
  cases computation <;> simp [bind, Except.bind]

theorem bind_eq_error_iff {next : α → Except ε β} {fault : ε} :
    computation >>= next = .error fault ↔
      computation = .error fault ∨
        ∃ value, computation = .ok value ∧ next value = .error fault := by
  cases computation <;> simp [bind, Except.bind]

theorem mapError_eq_ok_iff {change : ε → ε'} {result : α} :
    computation.mapError change = .ok result ↔ computation = .ok result := by
  cases computation <;> constructor <;> rintro ⟨⟩ <;> rfl

theorem mapError_eq_error_iff {change : ε → ε'} {fault : ε'} :
    computation.mapError change = .error fault ↔
      ∃ cause, computation = .error cause ∧ fault = change cause := by
  cases computation with
  | error cause =>
      constructor
      · rintro ⟨⟩
        exact ⟨cause, rfl, rfl⟩
      · rintro ⟨_, ⟨⟩, rfl⟩
        rfl
  | ok value =>
      constructor
      · rintro ⟨⟩
      · rintro ⟨_, ⟨⟩, -⟩

/-- A result is read off its value. -/
theorem eq_ok_of_toOption {result : α} (given : computation.toOption = some result) :
    computation = .ok result := by
  cases computation <;> simp_all [Except.toOption]

theorem ne_ok_of_toOption {result : α} (differs : computation.toOption ≠ some result) :
    computation ≠ .ok result := by
  rintro rfl
  exact differs rfl

end ManifestPin
