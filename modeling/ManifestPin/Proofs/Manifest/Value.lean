import Mathlib.Data.List.TakeWhile
import ManifestPin.Manifest.Basic
import ManifestPin.Proofs.Manifest.Overwrite

/-! # Overwriting a manifest

The laws of pinned values on whole manifests: replacing the value that is read overwrites it, and
what is overwritten is read back.
-/

namespace ManifestPin.Manifest

variable {manifest : Manifest} {field other : Field} {old new value : String}

/-- The manifest with another value on the first line that declares a field. -/
def overwrite (manifest : Manifest) (field : Field) (new : String) : Manifest :=
  { manifest with content := String.ofList (field.overwrite new.toList manifest.content.toList) }

@[simp] theorem path_overwrite (manifest : Manifest) (field : Field) (new : String) :
    (manifest.overwrite field new).path = manifest.path := rfl

theorem value_eq_ok_iff :
    manifest.value field = .ok value ↔
      field.valueIn? manifest.content.toList = some value.toList := by
  unfold Manifest.value
  cases field.valueIn? manifest.content.toList with
  | none => simp
  | some found =>
      rw [Except.ok.injEq, Option.some.injEq, ← String.toList_inj, String.toList_ofList]

/-- The values that are read depend on nothing but the text. -/
theorem value_eq_ok_congr {manifest other : Manifest} (same : other.content = manifest.content)
    (field : Field) : other.value field = .ok value ↔ manifest.value field = .ok value := by
  rw [value_eq_ok_iff, value_eq_ok_iff, same]

theorem pin_eq_ok_iff {pin : Pin} :
    manifest.pin = .ok pin ↔
      manifest.value .version = .ok pin.version ∧ manifest.value .hash = .ok pin.hash := by
  obtain ⟨version, hash⟩ := pin
  unfold Manifest.pin
  cases manifest.value .version with
  | error missing => simp [bind, Except.bind]
  | ok first =>
      cases manifest.value .hash with
      | error missing => simp [bind, Except.bind]
      | ok second => simp [bind, Except.bind, pure, Except.pure]

/-- Replacing the value that is read overwrites it. -/
theorem setValue_of_value (read : manifest.value field = .ok old) (new : String) :
    manifest.setValue field old new = .ok (manifest.overwrite field new) := by
  rw [setValue, Field.edit?_of_valueIn? (value_eq_ok_iff.mp read)]
  rfl

/-- A value is read back up to its first quote. -/
theorem value_overwrite (read : manifest.value field = .ok old) (single : '\n' ∉ new.toList) :
    (manifest.overwrite field new).value field =
      .ok (String.ofList (new.toList.takeWhile (· ≠ '"'))) := by
  rw [value_eq_ok_iff, overwrite, String.toList_ofList, String.toList_ofList]
  exact Field.valueIn?_overwrite (value_eq_ok_iff.mp read) single

theorem takeWhile_unquoted (unquoted : '"' ∉ new.toList) :
    String.ofList (new.toList.takeWhile (· ≠ '"')) = new := by
  have all : ∀ c ∈ new.toList, decide (c ≠ '"') = true := by
    intro c member
    exact decide_eq_true fun quote => unquoted (quote ▸ member)
  rw [List.takeWhile_eq_self_iff.mpr all, String.ofList_toList]

theorem takeWhile_unquoted_iff :
    String.ofList (new.toList.takeWhile (· ≠ '"')) = new ↔ '"' ∉ new.toList := by
  refine ⟨fun same member => ?_, takeWhile_unquoted⟩
  rw [← same, String.toList_ofList] at member
  simpa using List.all_eq_true.mp List.all_takeWhile _ member

/-- A value without quotes is read back. -/
theorem value_overwrite_of_unquoted (read : manifest.value field = .ok old)
    (single : '\n' ∉ new.toList) (unquoted : '"' ∉ new.toList) :
    (manifest.overwrite field new).value field = .ok new := by
  rw [value_overwrite read single, takeWhile_unquoted unquoted]

/-- The other field is read as before, or is missing as before. -/
theorem value_overwrite_other (apart : other ≠ field) (single : '\n' ∉ new.toList) :
    (manifest.overwrite field new).value other = manifest.value other := by
  rw [Manifest.value, Manifest.value, path_overwrite, overwrite, String.toList_ofList,
    Field.valueIn?_overwrite_of_ne apart single]

theorem value_overwrite_of_ne (apart : other ≠ field) (single : '\n' ∉ new.toList)
    (read : manifest.value other = .ok value) :
    (manifest.overwrite field new).value other = .ok value := by
  rw [value_overwrite_other apart single, read]

theorem overwrite_overwrite (read : manifest.value field = .ok old) (unquoted : '"' ∉ new.toList)
    (single : '\n' ∉ new.toList) (newer : String) :
    (manifest.overwrite field new).overwrite field newer = manifest.overwrite field newer := by
  have again := Field.overwrite_overwrite (value_eq_ok_iff.mp read) unquoted single newer.toList
  simp only [overwrite, String.toList_ofList, again]

/-- Overwriting a value with itself changes nothing. -/
theorem overwrite_self (read : manifest.value field = .ok old) :
    manifest.overwrite field old = manifest := by
  rw [overwrite, Field.overwrite_self (value_eq_ok_iff.mp read), String.ofList_toList]

/-- Overwriting a value with another one changes the text. -/
theorem content_overwrite_ne (read : manifest.value field = .ok old) (apart : new ≠ old) :
    (manifest.overwrite field new).content ≠ manifest.content := by
  obtain ⟨before, after, whole, replaced⟩ :=
    Field.overwrite_eq_append (value_eq_ok_iff.mp read)
  intro same
  have text : field.overwrite new.toList manifest.content.toList = manifest.content.toList := by
    simpa only [overwrite, String.toList_ofList] using congrArg String.toList same
  rw [replaced, whole] at text
  have value := List.append_cancel_left (List.append_cancel_right text)
  exact apart (String.toList_injective value)

end ManifestPin.Manifest
