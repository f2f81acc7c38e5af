import ManifestPin.Proofs.Manifest.Editing
import ManifestPin.Proofs.Manifest.Value

/-! # Laws of pinned fields

A field that is set reads as it was set and leaves the other field alone, and setting it back
restores the manifest. Edits of the two fields commute whether or not they find a line, because no
line declares both and an edited line still declares what it declared.
-/

namespace ManifestPin

namespace Text

variable {first second : List Char → Option (List Char)} {lines more : List (List Char)}
  {line edited : List Char}

/-- The second change takes no line that the first one takes, neither before nor after it. -/
def Spares (second first : List Char → Option (List Char)) : Prop :=
  ∀ line edited, first line = some edited → second line = none ∧ second edited = none

/-- The lines after a change, or the same ones where it takes none. -/
def changed (change : List Char → Option (List Char)) (lines : List (List Char)) :
    List (List Char) :=
  (changeFirst? change lines).getD lines

theorem changed_cons_of_some (takes : first line = some edited) (more : List (List Char)) :
    changed first (line :: more) = edited :: more := by
  simp only [changed, changeFirst?, takes, Option.getD_some]

theorem changed_cons_of_none (refuses : first line = none) (more : List (List Char)) :
    changed first (line :: more) = line :: changed first more := by
  rw [changed, changed, changeFirst?, refuses]
  cases changeFirst? first more <;> rfl

/-- A change takes a line after another one exactly where it took one before. -/
theorem changeFirst?_changed_eq_none_iff (spares : Spares first second) :
    changeFirst? first (changed second lines) = none ↔ changeFirst? first lines = none := by
  rw [changeFirst?_eq_none_iff, changeFirst?_eq_none_iff]
  induction lines with
  | nil => rfl
  | cons line more ih =>
      cases takes : second line with
      | some edited =>
          obtain ⟨before, after⟩ := spares line edited takes
          rw [changed_cons_of_some takes, List.forall_mem_cons, List.forall_mem_cons]
          simp only [before, after]
      | none =>
          rw [changed_cons_of_none takes, List.forall_mem_cons, List.forall_mem_cons, ih]

/-- Changes that spare each other's lines commute. -/
theorem changed_comm (spares : Spares first second) (spared : Spares second first)
    (lines : List (List Char)) :
    changed first (changed second lines) = changed second (changed first lines) := by
  induction lines with
  | nil => rfl
  | cons line more ih =>
      cases takes : first line with
      | some edited =>
          obtain ⟨before, after⟩ := spared line edited takes
          rw [changed_cons_of_none before, changed_cons_of_some takes, changed_cons_of_some takes,
            changed_cons_of_none after]
      | none =>
          cases other : second line with
          | some edited =>
              obtain ⟨-, after⟩ := spares line edited other
              rw [changed_cons_of_none takes, changed_cons_of_some other,
                changed_cons_of_some other, changed_cons_of_none after]
          | none =>
              rw [changed_cons_of_none takes, changed_cons_of_none other,
                changed_cons_of_none takes, changed_cons_of_none other, ih]

theorem changed_ne_nil (some : lines ≠ []) : changed first lines ≠ [] := by
  cases lines with
  | nil => exact (some rfl).elim
  | cons line more =>
      cases takes : first line with
      | some edited =>
          rw [changed_cons_of_some takes]
          exact List.cons_ne_nil _ _
      | none =>
          rw [changed_cons_of_none takes]
          exact List.cons_ne_nil _ _

/-- What holds of every line and of what a line becomes holds of the lines after a change. -/
theorem forall_mem_changed {p : List Char → Prop} (all : ∀ line ∈ lines, p line)
    (keeps : ∀ line edited, first line = some edited → p line → p edited) :
    ∀ line ∈ changed first lines, p line := by
  induction lines with
  | nil => exact all
  | cons line more ih =>
      obtain ⟨here, below⟩ := List.forall_mem_cons.mp all
      cases takes : first line with
      | some edited =>
          rw [changed_cons_of_some takes]
          exact List.forall_mem_cons.mpr ⟨keeps line edited takes here, below⟩
      | none =>
          rw [changed_cons_of_none takes]
          exact List.forall_mem_cons.mpr ⟨here, ih below⟩

end Text

namespace Field

variable {field other : Field} {old new otherOld otherNew content : List Char}

/-- A text after an edit, or the same one where no line can be edited. -/
def edited (field : Field) (old new content : List Char) : List Char :=
  (field.edit? old new content).getD content

/-- An edited line declares the field before and after, and so never the other one. -/
theorem spares_editLine? (apart : other ≠ field) (old new : List Char)
    (otherOld otherNew : List Char) :
    Text.Spares (other.editLine? otherOld otherNew) (field.editLine? old new) := by
  intro line edited takes
  obtain ⟨declared, rfl, declares, -, rfl⟩ := editLine?_eq_some_iff.mp takes
  have before := readLine?_eq_none_of_ne apart (readLine?_of_declares declares)
  have after := readLine?_eq_none_of_ne apart (declares.readLine?_withValue new)
  constructor
  · rw [editLine?, before, Option.bind_none]
  · rw [editLine?, after, Option.bind_none]

theorem edited_eq_joinWith (field : Field) (old new content : List Char) :
    field.edited old new content = Text.joinWith ['\n']
      (Text.changed (field.editLine? old new) (Text.splitAt '\n' content)) := by
  rw [edited, edit?_eq_changeLine?, Text.changeLine?, Text.changed]
  cases Text.changeFirst? (field.editLine? old new) (Text.splitAt '\n' content) with
  | some lines => rfl
  | none => exact (Text.joinWith_splitAt '\n' content).symm

/-- The lines of an edited text are the edited lines. -/
theorem splitAt_edited (single : '\n' ∉ new) :
    Text.splitAt '\n' (field.edited old new content) =
      Text.changed (field.editLine? old new) (Text.splitAt '\n' content) := by
  have absent : ∀ line ∈ Text.splitAt '\n' content, '\n' ∉ line := by
    intro line member
    exact Text.not_mem_of_mem_splitAt member
  have keeps : ∀ line edited, field.editLine? old new line = some edited → '\n' ∉ line →
      '\n' ∉ edited := by
    intro line edited takes absent
    obtain ⟨declared, rfl, -, -, rfl⟩ := editLine?_eq_some_iff.mp takes
    exact FieldLine.not_mem_withValue absent single
  rw [edited_eq_joinWith]
  exact Text.splitAt_joinWith (Text.forall_mem_changed absent keeps)
    (Text.changed_ne_nil (Text.splitAt_ne_nil '\n' content))

theorem edit?_eq_none_iff_changeFirst? :
    field.edit? old new content = none ↔
      Text.changeFirst? (field.editLine? old new) (Text.splitAt '\n' content) = none := by
  rw [edit?_eq_changeLine?, Text.changeLine?, Option.map_eq_none_iff]

/-- An edit finds a line after an edit of the other field exactly where it found one before. -/
theorem edit?_edited_eq_none_iff (apart : other ≠ field) (single : '\n' ∉ otherNew) :
    field.edit? old new (other.edited otherOld otherNew content) = none ↔
      field.edit? old new content = none := by
  rw [edit?_eq_none_iff_changeFirst?, edit?_eq_none_iff_changeFirst?, splitAt_edited single]
  have spares := spares_editLine? apart.symm otherOld otherNew old new
  exact Text.changeFirst?_changed_eq_none_iff spares

/-- Edits of different fields commute. -/
theorem edited_comm (apart : other ≠ field) (single : '\n' ∉ new) (solitary : '\n' ∉ otherNew) :
    field.edited old new (other.edited otherOld otherNew content) =
      other.edited otherOld otherNew (field.edited old new content) := by
  have spares := spares_editLine? apart.symm otherOld otherNew old new
  have spared := spares_editLine? apart old new otherOld otherNew
  rw [edited_eq_joinWith field old new (other.edited otherOld otherNew content),
    edited_eq_joinWith other otherOld otherNew (field.edited old new content),
    splitAt_edited single, splitAt_edited solitary, Text.changed_comm spares spared]

end Field

namespace Manifest

variable {manifest : Manifest} {field other : Field} {old new otherOld otherNew : String}

/-- The manifest that is held once a field was to be set: the same one where that fails. -/
def trySet (manifest : Manifest) (field : Field) (old new : String) : Manifest :=
  match manifest.setValue field old new with
  | .ok edited => edited
  | .error _ => manifest

theorem trySet_eq (manifest : Manifest) (field : Field) (old new : String) :
    manifest.trySet field old new =
      ⟨manifest.path,
        String.ofList (field.edited old.toList new.toList manifest.content.toList)⟩ := by
  unfold trySet setValue Field.edited
  cases field.edit? old.toList new.toList manifest.content.toList with
  | some content => rfl
  | none => simp only [Option.getD_none, String.ofList_toList]

/-- Setting a field fails after an edit of the other one exactly as it fails before. -/
theorem setValue_trySet_eq_error_iff (apart : other ≠ field) (single : '\n' ∉ otherNew.toList)
    (missing : MissingLine) :
    (manifest.trySet other otherOld otherNew).setValue field old new = .error missing ↔
      manifest.setValue field old new = .error missing := by
  rw [setValue_eq_error_iff, setValue_eq_error_iff, ← Field.edit?_eq_none_iff new.toList,
    ← Field.edit?_eq_none_iff new.toList, trySet_eq, String.toList_ofList,
    Field.edit?_edited_eq_none_iff apart single]

theorem trySet_comm (apart : other ≠ field) (single : '\n' ∉ new.toList)
    (solitary : '\n' ∉ otherNew.toList) :
    (manifest.trySet other otherOld otherNew).trySet field old new =
      (manifest.trySet field old new).trySet other otherOld otherNew := by
  simp only [trySet_eq, String.toList_ofList, Field.edited_comm apart single solitary]

namespace Sample

/-- A manifest whose second version is the one that is to be set. -/
def crowded : Manifest where
  path := "m"
  content := "  sha256 = \"a\";\r\r\nversion = \"1\"; # sha256 = \"b\"\r\nversion = \"2\";"

end Sample

/-- A field that is read can be set to any text without quotes on one line. It then reads as that
text, the other field reads as before, and setting it back restores the manifest. An edit of the
version and one of the hash fail or succeed alike in both orders and leave the same manifest. -/
theorem setValue_laws (manifest : Manifest) :
    (∀ field other old new, other ≠ field → manifest.value field = .ok old →
      '"' ∉ new.toList → '\n' ∉ new.toList →
        ∃ edited, manifest.setValue field old new = .ok edited ∧ edited.value field = .ok new ∧
          edited.value other = manifest.value other ∧
          edited.setValue field new old = .ok manifest) ∧
    ∀ oldVersion newVersion oldHash newHash,
      '\n' ∉ newVersion.toList → '\n' ∉ newHash.toList →
        (∀ missing, (manifest.trySet .hash oldHash newHash).setValue .version oldVersion
            newVersion = .error missing ↔
          manifest.setValue .version oldVersion newVersion = .error missing) ∧
        (∀ missing, (manifest.trySet .version oldVersion newVersion).setValue .hash oldHash
            newHash = .error missing ↔
          manifest.setValue .hash oldHash newHash = .error missing) ∧
        (manifest.trySet .version oldVersion newVersion).trySet .hash oldHash newHash =
          (manifest.trySet .hash oldHash newHash).trySet .version oldVersion newVersion := by
  constructor
  · intro field other old new apart read unquoted single
    have written := value_overwrite_of_unquoted read single unquoted
    refine ⟨manifest.overwrite field new, setValue_of_value read new, written,
      value_overwrite_other apart single, ?_⟩
    rw [setValue_of_value written, overwrite_overwrite read unquoted single, overwrite_self read]
  · intro oldVersion newVersion oldHash newHash single solitary
    exact ⟨setValue_trySet_eq_error_iff (by decide) solitary,
      setValue_trySet_eq_error_iff (by decide) single, trySet_comm (by decide) solitary single⟩

/-- The version is set to that of a later line and back, and a hash that closes its value early is
set before or after it. -/
theorem setValue_laws_crowded :
    (∃ edited, Sample.crowded.setValue .version "1" "2" = .ok edited ∧
      edited.value .version = .ok "2" ∧ edited.value .hash = Sample.crowded.value .hash ∧
      edited.setValue .version "2" "1" = .ok Sample.crowded) ∧
    (Sample.crowded.trySet .version "1" "2").trySet .hash "a" "\" version = \"1" =
      (Sample.crowded.trySet .hash "a" "\" version = \"1").trySet .version "1" "2" := by
  have read : Sample.crowded.value .version = .ok "1" := by decide +kernel
  obtain ⟨sets, commutes⟩ := setValue_laws Sample.crowded
  exact ⟨sets .version .hash "1" "2" (by decide) read (by decide) (by decide),
    (commutes "1" "2" "a" "\" version = \"1" (by decide) (by decide)).2.2⟩

end Manifest

end ManifestPin
