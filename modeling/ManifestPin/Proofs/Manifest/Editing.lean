import ManifestPin.Manifest.Basic
import ManifestPin.Proofs.Manifest.Overwrite

/-! # Editing one value

Setting a field takes the first line that declares it with the old value. The site of that line
cuts the content around the value (`Site.content_eq`), and the new value is put between the two
parts, each of which is kept character by character.
-/

namespace ManifestPin

namespace Text

variable {change : List Char → Option (List Char)} {lines changed : List (List Char)}

/-- The first line that can be changed is changed, and the others stay. -/
theorem changeFirst?_eq_some_iff :
    changeFirst? change lines = some changed ↔
      ∃ above line edited below, lines = above ++ line :: below ∧
        (∀ other ∈ above, change other = none) ∧ change line = some edited ∧
        changed = above ++ edited :: below := by
  constructor
  · intro found
    induction lines generalizing changed with
    | nil => cases found
    | cons line more ih =>
        rw [changeFirst?] at found
        split at found
        next edited takes =>
          cases found
          exact ⟨[], line, edited, more, rfl, List.forall_mem_nil _, takes, rfl⟩
        next refuses =>
          obtain ⟨later, further, rfl⟩ := Option.map_eq_some_iff.mp found
          obtain ⟨above, first, edited, below, rfl, none, takes, rfl⟩ := ih further
          exact ⟨line :: above, first, edited, below, rfl,
            List.forall_mem_cons.mpr ⟨refuses, none⟩, takes, rfl⟩
  · rintro ⟨above, line, edited, below, rfl, none, takes, rfl⟩
    induction above with
    | nil => simp only [List.nil_append, changeFirst?, takes]
    | cons other above ih =>
        obtain ⟨refuses, none⟩ := List.forall_mem_cons.mp none
        simp only [List.cons_append, changeFirst?, refuses, ih none, Option.map_some]

theorem changeFirst?_eq_none_iff :
    changeFirst? change lines = none ↔ ∀ line ∈ lines, change line = none := by
  induction lines with
  | nil => simp [changeFirst?]
  | cons line more ih =>
      rw [changeFirst?, List.forall_mem_cons, ← ih]
      cases change line <;> simp

end Text

namespace Field

variable {field : Field} {old new value content edited text : List Char}

/-- A line that declares the field with a value. -/
def Holds (field : Field) (value text : List Char) : Prop :=
  ∃ line : FieldLine, line.text = text ∧ line.Declares field ∧ line.value = value

/-- The first line of a text that declares a field with a value, among the lines around it. -/
structure Site (field : Field) (value content : List Char) where
  above : List (List Char)
  line : FieldLine
  below : List (List Char)
  lines : content.splitOn '\n' = above ++ line.text :: below
  declares : line.Declares field
  held : line.value = value
  /-- No line above declares the field with the value. -/
  first : ∀ other ∈ above, ¬field.Holds value other

namespace Site

variable (site : field.Site value content)

/-- What stands before the value. -/
def before : List Char :=
  site.above.flatMap (· ++ ['\n']) ++ site.line.lead

/-- What stands after the value. -/
def after : List Char :=
  site.line.tail ++ site.below.flatMap ('\n' :: ·)

/-- The lines with another value at the site. -/
theorem joinWith_withValue (new : List Char) :
    Text.joinWith ['\n'] (site.above ++ (site.line.withValue new).text :: site.below) =
      site.before ++ new ++ site.after := by
  rw [Text.joinWith_append_cons]
  simp [before, after, FieldLine.text, FieldLine.withValue]

/-- The value stands between its two parts of the text. -/
theorem content_eq : content = site.before ++ value ++ site.after := by
  have same : site.line.withValue value = site.line :=
    calc
      _ = site.line.withValue site.line.value := by rw [site.held]
      _ = site.line := rfl
  rw [← joinWith_withValue, same, ← site.lines, ← Text.splitAt_eq_splitOn, Text.joinWith_splitAt]

end Site

theorem editLine?_eq_some_iff :
    field.editLine? old new text = some edited ↔
      ∃ line : FieldLine, line.text = text ∧ line.Declares field ∧ line.value = old ∧
        edited = (line.withValue new).text := by
  rw [editLine?, Option.bind_eq_some_iff]
  constructor
  · rintro ⟨line, read, changed⟩
    obtain ⟨whole, declares⟩ := readLine?_eq_some_iff.mp read
    split at changed
    next held => exact ⟨line, whole, declares, held, (Option.some.inj changed).symm⟩
    · cases changed
  · rintro ⟨line, whole, declares, held, rfl⟩
    exact ⟨line, readLine?_eq_some_iff.mpr ⟨whole, declares⟩, if_pos held⟩

theorem editLine?_eq_none_iff : field.editLine? old new text = none ↔ ¬field.Holds old text := by
  rw [Option.eq_none_iff_forall_ne_some]
  simp only [ne_eq, editLine?_eq_some_iff, Holds]
  constructor
  · rintro none ⟨line, whole, declares, held⟩
    exact none _ ⟨line, whole, declares, held, rfl⟩
  · rintro absent edited ⟨line, whole, declares, held, -⟩
    exact absent ⟨line, whole, declares, held⟩

/-- An edit puts the new value in the place of the old one at its site. -/
theorem edit?_eq_some_iff :
    field.edit? old new content = some edited ↔
      ∃ site : field.Site old content, edited = site.before ++ new ++ site.after := by
  rw [edit?_eq_changeLine?, Text.changeLine?, Option.map_eq_some_iff, Text.splitAt_eq_splitOn]
  constructor
  · rintro ⟨changed, found, rfl⟩
    obtain ⟨above, _, _, below, lines, none, takes, rfl⟩ := Text.changeFirst?_eq_some_iff.mp found
    obtain ⟨line, rfl, declares, held, rfl⟩ := editLine?_eq_some_iff.mp takes
    let site : field.Site old content :=
      { above, line, below, lines, declares, held
        first := fun other member => editLine?_eq_none_iff.mp (none other member) }
    exact ⟨site, site.joinWith_withValue new⟩
  · rintro ⟨site, rfl⟩
    -- the lines above the site refuse the edit because none of them holds the old value
    refine ⟨_, Text.changeFirst?_eq_some_iff.mpr ?_, site.joinWith_withValue new⟩
    exact ⟨_, _, _, _, site.lines, fun other member => editLine?_eq_none_iff.mpr
      (site.first other member), editLine?_eq_some_iff.mpr
        ⟨site.line, rfl, site.declares, site.held, rfl⟩, rfl⟩

/-- Nothing is edited only where no line declares the field with the old value. -/
theorem edit?_eq_none_iff (new : List Char) :
    field.edit? old new content = none ↔
      ∀ line ∈ content.splitOn '\n', ¬field.Holds old line := by
  rw [edit?_eq_changeLine?, Text.changeLine?, Option.map_eq_none_iff, Text.splitAt_eq_splitOn,
    Text.changeFirst?_eq_none_iff]
  simp only [editLine?_eq_none_iff]

end Field

/-- What setting a field in a manifest comes to. -/
structure Manifest.Edits (manifest : Manifest) (field : Field) (old new : String)
    (edited : Manifest) : Prop where
  /-- The manifest is that of the same file. -/
  path : edited.path = manifest.path
  /-- The first line that declares the field with the old value declares it with the new one, and
  every other character is kept. -/
  content : ∃ site : field.Site old.toList manifest.content.toList,
    manifest.content.toList = site.before ++ old.toList ++ site.after ∧
      edited.content.toList = site.before ++ new.toList ++ site.after

namespace Manifest

variable {manifest edited : Manifest} {field : Field} {old new : String} {missing : MissingLine}

theorem setValue_eq_ok_iff :
    manifest.setValue field old new = .ok edited ↔ manifest.Edits field old new edited := by
  unfold setValue
  constructor
  · intro set
    split at set
    next content taken =>
      obtain ⟨site, rfl⟩ := Field.edit?_eq_some_iff.mp taken
      cases set
      exact ⟨rfl, site, site.content_eq, String.toList_ofList⟩
    · cases set
  · rintro ⟨path, site, -, content⟩
    obtain ⟨_, text⟩ := edited
    obtain rfl : _ = manifest.path := path
    rw [Field.edit?_eq_some_iff.mpr ⟨site, rfl⟩, ← content]
    simp only [String.ofList_toList]

theorem setValue_eq_error_iff :
    manifest.setValue field old new = .error missing ↔
      (∀ line ∈ manifest.content.toList.splitOn '\n', ¬field.Holds old.toList line) ∧
        missing = ⟨manifest.path, .holds field old⟩ := by
  rw [← Field.edit?_eq_none_iff new.toList, setValue]
  cases field.edit? old.toList new.toList manifest.content.toList <;> simp [eq_comm]

/-- A field is set exactly where some line declares it with the old value. -/
theorem exists_setValue_iff :
    (∃ edited, manifest.setValue field old new = .ok edited) ↔
      ∃ line ∈ manifest.content.toList.splitOn '\n', field.Holds old.toList line := by
  cases set : manifest.setValue field old new with
  | ok edited =>
      obtain ⟨-, site, -⟩ := setValue_eq_ok_iff.mp set
      refine ⟨fun _ => ⟨site.line.text, ?_, site.line, rfl, site.declares, site.held⟩,
        fun _ => ⟨edited, rfl⟩⟩
      rw [site.lines]
      exact List.mem_append_right _ List.mem_cons_self
  | error missing =>
      obtain ⟨none, -⟩ := setValue_eq_error_iff.mp set
      constructor
      · rintro ⟨_, ⟨⟩⟩
      · rintro ⟨line, member, holds⟩
        exact absurd holds (none line member)

end Manifest

end ManifestPin
