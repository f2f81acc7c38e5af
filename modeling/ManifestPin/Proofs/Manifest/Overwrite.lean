import ManifestPin.Proofs.Manifest.Field

/-! # Overwriting a pinned value

The content in which the first line that declares a field holds another value. Replacing the value
that is read from a text overwrites that text (`edit?_of_valueIn?`); what is read afterwards is the
new value up to its first quote, and the other field's value is untouched.
-/

namespace ManifestPin

namespace Text

variable (change : List Char → Option (List Char))

/-- The lines with the first one changed that `change` takes. -/
def changeFirst? : List (List Char) → Option (List (List Char))
  | [] => none
  | line :: more =>
    match change line with
    | some changed => some (changed :: more)
    | none => (changeFirst? more).map (line :: ·)

/-- The text with the first line changed that `change` takes. -/
def changeLine? (text : List Char) : Option (List Char) :=
  (changeFirst? change (splitAt '\n' text)).map (joinWith ['\n'])

variable {change} {line : List Char}

theorem changeLine?_of_not_mem (absent : '\n' ∉ line) : changeLine? change line = change line := by
  rw [changeLine?, splitAt_of_not_mem absent, changeFirst?]
  cases change line <;> simp [changeFirst?, joinWith]

theorem changeLine?_append_cons (absent : '\n' ∉ line) (rest : List Char) :
    changeLine? change (line ++ '\n' :: rest) =
      match change line with
      | some changed => some (changed ++ '\n' :: rest)
      | none => (changeLine? change rest).map fun changed => line ++ '\n' :: changed := by
  have joined (first : List Char) {more : List (List Char)} (nonempty : more ≠ []) :
      joinWith ['\n'] (first :: more) = first ++ '\n' :: joinWith ['\n'] more := by
    rw [joinWith, List.intercalate_cons_of_ne_nil nonempty, List.append_assoc,
      List.singleton_append, joinWith]
  rw [changeLine?, splitAt_cons_of_not_mem absent, changeFirst?]
  cases change line with
  | some changed =>
      simp only [Option.map_some, joined changed (splitAt_ne_nil '\n' rest), joinWith_splitAt]
  | none =>
      rw [changeLine?]
      cases further : changeFirst? change (splitAt '\n' rest) with
      | none => rfl
      | some lines =>
          have nonempty : lines ≠ [] := by
            rintro rfl
            cases pieces : splitAt '\n' rest with
            | nil => exact splitAt_ne_nil _ _ pieces
            | cons piece more =>
                rw [pieces, changeFirst?] at further
                split at further
                · simp at further
                · simp at further
          simp only [Option.map_some, joined line nonempty]

end Text

namespace FieldLine

variable {field : Field} {line : FieldLine}

/-- A declared value that is replaced is read up to its first quote. -/
theorem Declares.readLine?_withValue (declares : line.Declares field) (new : List Char) :
    field.readLine? (line.withValue new).text = some
      { lead := line.lead
        value := new.takeWhile (· ≠ '"')
        tail := new.dropWhile (· ≠ '"') ++ line.tail } := by
  obtain ⟨lead, _, rest, tail⟩ := declares
  refine Field.readLine?_eq_some_iff.mpr ⟨?_, lead, ?_, ?_⟩
  · rw [text, text, withValue, List.append_assoc, ← List.append_assoc (List.takeWhile _ _),
      List.takeWhile_append_dropWhile, List.append_assoc]
  · intro member
    simpa using List.all_eq_true.mp List.all_takeWhile _ member
  · cases after : new.dropWhile (· ≠ '"') with
    | nil => exact ⟨rest, tail⟩
    | cons c more =>
        have stop := List.head?_dropWhile_not (fun c => c ≠ '"') new
        rw [after] at stop
        obtain rfl : c = '"' := by simpa using stop
        exact ⟨more ++ line.tail, rfl⟩

theorem not_mem_withValue {c : Char} {new : List Char} (absent : c ∉ line.text)
    (fresh : c ∉ new) : c ∉ (line.withValue new).text := by
  simp only [text, withValue, List.mem_append, not_or] at absent ⊢
  exact ⟨⟨absent.1.1, fresh⟩, absent.2⟩

end FieldLine

namespace Field

variable {field : Field}

/-- A line that declares the field, with another value. -/
def overwriteLine? (field : Field) (new line : List Char) : Option (List Char) :=
  (field.readLine? line).map fun declared => (declared.withValue new).text

/-- A line that declares the field with the old value, with the new one. -/
def editLine? (field : Field) (old new line : List Char) : Option (List Char) :=
  (field.readLine? line).bind fun declared =>
    if declared.value = old then some (declared.withValue new).text else none

/-- A text with another value on the first line that declares the field. -/
def overwrite (field : Field) (new content : List Char) : List Char :=
  (Text.changeLine? (field.overwriteLine? new) content).getD content

theorem overwrite_of_not_mem {line : List Char} (absent : '\n' ∉ line) (new : List Char) :
    field.overwrite new line = (field.overwriteLine? new line).getD line := by
  rw [overwrite, Text.changeLine?_of_not_mem absent]

theorem overwrite_append_cons {line : List Char} (absent : '\n' ∉ line) (new rest : List Char) :
    field.overwrite new (line ++ '\n' :: rest) =
      match field.readLine? line with
      | some declared => (declared.withValue new).text ++ '\n' :: rest
      | none => line ++ '\n' :: field.overwrite new rest := by
  rw [overwrite, Text.changeLine?_append_cons absent, overwriteLine?]
  cases field.readLine? line with
  | some declared => rfl
  | none =>
      rw [overwrite]
      simp only [Option.map_none]
      cases Text.changeLine? (field.overwriteLine? new) rest <;> rfl

theorem valueIn?_of_not_mem {line : List Char} (absent : '\n' ∉ line) :
    field.valueIn? line = (field.readLine? line).map FieldLine.value := by
  rw [valueIn?, Text.lines]
  rcases line with _ | ⟨c, line⟩
  · cases field <;> rfl
  · rw [Text.segments_of_not_mem absent (List.cons_ne_nil _ _), List.map_singleton,
      Text.lineOf_of_not_mem absent, List.findSome?_singleton]

theorem valueIn?_append_cons {line : List Char} (absent : '\n' ∉ line) (rest : List Char) :
    field.valueIn? (line ++ '\n' :: rest) =
      match field.readLine? line with
      | some declared => some declared.value
      | none => field.valueIn? rest := by
  obtain ⟨breaks, all, whole⟩ := Text.lineOf_append_breaks line
  have unquoted : '"' ∉ breaks := by
    intro member
    exact absurd (all _ member) (by decide)
  have same : (field.readLine? (Text.lineOf (line ++ ['\n']))).map FieldLine.value =
      (field.readLine? line).map FieldLine.value := by
    have longer := field.readLine?_append (Text.lineOf (line ++ ['\n'])) unquoted
    rw [whole] at longer
    rw [longer, Option.map_map]
    rfl
  rw [valueIn?, Text.lines, Text.segments_append_cons absent, List.map_cons,
    List.findSome?_cons, same]
  cases field.readLine? line <;> rfl

/-- Editing a segment, whose line breaks at the end are set aside, edits its text. -/
theorem editSegment?_eq_editLine? (field : Field) (old new segment : List Char) :
    field.editSegment? old new segment = field.editLine? old new segment := by
  have unquoted : '"' ∉ Text.takeEndWhile Text.isLineBreak segment := by
    intro member
    exact absurd (Text.all_takeEndWhile _ _ _ member) (by decide)
  have whole := field.readLine?_append (Text.dropEndWhile Text.isLineBreak segment) unquoted
  rw [Text.dropEndWhile_append_takeEndWhile] at whole
  rw [editSegment?, editLine?, whole]
  cases field.readLine? (Text.dropEndWhile Text.isLineBreak segment) with
  | none => rfl
  | some declared =>
      by_cases same : declared.value = old
      · simp [same, FieldLine.withValue, FieldLine.text]
      · simp [same]

/-- Text without a quote at the end of a line is kept by an edit of the line. -/
theorem editLine?_append (field : Field) (old new line : List Char) {ending : List Char}
    (unquoted : '"' ∉ ending) :
    field.editLine? old new (line ++ ending) =
      (field.editLine? old new line).map (· ++ ending) := by
  rw [editLine?, editLine?, field.readLine?_append line unquoted]
  cases field.readLine? line with
  | none => rfl
  | some declared =>
      by_cases same : declared.value = old
      · simp [same, FieldLine.withValue, FieldLine.text]
      · simp [same]

/-- Editing a text edits its first line that declares the field with the old value. -/
theorem edit?_eq_changeLine? (field : Field) (old new content : List Char) :
    field.edit? old new content = Text.changeLine? (field.editLine? old new) content := by
  induction content using Text.line_induction with
  | last line absent =>
      rw [Text.changeLine?_of_not_mem absent, edit?]
      rcases line with _ | ⟨c, line⟩
      · cases field <;> rfl
      · rw [Text.segments_of_not_mem absent (List.cons_ne_nil _ _), editFirst?,
          editSegment?_eq_editLine?]
        cases field.editLine? old new (c :: line) <;> simp [editFirst?]
  | more line rest absent ih =>
      rw [Text.changeLine?_append_cons absent, edit?, Text.segments_append_cons absent,
        editFirst?, editSegment?_eq_editLine?, field.editLine?_append old new line (by decide)]
      cases field.editLine? old new line with
      | some edited => simp [Text.flatten_segments]
      | none =>
          rw [← ih, edit?]
          simp only [Option.map_none, Option.map_map]
          congr 1
          funext lines
          simp

/-- Replacing the value that is read from a text overwrites it. -/
theorem edit?_of_valueIn? {content old : List Char} (read : field.valueIn? content = some old)
    (new : List Char) : field.edit? old new content = some (field.overwrite new content) := by
  rw [edit?_eq_changeLine?]
  induction content using Text.line_induction with
  | last line absent =>
      rw [Text.changeLine?_of_not_mem absent, overwrite_of_not_mem absent, overwriteLine?,
        editLine?]
      rw [valueIn?_of_not_mem absent] at read
      obtain ⟨declared, found, rfl⟩ := Option.map_eq_some_iff.mp read
      simp [found]
  | more line rest absent ih =>
      rw [Text.changeLine?_append_cons absent, overwrite_append_cons absent, editLine?]
      rw [valueIn?_append_cons absent] at read
      cases found : field.readLine? line with
      | some declared =>
          rw [found] at read
          obtain rfl := Option.some.inj read
          simp
      | none =>
          rw [found] at read
          simp [ih read]

/-- Overwriting replaces the value that is read and keeps everything before and after it. -/
theorem overwrite_eq_append {content old : List Char} (read : field.valueIn? content = some old) :
    ∃ before after, content = before ++ old ++ after ∧
      ∀ new, field.overwrite new content = before ++ new ++ after := by
  induction content using Text.line_induction with
  | last line absent =>
      rw [valueIn?_of_not_mem absent] at read
      obtain ⟨declared, found, rfl⟩ := Option.map_eq_some_iff.mp read
      obtain ⟨rfl, -⟩ := declares_of_readLine? found
      refine ⟨declared.lead, declared.tail, rfl, fun new => ?_⟩
      rw [overwrite_of_not_mem absent, overwriteLine?, found]
      rfl
  | more line rest absent ih =>
      rw [valueIn?_append_cons absent] at read
      cases found : field.readLine? line with
      | some declared =>
          obtain ⟨rfl, -⟩ := declares_of_readLine? found
          rw [found] at read
          obtain rfl := Option.some.inj read
          refine ⟨declared.lead, declared.tail ++ '\n' :: rest, ?_, fun new => ?_⟩
          · simp [FieldLine.text]
          · rw [overwrite_append_cons absent, found]
            simp [FieldLine.text, FieldLine.withValue]
      | none =>
          rw [found] at read
          obtain ⟨before, after, whole, replaced⟩ := ih read
          refine ⟨line ++ '\n' :: before, after, by simp [whole], fun new => ?_⟩
          rw [overwrite_append_cons absent, found]
          simp [replaced new]

/-- A value that overwrites another is read up to its first quote. -/
theorem valueIn?_overwrite {content old new : List Char} (read : field.valueIn? content = some old)
    (single : '\n' ∉ new) :
    field.valueIn? (field.overwrite new content) = some (new.takeWhile (· ≠ '"')) := by
  induction content using Text.line_induction with
  | last line absent =>
      rw [valueIn?_of_not_mem absent] at read
      obtain ⟨declared, found, rfl⟩ := Option.map_eq_some_iff.mp read
      obtain ⟨rfl, declares⟩ := declares_of_readLine? found
      rw [overwrite_of_not_mem absent, overwriteLine?, found, Option.map_some, Option.getD_some,
        valueIn?_of_not_mem (FieldLine.not_mem_withValue absent single),
        declares.readLine?_withValue]
      rfl
  | more line rest absent ih =>
      rw [valueIn?_append_cons absent] at read
      rw [overwrite_append_cons absent]
      cases found : field.readLine? line with
      | some declared =>
          obtain ⟨rfl, declares⟩ := declares_of_readLine? found
          simp only
          rw [valueIn?_append_cons (FieldLine.not_mem_withValue absent single),
            declares.readLine?_withValue]
      | none =>
          rw [found] at read
          simp only
          rw [valueIn?_append_cons absent, found]
          exact ih read

/-- Overwriting one field leaves the other as it is read. -/
theorem valueIn?_overwrite_of_ne {other : Field} (apart : other ≠ field) {new : List Char}
    (single : '\n' ∉ new) (content : List Char) :
    other.valueIn? (field.overwrite new content) = other.valueIn? content := by
  induction content using Text.line_induction with
  | last line absent =>
      rw [overwrite_of_not_mem absent, overwriteLine?]
      cases found : field.readLine? line with
      | none => rfl
      | some declared =>
          obtain ⟨rfl, declares⟩ := declares_of_readLine? found
          rw [Option.map_some, Option.getD_some, valueIn?_of_not_mem absent,
            valueIn?_of_not_mem (FieldLine.not_mem_withValue absent single),
            readLine?_eq_none_of_ne apart found,
            readLine?_eq_none_of_ne apart (declares.readLine?_withValue new)]
  | more line rest absent ih =>
      rw [overwrite_append_cons absent, valueIn?_append_cons absent]
      cases found : field.readLine? line with
      | none =>
          simp only
          rw [valueIn?_append_cons absent, ih]
      | some declared =>
          obtain ⟨rfl, declares⟩ := declares_of_readLine? found
          simp only
          rw [valueIn?_append_cons (FieldLine.not_mem_withValue absent single),
            readLine?_eq_none_of_ne apart found,
            readLine?_eq_none_of_ne apart (declares.readLine?_withValue new)]

/-- A value without quotes that overwrote another is itself overwritten. -/
theorem overwrite_overwrite {content old new : List Char}
    (read : field.valueIn? content = some old) (unquoted : '"' ∉ new) (single : '\n' ∉ new)
    (newer : List Char) :
    field.overwrite newer (field.overwrite new content) = field.overwrite newer content := by
  have reread {declared : FieldLine} (declares : declared.Declares field) :
      field.readLine? (declared.withValue new).text = some (declared.withValue new) :=
    readLine?_of_declares ⟨declares.lead, unquoted, declares.tail⟩
  induction content using Text.line_induction with
  | last line absent =>
      rw [valueIn?_of_not_mem absent] at read
      obtain ⟨declared, found, rfl⟩ := Option.map_eq_some_iff.mp read
      obtain ⟨rfl, declares⟩ := declares_of_readLine? found
      have fresh := FieldLine.not_mem_withValue absent single
      simp only [overwrite_of_not_mem absent, overwrite_of_not_mem fresh, overwriteLine?, found,
        reread declares, Option.map_some, Option.getD_some]
      rfl
  | more line rest absent ih =>
      rw [valueIn?_append_cons absent] at read
      rw [overwrite_append_cons absent, overwrite_append_cons absent]
      cases found : field.readLine? line with
      | some declared =>
          obtain ⟨rfl, declares⟩ := declares_of_readLine? found
          have fresh := FieldLine.not_mem_withValue absent single
          simp only [overwrite_append_cons fresh, reread declares]
          rfl
      | none =>
          rw [found] at read
          simp only [overwrite_append_cons absent, found, ih read]

/-- Overwriting a value with itself changes nothing. -/
theorem overwrite_self {content old : List Char} (read : field.valueIn? content = some old) :
    field.overwrite old content = content := by
  induction content using Text.line_induction with
  | last line absent =>
      rw [valueIn?_of_not_mem absent] at read
      obtain ⟨declared, found, rfl⟩ := Option.map_eq_some_iff.mp read
      rw [overwrite_of_not_mem absent, overwriteLine?, found]
      exact (declares_of_readLine? found).1
  | more line rest absent ih =>
      rw [valueIn?_append_cons absent] at read
      rw [overwrite_append_cons absent]
      cases found : field.readLine? line with
      | some declared =>
          rw [found] at read
          obtain rfl := Option.some.inj read
          exact congrArg (· ++ '\n' :: rest) (declares_of_readLine? found).1
      | none =>
          rw [found] at read
          exact congrArg (line ++ '\n' :: ·) (ih read)

end Field

end ManifestPin
