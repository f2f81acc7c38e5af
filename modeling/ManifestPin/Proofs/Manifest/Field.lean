import ManifestPin.Manifest.Field
import ManifestPin.Proofs.Text.Lines

/-! # Declaring lines

A line declares a field when it is cut in one way only: blanks, the key, an equals sign with blanks
around it and a quote; a value without quotes; a quote and anything (`readLine?_eq_some_iff`). Line
breaks at the end of a line change only what follows the value, so the reading side and the editing
side meet the same declarations.
-/

namespace ManifestPin

/-- A line that is cut around the value that it declares for a field. -/
structure FieldLine.Declares (line : FieldLine) (field : Field) : Prop where
  /-- Blanks, the key, an equals sign with blanks around it, and the opening quote. -/
  lead : ∃ indent gap margin : List Char,
    (∀ c ∈ indent, Text.isBlank c = true) ∧ (∀ c ∈ gap, Text.isBlank c = true) ∧
      (∀ c ∈ margin, Text.isBlank c = true) ∧
      line.lead = indent ++ field.key.toList ++ gap ++ ['='] ++ margin ++ ['"']
  /-- The value holds no quote. -/
  value : '"' ∉ line.value
  /-- The closing quote follows, and anything. -/
  tail : ∃ rest, line.tail = '"' :: rest

namespace Field

variable {field : Field}

theorem takeWhile_append_stop {p : Char → Bool} {run : List Char} {c : Char}
    (all : ∀ c ∈ run, p c = true) (stop : p c = false) (rest : List Char) :
    (run ++ c :: rest).takeWhile p = run :=
  Text.takeWhile_append_of_stop all (by simpa using stop)

theorem dropWhile_append_stop {p : Char → Bool} {run : List Char} {c : Char}
    (all : ∀ c ∈ run, p c = true) (stop : p c = false) (rest : List Char) :
    (run ++ c :: rest).dropWhile p = c :: rest :=
  Text.dropWhile_append_of_stop all (by simpa using stop)

/-- A key starts with a letter. -/
theorem key_eq_cons (field : Field) :
    ∃ c rest, field.key.toList = c :: rest ∧ Text.isBlank c = false := by
  cases field
  · exact ⟨'v', _, rfl, by decide⟩
  · exact ⟨'s', _, rfl, by decide⟩

/-- A line that declares the field is read, and cut around its value. -/
theorem readLine?_of_declares {line : FieldLine} (declares : line.Declares field) :
    field.readLine? line.text = some line := by
  obtain ⟨⟨indent, gap, margin, blankIndent, blankGap, blankMargin, lead⟩, unquoted, rest, tail⟩ :=
    declares
  obtain ⟨first, more, key, letter⟩ := field.key_eq_cons
  obtain ⟨_, value, _⟩ := line
  simp only at lead tail unquoted
  subst lead tail
  have plain : ∀ c ∈ value, decide (c ≠ '"') = true := by
    intro c member
    exact decide_eq_true fun same => unquoted (same ▸ member)
  have text : FieldLine.text ⟨indent ++ field.key.toList ++ gap ++ ['='] ++ margin ++ ['"'],
      value, '"' :: rest⟩ = indent ++ (field.key.toList ++ (gap ++ '=' ::
        (margin ++ '"' :: (value ++ '"' :: rest)))) := by
    simp [FieldLine.text]
  rw [text]
  have start : field.key.toList ++ (gap ++ '=' :: (margin ++ '"' :: (value ++ '"' :: rest))) =
      first :: (more ++ (gap ++ '=' :: (margin ++ '"' :: (value ++ '"' :: rest)))) := by
    rw [key, List.cons_append]
  have indented : (indent ++ (field.key.toList ++ (gap ++ '=' ::
      (margin ++ '"' :: (value ++ '"' :: rest))))).takeWhile Text.isBlank = indent := by
    rw [start, takeWhile_append_stop blankIndent letter]
  have keyed : (indent ++ (field.key.toList ++ (gap ++ '=' ::
      (margin ++ '"' :: (value ++ '"' :: rest))))).dropWhile Text.isBlank =
        field.key.toList ++ (gap ++ '=' :: (margin ++ '"' :: (value ++ '"' :: rest))) := by
    rw [start, dropWhile_append_stop blankIndent letter]
  simp only [readLine?, indented, keyed, Text.dropStart?_append,
    dropWhile_append_stop blankGap (show Text.isBlank '=' = false by decide),
    takeWhile_append_stop blankGap (show Text.isBlank '=' = false by decide),
    dropWhile_append_stop blankMargin (show Text.isBlank '"' = false by decide),
    takeWhile_append_stop blankMargin (show Text.isBlank '"' = false by decide),
    dropWhile_append_stop plain (show decide ('"' ≠ '"') = false by decide),
    takeWhile_append_stop plain (show decide ('"' ≠ '"') = false by decide)]

/-- A line that is read declares the field. -/
theorem declares_of_readLine? {text : List Char} {line : FieldLine}
    (read : field.readLine? text = some line) : line.text = text ∧ line.Declares field := by
  unfold readLine? at read
  split at read
  · contradiction
  · next afterKey keyed =>
    split at read
    · next afterEquals equals =>
      split at read
      · next quoted opened =>
        split at read
        · contradiction
        · next c rest closed =>
          obtain rfl := Option.some.inj read
          have quote : c = '"' := by
            have stop := List.head?_dropWhile_not (fun c => c ≠ '"') quoted
            rw [closed] at stop
            simpa using stop
          subst quote
          constructor
          · calc
              _ = text.takeWhile Text.isBlank ++ (field.key.toList ++
                  (afterKey.takeWhile Text.isBlank ++ '=' ::
                    (afterEquals.takeWhile Text.isBlank ++ '"' ::
                      (quoted.takeWhile (· ≠ '"') ++ '"' :: rest)))) := by
                simp [FieldLine.text]
              _ = text := by
                rw [← closed, List.takeWhile_append_dropWhile, ← opened,
                  List.takeWhile_append_dropWhile, ← equals, List.takeWhile_append_dropWhile,
                  ← Text.eq_append_of_dropStart? keyed, List.takeWhile_append_dropWhile]
          · refine ⟨⟨_, _, _, ?_, ?_, ?_, rfl⟩, ?_, _, rfl⟩
            · exact fun c => List.all_eq_true.mp List.all_takeWhile c
            · exact fun c => List.all_eq_true.mp List.all_takeWhile c
            · exact fun c => List.all_eq_true.mp List.all_takeWhile c
            · intro member
              simpa using List.all_eq_true.mp List.all_takeWhile _ member
      · contradiction
    · contradiction

/-- Reading a line finds the one way in which it declares the field. -/
theorem readLine?_eq_some_iff {text : List Char} {line : FieldLine} :
    field.readLine? text = some line ↔ line.text = text ∧ line.Declares field := by
  constructor
  · exact declares_of_readLine?
  · rintro ⟨rfl, declares⟩
    exact readLine?_of_declares declares

/-- No line declares both fields. -/
theorem readLine?_eq_none_of_ne {other : Field} (apart : other ≠ field) {text : List Char}
    {line : FieldLine} (read : field.readLine? text = some line) :
    other.readLine? text = none := by
  have keys : ∀ rest : List Char, Text.dropStart? Field.version.key.toList rest = none ∨
      Text.dropStart? Field.hash.key.toList rest = none := by
    intro rest
    rcases rest with _ | ⟨c, rest⟩
    · exact .inl rfl
    · by_cases first : 'v' = c
      · subst first
        exact .inr rfl
      · exact .inl (if_neg first)
  unfold readLine? at read ⊢
  cases field <;> cases other
  · exact (apart rfl).elim
  · rcases keys (text.dropWhile Text.isBlank) with none | none
    · simp only [none] at read
      contradiction
    · simp only [none]
  · rcases keys (text.dropWhile Text.isBlank) with none | none
    · simp only [none]
    · simp only [none] at read
      contradiction
  · exact (apart rfl).elim

/-- Text without a quote at the end of a line only lengthens what follows the value. -/
theorem readLine?_append (field : Field) (text : List Char) {ending : List Char}
    (unquoted : '"' ∉ ending) :
    field.readLine? (text ++ ending) =
      (field.readLine? text).map fun line => { line with tail := line.tail ++ ending } := by
  cases read : field.readLine? text with
  | some line =>
      obtain ⟨rfl, lead, value, rest, tail⟩ := declares_of_readLine? read
      refine readLine?_eq_some_iff.mpr ⟨by simp [FieldLine.text], lead, value, rest ++ ending, ?_⟩
      simp only [tail, List.cons_append]
  | none =>
      cases longer : field.readLine? (text ++ ending) with
      | none => rfl
      | some line =>
          obtain ⟨whole, lead, value, rest, tail⟩ := declares_of_readLine? longer
          rw [FieldLine.text, tail] at whole
          rcases List.append_eq_append_iff.mp whole with ⟨between, split, same⟩ | ⟨between, _, same⟩
          · rcases between with _ | ⟨c, between⟩
            · have quote : '"' ∈ [] ++ ending := same ▸ List.mem_cons_self
              exact (unquoted quote).elim
            · obtain ⟨rfl, rfl⟩ := List.cons.inj same
              have shorter : FieldLine.Declares ⟨line.lead, line.value, '"' :: between⟩ field :=
                ⟨lead, value, between, rfl⟩
              have found := readLine?_of_declares shorter
              rw [FieldLine.text, ← split, read] at found
              contradiction
          · exact (unquoted (by simp [same])).elim

end Field
end ManifestPin
