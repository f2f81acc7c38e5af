import ManifestPin.Proofs.Manifest.Laws

/-! # Line ends

A manifest may end its lines with a line feed alone or with carriage returns in front of it. A
further carriage return in front of every line feed changes nothing that is read, and an edit keeps
it on every line, so both spellings of a manifest are edited alike.
-/

namespace ManifestPin

namespace Text

variable {line : List Char}

/-- A text with a carriage return put in front of every line feed. -/
def withReturns (text : List Char) : List Char :=
  text.flatMap fun c => if c = '\n' then ['\r', '\n'] else [c]

theorem withReturns_of_not_mem (absent : '\n' ∉ line) : withReturns line = line := by
  induction line with
  | nil => rfl
  | cons c line ih =>
      simp only [List.mem_cons, not_or] at absent
      rw [withReturns, List.flatMap_cons, if_neg (Ne.symm absent.1)]
      exact congrArg (c :: ·) (ih absent.2)

/-- A line keeps its text but for a carriage return at its end. -/
theorem withReturns_append_cons (absent : '\n' ∉ line) (rest : List Char) :
    withReturns (line ++ '\n' :: rest) = (line ++ ['\r']) ++ '\n' :: withReturns rest := by
  have split : withReturns (line ++ '\n' :: rest) =
      withReturns line ++ '\r' :: '\n' :: withReturns rest := by
    simp [withReturns]
  rw [split, withReturns_of_not_mem absent, List.append_assoc, List.singleton_append]

theorem not_mem_append_return (absent : '\n' ∉ line) : '\n' ∉ line ++ ['\r'] := by
  simpa using absent

end Text

namespace Field

open Text (withReturns)

variable {field : Field} {old new content line edited : List Char}

/-- The first line that declares a field declares the same value. -/
theorem valueIn?_withReturns (field : Field) (content : List Char) :
    field.valueIn? (withReturns content) = field.valueIn? content := by
  induction content using Text.line_induction with
  | last line absent => rw [Text.withReturns_of_not_mem absent]
  | more line rest absent ih =>
      rw [Text.withReturns_append_cons absent, valueIn?_append_cons absent,
        valueIn?_append_cons (Text.not_mem_append_return absent),
        field.readLine?_append line (by decide), ih]
      cases field.readLine? line <;> rfl

/-- An edited line is still one line. -/
theorem not_mem_of_editLine? (absent : '\n' ∉ line) (single : '\n' ∉ new)
    (taken : field.editLine? old new line = some edited) : '\n' ∉ edited := by
  obtain ⟨declared, rfl, -, -, rfl⟩ := editLine?_eq_some_iff.mp taken
  exact FieldLine.not_mem_withValue absent single

/-- An edit finds the same line, and leaves the carriage returns of all lines. -/
theorem edit?_withReturns (single : '\n' ∉ new) (content : List Char) :
    field.edit? old new (withReturns content) =
      (field.edit? old new content).map withReturns := by
  rw [edit?_eq_changeLine?, edit?_eq_changeLine?]
  induction content using Text.line_induction with
  | last line absent =>
      rw [Text.withReturns_of_not_mem absent, Text.changeLine?_of_not_mem absent]
      cases taken : field.editLine? old new line with
      | none => rfl
      | some edited =>
          rw [Option.map_some,
            Text.withReturns_of_not_mem (not_mem_of_editLine? absent single taken)]
  | more line rest absent ih =>
      rw [Text.withReturns_append_cons absent, Text.changeLine?_append_cons absent,
        Text.changeLine?_append_cons (Text.not_mem_append_return absent),
        field.editLine?_append old new line (by decide), ih]
      cases taken : field.editLine? old new line with
      | some edited =>
          have kept := Text.withReturns_append_cons (not_mem_of_editLine? absent single taken) rest
          simp only [Option.map_some, kept]
      | none =>
          simp only [Option.map_none, Option.map_map]
          congr 1
          funext changed
          exact (Text.withReturns_append_cons absent changed).symm

end Field

namespace Manifest

variable {field : Field} {old new : String}

/-- The manifest with a carriage return put in front of every line feed. -/
def withReturns (manifest : Manifest) : Manifest :=
  { manifest with content := String.ofList (Text.withReturns manifest.content.toList) }

theorem value_withReturns (manifest : Manifest) (field : Field) :
    manifest.withReturns.value field = manifest.value field := by
  rw [value, value, withReturns, String.toList_ofList, Field.valueIn?_withReturns]

theorem setValue_withReturns (manifest : Manifest) (single : '\n' ∉ new.toList) :
    manifest.withReturns.setValue field old new =
      (manifest.setValue field old new).map withReturns := by
  rw [setValue, setValue, withReturns, String.toList_ofList, Field.edit?_withReturns single]
  cases field.edit? old.toList new.toList manifest.content.toList with
  | none => rfl
  | some content =>
      simp only [Option.map_some, Except.map, withReturns, String.toList_ofList]

/-- With a carriage return put in front of every line feed a manifest pins the same values or lacks
the same lines. It is edited on the same line to the same effect, or fails alike, unless the new
value is itself on several lines. -/
theorem withReturns_alike (manifest : Manifest) (field : Field) :
    manifest.withReturns.value field = manifest.value field ∧
      ∀ old new : String, '\n' ∉ new.toList →
        manifest.withReturns.setValue field old new =
          (manifest.setValue field old new).map withReturns :=
  ⟨manifest.value_withReturns field, fun _ _ single => manifest.setValue_withReturns single⟩

/-- Runs of carriage returns get longer, and a last line without a line feed stays as it is. -/
theorem withReturns_alike_crowded :
    Sample.crowded.withReturns.content =
        "  sha256 = \"a\";\r\r\r\nversion = \"1\"; # sha256 = \"b\"\r\r\nversion = \"2\";" ∧
      Sample.crowded.withReturns.value .hash = .ok "a" ∧
      Sample.crowded.withReturns.setValue .version "2" "3\r" = .ok
        ⟨"m", "  sha256 = \"a\";\r\r\r\nversion = \"1\"; # sha256 = \"b\"\r\r\nversion = \"3\r\";"⟩ := by
  refine ⟨by decide +kernel, ?_, ?_⟩
  · rw [(withReturns_alike Sample.crowded .hash).1]
    decide +kernel
  · rw [(withReturns_alike Sample.crowded .version).2 "2" "3\r" (by decide)]
    decide +kernel

end Manifest

end ManifestPin
