import ManifestPin.Proofs.Hash.Placeholder
import ManifestPin.Proofs.Manifest.Value

/-! # Recognised placeholders

A hash is recognised as a placeholder exactly if it is the placeholder of some hash, which is to say
that it is spelled as one: zeros only, or an algorithm's name in front of fillers (`Spelled`). A
placeholder has the shape of its hash, and its length unless the hash names an algorithm and nothing
else.
-/

namespace ManifestPin.Hash

/-- The spellings of placeholders. -/
inductive Spelled : List Char → Prop where
  /-- One zero or more. -/
  | plain (count : Nat) : Spelled (List.replicate (count + 1) '0')
  /-- An algorithm's name and a hyphen, fillers or none, and an equals sign. -/
  | named (algorithm : HashAlgorithm) (count : Nat) :
      Spelled (algorithm.name.toList ++ '-' :: (List.replicate count 'A' ++ ['=']))

variable {hash : String}

/-- A placeholder is spelled as one, unless it stands for the empty hash. -/
theorem spelled_placeholder (nonempty : hash ≠ "") : Spelled (placeholder hash).toList := by
  cases shape : named? hash.toList with
  | some named =>
      rw [placeholder_of_named? shape]
      exact .named named.1 _
  | none =>
      obtain ⟨first, rest, characters⟩ := List.exists_cons_of_ne_nil
        fun empty => nonempty (String.toList_eq_nil_iff.mp empty)
      rw [placeholder_of_plain shape, characters, List.length_cons]
      exact .plain rest.length

/-- What is spelled as a placeholder stands for itself. -/
theorem placeholder_of_spelled (spelled : Spelled hash.toList) : placeholder hash = hash := by
  apply String.toList_injective
  generalize characters : hash.toList = text at spelled
  cases spelled with
  | plain count =>
      have plain : named? hash.toList = none := by rw [characters, named?_replicate_zero]
      rw [placeholder_of_plain plain, characters, List.length_replicate]
  | named algorithm count =>
      have named : named? hash.toList = some (algorithm, List.replicate count 'A' ++ ['=']) := by
        rw [characters, named?_append]
      rw [placeholder_of_named? named]
      simp

theorem isPlaceholder_iff : isPlaceholder hash = true ↔ hash ≠ "" ∧ placeholder hash = hash := by
  simp [isPlaceholder]

theorem isPlaceholder_iff_spelled : isPlaceholder hash = true ↔ Spelled hash.toList := by
  rw [isPlaceholder_iff]
  constructor
  · rintro ⟨nonempty, same⟩
    exact same ▸ spelled_placeholder nonempty
  · intro spelled
    refine ⟨?_, placeholder_of_spelled spelled⟩
    rintro rfl
    generalize characters : "".toList = text at spelled
    cases spelled with
    | plain count => cases characters
    | named algorithm count => cases algorithm <;> cases characters

/-- The recognised hashes are those that some hash has as its placeholder. -/
theorem isPlaceholder_iff_exists :
    isPlaceholder hash = true ↔ ∃ source, source ≠ "" ∧ placeholder source = hash := by
  constructor
  · intro recognised
    exact ⟨hash, isPlaceholder_iff.mp recognised⟩
  · rintro ⟨source, nonempty, rfl⟩
    exact isPlaceholder_placeholder nonempty

/-- The shape of a placeholder. -/
theorem shape_placeholder (hash : String) : shape (placeholder hash) = shape hash := by
  unfold shape
  cases named : named? hash.toList with
  | some found => rw [placeholder_of_named? named, named?_append]
  | none => rw [placeholder_of_plain named, named?_replicate_zero]

theorem toList_bare (algorithm : HashAlgorithm) :
    (algorithm.name ++ "-").toList = algorithm.name.toList ++ ['-'] := by
  rw [String.toList_append]
  rfl

/-- The placeholder of a hash without a payload is one longer than the hash. -/
theorem placeholder_bare (algorithm : HashAlgorithm) :
    placeholder (algorithm.name ++ "-") = algorithm.name ++ "-=" := by
  apply String.toList_injective
  have named : named? (algorithm.name ++ "-").toList = some (algorithm, []) := by
    rw [toList_bare, named?_append]
  rw [placeholder_of_named? named, String.toList_append]
  rfl

/-- Every other placeholder is as long as its hash. -/
theorem length_placeholder (payload : ∀ algorithm : HashAlgorithm, hash ≠ algorithm.name ++ "-") :
    (placeholder hash).length = hash.length := by
  rw [← String.length_toList, ← String.length_toList]
  cases shape : named? hash.toList with
  | some named =>
      obtain ⟨algorithm, _ | ⟨first, rest⟩⟩ := named
      · refine absurd (String.toList_injective ?_) (payload algorithm)
        rw [named?_eq_some_iff.mp shape, toList_bare]
      · rw [placeholder_of_named? shape, named?_eq_some_iff.mp shape]
        simp
  | none => rw [placeholder_of_plain shape, List.length_replicate]

/-- A placeholder is its own placeholder. The recognised hashes are the placeholders of all hashes
but the empty one, and those that are spelled as placeholders. A placeholder holds no quote and no
line break: on a line that declares a field, and in a manifest, it is read as it was written. -/
theorem isPlaceholder_exact (hash : String) :
    placeholder (placeholder hash) = placeholder hash ∧
      (isPlaceholder hash = true ↔ ∃ source, source ≠ "" ∧ placeholder source = hash) ∧
      (isPlaceholder hash = true ↔ Spelled hash.toList) ∧
      ('"' ∉ (placeholder hash).toList ∧ '\n' ∉ (placeholder hash).toList ∧
        '\r' ∉ (placeholder hash).toList) ∧
      (∀ (field : Field) (line : FieldLine), line.Declares field →
        field.readLine? (line.withValue (placeholder hash).toList).text =
          some (line.withValue (placeholder hash).toList)) ∧
      ∀ (manifest : Manifest) (field : Field) (old : String), manifest.value field = .ok old →
        ∃ edited, manifest.setValue field old (placeholder hash) = .ok edited ∧
          edited.value field = .ok (placeholder hash) := by
  have unquoted := quote_not_mem_placeholder hash
  have single := feed_not_mem_placeholder hash
  have unreturned : '\r' ∉ (placeholder hash).toList :=
    fun member => absurd (mem_placeholder member) (by decide)
  refine ⟨placeholder_placeholder hash, isPlaceholder_iff_exists, isPlaceholder_iff_spelled,
    ⟨unquoted, single, unreturned⟩, fun field line declares => ?_, fun manifest field old read => ?_⟩
  · exact Field.readLine?_of_declares ⟨declares.lead, unquoted, declares.tail⟩
  · exact ⟨_, Manifest.setValue_of_value read _,
      Manifest.value_overwrite_of_unquoted read single unquoted⟩

namespace Sample

/-- A manifest whose hash has one character of two octets as its payload. -/
def accented : Manifest where
  path := "m"
  content := "version = \"1\";\r\n\tsha256 =\"sha384-é\"; # \"\r\n"

end Sample

/-- A placeholder without fillers is recognised, written and read. -/
theorem isPlaceholder_exact_accented :
    isPlaceholder "sha384-=" = true ∧
      ∃ edited, Sample.accented.setValue .hash "sha384-é" "sha384-=" = .ok edited ∧
        edited.value .hash = .ok "sha384-=" := by
  have stands : placeholder "sha384-é" = "sha384-=" := by decide +kernel
  have read : Sample.accented.value .hash = .ok "sha384-é" := by decide +kernel
  have written := (isPlaceholder_exact "sha384-é").2.2.2.2.2 Sample.accented .hash _ read
  rw [stands] at written
  exact ⟨(isPlaceholder_exact "sha384-=").2.2.1.mpr (.named .sha384 0), written⟩

/-- A placeholder has the shape of its hash. It has as many characters unless the hash is an
algorithm's name and a hyphen, which an equals sign is added to. -/
theorem placeholder_alike (hash : String) :
    shape (placeholder hash) = shape hash ∧
      ((placeholder hash).length = hash.length ↔
        ¬∃ algorithm : HashAlgorithm, hash = algorithm.name ++ "-") ∧
      ∀ algorithm : HashAlgorithm, placeholder (algorithm.name ++ "-") = algorithm.name ++ "-=" := by
  refine ⟨shape_placeholder hash, ⟨?_, fun payload => ?_⟩, placeholder_bare⟩
  · rintro same ⟨algorithm, rfl⟩
    rw [placeholder_bare, String.length_append, String.length_append] at same
    exact absurd (Nat.add_left_cancel same) (by decide)
  · exact length_placeholder fun algorithm bare => payload ⟨algorithm, bare⟩

/-- Without a payload there is nothing that the equals sign takes the place of. -/
theorem placeholder_alike_bare : (placeholder "sha256-").length ≠ "sha256-".length := by
  decide +kernel

end ManifestPin.Hash
