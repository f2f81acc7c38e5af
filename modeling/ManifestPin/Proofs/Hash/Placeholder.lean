import ManifestPin.Hash

/-! # Placeholder hashes

A placeholder is its own placeholder (`placeholder_placeholder`), so a run that finds one computes
the same text again. It is letters, digits, hyphens and equals signs only, so it stands between
quotes on one line.
-/

namespace ManifestPin.Hash

/-- A payload follows the algorithm's name and the separator. -/
theorem payload?_eq_some_iff {algorithm : HashAlgorithm} {separator : Char}
    {hash payload : List Char} :
    payload? algorithm separator hash = some payload ↔
      hash = algorithm.name.toList ++ separator :: payload := by
  constructor
  · intro found
    simpa using Text.eq_append_of_dropStart? found
  · rintro rfl
    have same : algorithm.name.toList ++ separator :: payload =
        (algorithm.name.toList ++ [separator]) ++ payload := by simp
    rw [payload?, same, Text.dropStart?_append]

/-- An algorithm's name, a hyphen and a payload name that algorithm. -/
theorem named?_append (algorithm : HashAlgorithm) (payload : List Char) :
    named? (algorithm.name.toList ++ '-' :: payload) = some (algorithm, payload) := by
  cases algorithm <;> simp [named?, HashAlgorithm.all, HashAlgorithm.name, payload?,
    Text.dropStart?]

/-- A hash that names an algorithm holds its payload after the hyphen. -/
theorem named?_eq_some_iff {text payload : List Char} {algorithm : HashAlgorithm} :
    named? text = some (algorithm, payload) ↔ text = algorithm.name.toList ++ '-' :: payload := by
  constructor
  · intro found
    obtain ⟨other, -, held⟩ := List.exists_of_findSome?_eq_some found
    obtain ⟨rest, given, same⟩ := Option.map_eq_some_iff.mp held
    cases same
    exact payload?_eq_some_iff.mp given
  · rintro rfl
    exact named?_append algorithm payload

/-- A digest of zeros names no algorithm. -/
theorem named?_replicate_zero (count : Nat) : named? (List.replicate count '0') = none := by
  cases count <;> rfl

/-- The placeholder of a hash that names its algorithm. -/
theorem placeholder_of_named? {hash : String} {algorithm : HashAlgorithm} {payload : List Char}
    (named : named? hash.toList = some (algorithm, payload)) :
    (placeholder hash).toList =
      algorithm.name.toList ++ '-' :: (List.replicate (payload.length - 1) 'A' ++ ['=']) := by
  rw [placeholder, named]
  simp

/-- The placeholder of a plain digest. -/
theorem placeholder_of_plain {hash : String} (plain : named? hash.toList = none) :
    (placeholder hash).toList = List.replicate hash.toList.length '0' := by
  rw [placeholder, plain]
  simp

/-- A placeholder is its own placeholder. -/
theorem placeholder_placeholder (hash : String) :
    placeholder (placeholder hash) = placeholder hash := by
  apply String.toList_injective
  cases shape : named? hash.toList with
  | some named =>
      obtain ⟨algorithm, payload⟩ := named
      have text := placeholder_of_named? shape
      have again : named? (placeholder hash).toList =
          some (algorithm, List.replicate (payload.length - 1) 'A' ++ ['=']) := by
        rw [text, named?_append]
      rw [placeholder_of_named? again, text]
      simp
  | none =>
      have text := placeholder_of_plain shape
      have again : named? (placeholder hash).toList = none := by
        rw [text, named?_replicate_zero]
      rw [placeholder_of_plain again, text]
      simp

/-- Only the empty hash has an empty placeholder. -/
theorem placeholder_ne_empty {hash : String} (nonempty : hash ≠ "") : placeholder hash ≠ "" := by
  intro empty
  have text : (placeholder hash).toList = [] := by rw [empty]; rfl
  cases shape : named? hash.toList with
  | some named =>
      rw [placeholder_of_named? shape] at text
      simp at text
  | none =>
      rw [placeholder_of_plain shape, List.replicate_eq_nil_iff, List.length_eq_zero_iff] at text
      exact nonempty (String.toList_injective text)

/-- The placeholder of a hash is recognised, unless the hash is empty. -/
theorem isPlaceholder_placeholder {hash : String} (nonempty : hash ≠ "") :
    isPlaceholder (placeholder hash) = true := by
  have text : (placeholder hash).toList ≠ [] := fun empty =>
    placeholder_ne_empty nonempty (String.toList_injective empty)
  simp [isPlaceholder, text, placeholder_placeholder]

/-- What is recognised as a placeholder is its own placeholder. -/
theorem placeholder_of_isPlaceholder {hash : String} (pending : isPlaceholder hash = true) :
    placeholder hash = hash := by
  rw [isPlaceholder, Bool.and_eq_true, beq_iff_eq] at pending
  exact pending.2

/-- A placeholder is letters, digits, hyphens and equals signs. -/
theorem mem_placeholder {hash : String} {c : Char} (member : c ∈ (placeholder hash).toList) :
    c.isAlphanum = true ∨ c = '-' ∨ c = '=' := by
  have names (algorithm : HashAlgorithm) : ∀ c ∈ algorithm.name.toList, c.isAlphanum = true := by
    rw [← List.all_eq_true]
    cases algorithm <;> rfl
  cases shape : named? hash.toList with
  | some named =>
      obtain ⟨algorithm, payload⟩ := named
      rw [placeholder_of_named? shape] at member
      rcases List.mem_append.mp member with name | rest
      · exact .inl (names algorithm c name)
      · rcases List.mem_cons.mp rest with rfl | rest
        · exact .inr (.inl rfl)
        · rcases List.mem_append.mp rest with filler | ending
          · rw [List.eq_of_mem_replicate filler]
            exact .inl (by decide)
          · exact .inr (.inr (List.mem_singleton.mp ending))
  | none =>
      rw [placeholder_of_plain shape] at member
      rw [List.eq_of_mem_replicate member]
      exact .inl (by decide)

/-- A placeholder ends no value. -/
theorem quote_not_mem_placeholder (hash : String) : '"' ∉ (placeholder hash).toList :=
  fun member => absurd (mem_placeholder member) (by decide)

/-- A placeholder ends no line. -/
theorem feed_not_mem_placeholder (hash : String) : '\n' ∉ (placeholder hash).toList :=
  fun member => absurd (mem_placeholder member) (by decide)

end ManifestPin.Hash
