import Mathlib.Data.List.TakeWhile
import ManifestPin.Proofs.Text.Lines

/-! # Words between blanks

The words of a text are taken apart at its blanks: where a text is words with blanks between any two
of them, those are its words, whatever the blanks are (`Spaced.words_append`).
-/

namespace ManifestPin.Text

variable {text word gap rest : List Char} {written : List (List Char)} {c : Char}

/-- A word holds some characters, and no blanks. -/
structure IsWord (word : List Char) : Prop where
  nonempty : word ≠ []
  solid : ∀ c ∈ word, isBlank c = false

/-- A text of words with blanks between any two of them. -/
inductive Spaced : List (List Char) → List Char → Prop where
  | one {word : List Char} (solid : IsWord word) : Spaced [word] word
  | more {word gap rest : List Char} {written : List (List Char)} (solid : IsWord word)
      (apart : gap ≠ []) (blank : ∀ c ∈ gap, isBlank c = true) (further : Spaced written rest) :
      Spaced (word :: written) (word ++ gap ++ rest)

theorem words_cons_of_blank (blank : isBlank c = true) (rest : List Char) :
    words (c :: rest) = words rest := by
  rw [words.eq_def]
  exact if_pos blank

theorem words_append_of_blank (blank : ∀ c ∈ gap, isBlank c = true) (rest : List Char) :
    words (gap ++ rest) = words rest := by
  induction gap with
  | nil => rfl
  | cons c gap ih =>
      obtain ⟨here, later⟩ := List.forall_mem_cons.mp blank
      rw [List.cons_append, words_cons_of_blank here, ih later]

/-- A word ends where a blank follows it, or nothing. -/
theorem words_cons_of_stop (solid : isBlank c = false)
    (stop : ∀ next ∈ rest.head?, isBlank next = true) : words (c :: rest) = [c] :: words rest := by
  cases rest with
  | nil => simp [words, solid]
  | cons next rest => simp [words, solid, stop next rfl]

/-- A character before a word belongs to it. -/
theorem words_cons_of_solid {next : Char} {more : List (List Char)} (solid : isBlank c = false)
    (inside : isBlank next = false) (further : words (next :: rest) = word :: more) :
    words (c :: next :: rest) = (c :: word) :: more := by
  rw [words.eq_def]
  simp [solid, inside, further]

theorem words_append_of_isWord (solid : IsWord word) (stop : ∀ c ∈ rest.head?, isBlank c = true) :
    words (word ++ rest) = word :: words rest := by
  obtain ⟨nonempty, solid⟩ := solid
  induction word with
  | nil => exact (nonempty rfl).elim
  | cons c word ih =>
      obtain ⟨here, later⟩ := List.forall_mem_cons.mp solid
      cases word with
      | nil => exact words_cons_of_stop here stop
      | cons next word =>
          have further := ih (List.cons_ne_nil next word) later
          exact words_cons_of_solid here (later next List.mem_cons_self) further

/-- Where a text is written as words, those are its words, with or without blanks behind them. -/
theorem Spaced.words_append (spaced : Spaced written text)
    (blank : ∀ c ∈ gap, isBlank c = true) : words (text ++ gap) = written := by
  induction spaced with
  | one solid =>
      have stop : ∀ c ∈ gap.head?, isBlank c = true :=
        fun c first => blank c (List.mem_of_mem_head? first)
      have none : words gap = [] := by simpa [words] using words_append_of_blank blank []
      rw [words_append_of_isWord solid stop, none]
  | @more word between rest written solid apart separates further ih =>
      have stop : ∀ c ∈ (between ++ (rest ++ gap)).head?, isBlank c = true := by
        obtain ⟨first, others, rfl⟩ := List.exists_cons_of_ne_nil apart
        intro c head
        obtain rfl := Option.some.inj head
        exact separates _ List.mem_cons_self
      rw [List.append_assoc, List.append_assoc, words_append_of_isWord solid stop,
        words_append_of_blank separates, ih]

/-- A text of words starts as its first word does. -/
theorem Spaced.exists_cons (spaced : Spaced written text) :
    ∃ first word more rest, written = (first :: word) :: more ∧ text = first :: rest := by
  cases spaced with
  | one solid =>
      obtain ⟨first, word, rfl⟩ := List.exists_cons_of_ne_nil solid.nonempty
      exact ⟨first, word, [], word, rfl, rfl⟩
  | more solid =>
      obtain ⟨first, word, rfl⟩ := List.exists_cons_of_ne_nil solid.nonempty
      exact ⟨first, word, _, _, rfl, rfl⟩

/-- A text of words ends as its last word does. -/
theorem Spaced.exists_concat (spaced : Spaced written text) :
    ∃ word ∈ written.getLast?, ∃ before last, text = before ++ [last] ∧ last ∈ word.getLast? := by
  induction spaced with
  | @one word solid =>
      obtain ⟨before, last, whole⟩ := (List.eq_nil_or_concat word).resolve_left solid.nonempty
      rw [List.concat_eq_append] at whole
      exact ⟨word, rfl, before, last, whole, by simp [whole]⟩
  | @more first gap rest more solid apart blank further ih =>
      obtain ⟨word, ends, before, last, rfl, final⟩ := ih
      refine ⟨word, ?_, first ++ gap ++ before, last, by simp, final⟩
      rw [List.getLast?_cons, Option.mem_def.mp ends]
      rfl

/-- A text that starts with no blank starts with its first word. -/
theorem exists_words_cons (solid : isBlank c = false) (rest : List Char) :
    ∃ word more, words (c :: rest) = (c :: word) :: more := by
  induction rest generalizing c with
  | nil => exact ⟨[], [], words_cons_of_stop solid nofun⟩
  | cons next rest ih =>
      by_cases blank : isBlank next = true
      · have stop : ∀ first ∈ (next :: rest).head?, isBlank first = true := by simpa using blank
        exact ⟨[], _, words_cons_of_stop solid stop⟩
      · have inside : isBlank next = false := by simpa using blank
        obtain ⟨word, more, further⟩ := ih inside
        exact ⟨next :: word, more, words_cons_of_solid solid inside further⟩

/-- Words hold no blanks. -/
theorem not_isBlank_of_mem_words (among : word ∈ words text) : ∀ c ∈ word, isBlank c = false := by
  induction text generalizing word with
  | nil => contradiction
  | cons first rest ih =>
      by_cases blank : isBlank first = true
      · rw [words_cons_of_blank blank] at among
        exact ih among
      have solid : isBlank first = false := by simpa using blank
      cases rest with
      | nil =>
          have stops : ∀ c ∈ ([] : List Char).head?, isBlank c = true := nofun
          rw [words_cons_of_stop solid stops, words, List.mem_singleton] at among
          simpa [among] using solid
      | cons next rest =>
          by_cases stop : isBlank next = true
          · have stops : ∀ c ∈ (next :: rest).head?, isBlank c = true := by simpa using stop
            rw [words_cons_of_stop solid stops] at among
            rcases List.mem_cons.mp among with rfl | among
            · simpa using solid
            · exact ih among
          · have inside : isBlank next = false := by simpa using stop
            obtain ⟨following, more, further⟩ := exists_words_cons inside rest
            rw [words_cons_of_solid solid inside further] at among
            rw [further] at ih
            rcases List.mem_cons.mp among with rfl | among
            · exact List.forall_mem_cons.mpr ⟨solid, ih List.mem_cons_self⟩
            · exact ih (List.mem_cons_of_mem _ among)

/-- Dropping further characters after some of them drops the same. -/
theorem dropWhile_dropWhile {p q : Char → Bool} (weaker : ∀ c, p c = true → q c = true)
    (text : List Char) : (text.dropWhile p).dropWhile q = text.dropWhile q := by
  induction text with
  | nil => rfl
  | cons c text ih =>
      by_cases dropped : p c = true
      · rw [List.dropWhile_cons_of_pos dropped, List.dropWhile_cons_of_pos (weaker c dropped), ih]
      · rw [List.dropWhile_cons_of_neg dropped]

theorem dropWhile_concat {p : Char → Bool} (stop : p c = false) (text : List Char) :
    (text ++ [c]).dropWhile p = text.dropWhile p ++ [c] := by
  have kept : [c].dropWhile p = [c] := List.dropWhile_cons_of_neg (by simp [stop])
  rw [List.dropWhile_append, kept]
  cases text.dropWhile p <;> rfl

theorem mem_dropWhile {p : Char → Bool} (member : c ∈ text) :
    p c = true ∨ c ∈ text.dropWhile p := by
  rw [← List.takeWhile_append_dropWhile (p := p) (l := text)] at member
  rcases List.mem_append.mp member with taken | kept
  · exact .inl (List.all_eq_true.mp List.all_takeWhile c taken)
  · exact .inr kept

/-- A text that ends with no blank is trimmed at its start only. -/
theorem trim_concat (solid : isBlank c = false) (text : List Char) :
    trim (text ++ [c]) = text.dropWhile isBlank ++ [c] := by
  rw [trim, trimStart, dropWhile_concat solid, dropEndWhile, List.reverse_concat,
    List.dropWhile_cons_of_neg (by simp [solid]), List.reverse_cons, List.reverse_reverse]

/-- Blanks at the end do not change what is trimmed. -/
theorem trim_append_of_blank (text : List Char) (blank : ∀ c ∈ gap, isBlank c = true) :
    trim (text ++ gap) = trim text := by
  have ending : ∀ c ∈ gap.reverse, isBlank c = true :=
    fun c member => blank c (List.mem_reverse.mp member)
  have none : gap.dropWhile isBlank = [] := List.dropWhile_eq_nil_iff.mpr blank
  rw [trim, trim, trimStart, trimStart, List.dropWhile_append]
  cases text.dropWhile isBlank with
  | nil => exact congrArg (dropEndWhile isBlank) none
  | cons c kept =>
      simp only [List.isEmpty_cons, Bool.false_eq_true, ↓reduceIte, dropEndWhile,
        List.reverse_append, List.dropWhile_append_of_pos ending]

/-- Trimming drops blanks only. -/
theorem mem_trim (member : c ∈ text) : isBlank c = true ∨ c ∈ trim text := by
  rcases mem_dropWhile (p := isBlank) member with blank | kept
  · exact .inl blank
  · rcases mem_dropWhile (p := isBlank) (List.mem_reverse.mpr kept) with blank | kept
    · exact .inl blank
    · exact .inr (List.mem_reverse.mpr kept)

theorem mem_of_mem_trim (member : c ∈ trim text) : c ∈ text := by
  have kept := (List.dropWhile_sublist isBlank).subset (List.mem_reverse.mp member)
  exact (List.dropWhile_sublist isBlank).subset (List.mem_reverse.mp kept)

/-- Blanks around a text without blanks are trimmed. -/
theorem trim_append {lead solid trail : List Char} (before : ∀ c ∈ lead, isBlank c = true)
    (after : ∀ c ∈ trail, isBlank c = true) (nonempty : solid ≠ [])
    (unblank : ∀ c ∈ solid, isBlank c = false) : trim (lead ++ solid ++ trail) = solid := by
  obtain ⟨kept, last, whole⟩ := (List.eq_nil_or_concat solid).resolve_left nonempty
  rw [List.concat_eq_append] at whole
  subst whole
  have starts : ∀ c ∈ kept.head?, isBlank c = false := fun c first =>
    unblank c (List.mem_append_left _ (List.mem_of_mem_head? first))
  rw [trim_append_of_blank _ after, ← List.append_assoc, trim_concat (unblank last (by simp)),
    dropWhile_append_of_stop before starts]

end ManifestPin.Text
