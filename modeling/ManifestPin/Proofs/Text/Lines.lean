import ManifestPin.Text.Fields
import ManifestPin.Text.Lines

/-! # Pieces and lines

Splitting at a separator and joining again are inverse to each other. A text is either one line
without a line feed or such a line, a line feed and a further text (`line_induction`); segments and
pieces follow that view, and the line that is read from a segment and the part that is edited
differ only in carriage returns at the end (`lineOf_eq_append`).
-/

namespace ManifestPin.Text

theorem splitAt_eq_splitOn (separator : Char) (text : List Char) :
    splitAt separator text = text.splitOn separator := by
  induction text with
  | nil => rfl
  | cons c rest ih =>
      rw [splitAt, List.splitOn_cons_eq_if_modifyHead, ih]
      simp only [beq_iff_eq]
      split
      · rfl
      · cases pieces : rest.splitOn separator with
        | nil => exact absurd pieces (List.splitOn_ne_nil _ _)
        | cons piece more => rfl

theorem splitAt_ne_nil (separator : Char) (text : List Char) : splitAt separator text ≠ [] := by
  rw [splitAt_eq_splitOn]
  exact List.splitOn_ne_nil _ _

theorem splitAt_cons_self (separator : Char) (rest : List Char) :
    splitAt separator (separator :: rest) = [] :: splitAt separator rest := by
  rw [splitAt, if_pos rfl]

/-- No piece holds the separator. -/
theorem not_mem_of_mem_splitAt {separator : Char} {text piece : List Char}
    (member : piece ∈ splitAt separator text) : separator ∉ piece := by
  induction text generalizing piece with
  | nil => simp_all [splitAt]
  | cons c rest ih =>
      by_cases cut : c = separator
      · subst cut
        rw [splitAt_cons_self] at member
        rcases List.mem_cons.mp member with rfl | member
        · exact List.not_mem_nil
        · exact ih member
      · rw [splitAt, if_neg cut] at member
        cases pieces : splitAt separator rest with
        | nil => exact absurd pieces (splitAt_ne_nil separator rest)
        | cons first more =>
            simp only [pieces, List.mem_cons] at member ih
            rcases member with rfl | member
            · simpa [Ne.symm cut] using ih (.inl rfl)
            · exact ih (.inr member)

/-- A text without the separator is its only piece. -/
theorem splitAt_of_not_mem {separator : Char} {text : List Char} (absent : separator ∉ text) :
    splitAt separator text = [text] := by
  rw [splitAt_eq_splitOn]
  exact List.splitOn_eq_singleton absent

/-- A separator cuts the pieces before it from those after it. -/
theorem splitAt_append_cons (separator : Char) (before after : List Char) :
    splitAt separator (before ++ separator :: after) =
      splitAt separator before ++ splitAt separator after := by
  simp only [splitAt_eq_splitOn]
  exact List.splitOn_append_cons_self before after

/-- Up to its first separator a text is a piece. -/
theorem splitAt_cons_of_not_mem {separator : Char} {piece : List Char}
    (absent : separator ∉ piece) (rest : List Char) :
    splitAt separator (piece ++ separator :: rest) = piece :: splitAt separator rest := by
  rw [splitAt_append_cons, splitAt_of_not_mem absent, List.singleton_append]

/-- Joining the pieces of a text gives the text back. -/
theorem joinWith_splitAt (separator : Char) (text : List Char) :
    joinWith [separator] (splitAt separator text) = text := by
  rw [splitAt_eq_splitOn]
  exact List.intercalate_splitOn separator

/-- Texts without the separator are the pieces of their join. -/
theorem splitAt_joinWith {separator : Char} {pieces : List (List Char)}
    (absent : ∀ piece ∈ pieces, separator ∉ piece) (nonempty : pieces ≠ []) :
    splitAt separator (joinWith [separator] pieces) = pieces := by
  rw [splitAt_eq_splitOn]
  exact List.splitOn_intercalate separator absent nonempty

theorem mem_joinWith {separator c : Char} {pieces : List (List Char)}
    (member : c ∈ joinWith [separator] pieces) :
    c = separator ∨ ∃ piece ∈ pieces, c ∈ piece := by
  induction pieces with
  | nil => contradiction
  | cons piece more ih =>
      cases more with
      | nil =>
          rw [joinWith, List.intercalate_singleton] at member
          exact .inr ⟨piece, List.mem_singleton_self _, member⟩
      | cons next more =>
          rw [joinWith, List.intercalate_cons_cons, List.append_assoc] at member
          rcases List.mem_append.mp member with inside | member
          · exact .inr ⟨piece, List.mem_cons_self, inside⟩
          · rcases List.mem_cons.mp member with separates | member
            · exact .inl separates
            · rcases ih member with separates | ⟨other, among, inside⟩
              · exact .inl separates
              · exact .inr ⟨other, List.mem_cons_of_mem _ among, inside⟩

theorem exists_joinWith_cons (separator : List Char) (first : Char) (piece : List Char)
    (more : List (List Char)) :
    ∃ rest, joinWith separator ((first :: piece) :: more) = first :: rest := by
  cases more with
  | nil => exact ⟨piece, by rw [joinWith, List.intercalate_singleton]⟩
  | cons next more => exact ⟨_, by rw [joinWith, List.intercalate_cons_cons]; rfl⟩

/-- The pieces before one of them each end with a separator, and those after it start with one. -/
theorem joinWith_append_cons (separator : Char) (before after : List (List Char))
    (piece : List Char) :
    joinWith [separator] (before ++ piece :: after) =
      before.flatMap (· ++ [separator]) ++ piece ++ after.flatMap (separator :: ·) := by
  induction before with
  | nil =>
      induction after generalizing piece with
      | nil => simp [joinWith]
      | cons next after ih =>
          have rest := ih next
          simp only [List.nil_append, joinWith] at rest ⊢
          rw [List.intercalate_cons_cons, rest]
          simp
  | cons first before ih =>
      rw [joinWith] at ih ⊢
      rw [List.cons_append, List.intercalate_cons_of_ne_nil (by simp), ih]
      simp

/-- A run is what is taken of a text in which it stops. -/
theorem takeWhile_append_of_stop {p : Char → Bool} {run rest : List Char}
    (all : ∀ c ∈ run, p c = true) (stop : ∀ c ∈ rest.head?, p c = false) :
    (run ++ rest).takeWhile p = run := by
  rw [List.takeWhile_append_of_pos all]
  cases rest with
  | nil => rw [List.takeWhile_nil, List.append_nil]
  | cons c rest => rw [List.takeWhile_cons_of_neg (by simp [stop c rfl]), List.append_nil]

theorem dropWhile_append_of_stop {p : Char → Bool} {run rest : List Char}
    (all : ∀ c ∈ run, p c = true) (stop : ∀ c ∈ rest.head?, p c = false) :
    (run ++ rest).dropWhile p = rest := by
  rw [List.dropWhile_append_of_pos all]
  cases rest with
  | nil => rfl
  | cons c rest => rw [List.dropWhile_cons_of_neg (by simp [stop c rfl])]

/-- A text starts with a run that stops at its end or at a character that fails. -/
theorem exists_run (p : Char → Bool) (text : List Char) :
    ∃ run rest, text = run ++ rest ∧ (∀ c ∈ run, p c = true) ∧ ∀ c ∈ rest.head?, p c = false := by
  refine ⟨text.takeWhile p, text.dropWhile p, List.takeWhile_append_dropWhile.symm,
    fun c => List.all_eq_true.mp List.all_takeWhile c, fun c first => ?_⟩
  have stop := List.head?_dropWhile_not p text
  rw [Option.mem_def.mp first] at stop
  exact stop

/-- A text is a line without a line feed, or such a line, a line feed and a further text. -/
theorem line_induction {motive : List Char → Prop}
    (last : ∀ line, '\n' ∉ line → motive line)
    (more : ∀ line rest, '\n' ∉ line → motive rest → motive (line ++ '\n' :: rest))
    (text : List Char) : motive text := by
  induction size : text.length using Nat.strongRecOn generalizing text with
  | ind count ih =>
      obtain ⟨line, after, rfl, inside, stop⟩ := exists_run (fun c => c ≠ '\n') text
      have absent : '\n' ∉ line := fun member => by simpa using inside _ member
      cases after with
      | nil =>
          rw [List.append_nil]
          exact last line absent
      | cons c rest =>
          obtain rfl : c = '\n' := by simpa using stop c rfl
          have shorter : rest.length < count := by
            rw [← size, List.length_append, List.length_cons]
            omega
          exact more line rest absent (ih _ shorter rest rfl)

theorem segments_of_not_mem {line : List Char} (absent : '\n' ∉ line) (some : line ≠ []) :
    segments line = [line] := by
  induction line with
  | nil => exact (some rfl).elim
  | cons c rest ih =>
      simp only [List.mem_cons, not_or] at absent
      rw [segments, if_neg (Ne.symm absent.1)]
      cases rest with
      | nil => rfl
      | cons next rest => rw [ih absent.2 (List.cons_ne_nil _ _)]

theorem segments_append_cons {line : List Char} (absent : '\n' ∉ line) (rest : List Char) :
    segments (line ++ '\n' :: rest) = (line ++ ['\n']) :: segments rest := by
  induction line with
  | nil => rw [List.nil_append, segments, if_pos rfl]; rfl
  | cons c line ih =>
      simp only [List.mem_cons, not_or] at absent
      rw [List.cons_append, segments, if_neg (Ne.symm absent.1), ih absent.2]
      rfl

theorem all_takeEndWhile (p : Char → Bool) (text : List Char) :
    ∀ c ∈ takeEndWhile p text, p c = true := by
  intro c member
  exact List.all_eq_true.mp List.all_takeWhile c (List.mem_reverse.mp member)

/-- What the line of a segment lacks of the text before the line feed are line breaks. -/
theorem lineOf_append_breaks (line : List Char) :
    ∃ breaks, (∀ c ∈ breaks, isLineBreak c = true) ∧ lineOf (line ++ ['\n']) ++ breaks = line := by
  rcases List.eq_nil_or_concat line with rfl | ⟨before, c, rfl⟩
  · exact ⟨[], by simp, rfl⟩
  · by_cases returned : c = '\r'
    · subst returned
      exact ⟨['\r'], by simp [isLineBreak], by simp [lineOf]⟩
    · exact ⟨[], by simp, by simp [lineOf, returned]⟩

/-- A segment without a line feed is its own line. -/
theorem lineOf_of_not_mem {line : List Char} (absent : '\n' ∉ line) : lineOf line = line := by
  unfold lineOf
  split
  · next same => exact (absent (List.mem_reverse.mp (by rw [same]; simp))).elim
  · next same => exact (absent (List.mem_reverse.mp (by rw [same]; simp))).elim
  · rfl

end ManifestPin.Text
