import ManifestPin.Declaration
import ManifestPin.Proofs.Version.Characters

/-! # Declared versions

A declared version is the words between the delimiters of its token, joined with dots. It is one
word that starts with a letter or number, and only a token without any declares none.
-/

namespace ManifestPin.Declaration

open Text (isAlphanumeric isBlank joinWith)

section

variable {token version : String} {text gap : List Char} {c : Char}

/-- A declared version holds no blanks. -/
theorem not_isBlank_of_versionOfToken (declared : versionOfToken token = .ok version) :
    ∀ c ∈ version.toList, isBlank c = false := by
  unfold versionOfToken at declared
  split at declared
  · cases declared
  · obtain rfl := Except.ok.inj declared
    intro c member
    rw [String.toList_ofList] at member
    rcases Text.mem_joinWith member with rfl | ⟨word, among, inside⟩
    · decide
    · exact Text.not_isBlank_of_mem_words among c inside

/-- A declared version that denotes a version neither ends a quoted value nor a line. -/
theorem not_mem_of_parse {text : String} {version : Version}
    (declared : versionOfToken token = .ok text) (valid : Version.parse text = .ok version) :
    '"' ∉ text.toList ∧ '\n' ∉ text.toList := by
  have solid := not_isBlank_of_versionOfToken declared
  have characters (c : Char) (member : c ∈ text.toList) : Version.isCharacter c = true := by
    rcases Version.mem_of_parse valid member with blank | character
    · rw [solid c member] at blank
      exact absurd blank Bool.false_ne_true
    · exact character
  exact ⟨fun member => absurd (characters _ member) (by decide),
    fun member => absurd (characters _ member) (by decide)⟩

/-! ## What stands between the delimiters -/

theorem not_isAlphanumeric_of_isBlank (blank : isBlank c = true) : isAlphanumeric c = false := by
  have strange : (Text.blanks.all fun blank => !isAlphanumeric blank) = true := by decide +kernel
  have member : c ∈ Text.blanks := by simpa only [isBlank, List.contains_iff_mem] using blank
  simpa using List.all_eq_true.mp strange c member

theorem not_isBlank_of_isAlphanumeric (letter : isAlphanumeric c = true) : isBlank c = false := by
  by_contra blank
  rw [Bool.not_eq_false] at blank
  rw [not_isAlphanumeric_of_isBlank blank] at letter
  exact absurd letter Bool.false_ne_true

/-- A character that delimits a token. -/
def delimits (c : Char) : Bool :=
  !isAlphanumeric c

theorem delimits_of_isBlank (blank : isBlank c = true) : delimits c = true := by
  simp [delimits, not_isAlphanumeric_of_isBlank blank]

/-- What a token holds from its first letter or number to the delimiter that it may end with. -/
def inside (token : List Char) : List Char :=
  (dropClosing (Text.trim token)).dropWhile delimits

theorem tokenWords_eq (token : List Char) : tokenWords token = Text.words (inside token) := rfl

theorem inside_append_of_blank (text : List Char) (blank : ∀ c ∈ gap, isBlank c = true) :
    inside (text ++ gap) = inside text := by
  rw [inside, Text.trim_append_of_blank text blank, inside]

/-- One delimiter at the end is dropped. -/
theorem inside_concat_of_delimits (solid : isBlank c = false) (delimiter : delimits c = true)
    (text : List Char) : inside (text ++ [c]) = text.dropWhile delimits := by
  have other : isAlphanumeric c = false := by simpa [delimits] using delimiter
  have dropped : dropClosing (text.dropWhile isBlank ++ [c]) = text.dropWhile isBlank := by
    simp [dropClosing, other]
  rw [inside, Text.trim_concat solid, dropped,
    Text.dropWhile_dropWhile fun c => delimits_of_isBlank]

/-- A letter or number at the end is kept. -/
theorem inside_concat_of_isAlphanumeric (letter : isAlphanumeric c = true) (text : List Char) :
    inside (text ++ [c]) = text.dropWhile delimits ++ [c] := by
  have solid := not_isBlank_of_isAlphanumeric letter
  have kept : dropClosing (text.dropWhile isBlank ++ [c]) = text.dropWhile isBlank ++ [c] := by
    simp [dropClosing, letter]
  rw [inside, Text.trim_concat solid, kept, Text.dropWhile_concat (by simp [delimits, letter]),
    Text.dropWhile_dropWhile fun c => delimits_of_isBlank]

/-- What is dropped at the end of a text is nothing, or one character that delimits. -/
theorem dropClosing_cases (text : List Char) :
    dropClosing text = text ∨
      ∃ last, isAlphanumeric last = false ∧ text = dropClosing text ++ [last] := by
  cases reversed : text.reverse with
  | nil =>
      rw [List.reverse_eq_nil_iff.mp reversed]
      exact .inl rfl
  | cons last before =>
      have whole : text = before.reverse ++ [last] := by
        rw [← List.reverse_cons, ← reversed, List.reverse_reverse]
      by_cases letter : isAlphanumeric last = true
      · exact .inl (by simp [dropClosing, reversed, letter])
      · have other : isAlphanumeric last = false := by simpa using letter
        have dropped : dropClosing text = before.reverse := by simp [dropClosing, reversed, other]
        exact .inr ⟨last, other, by rw [dropped, ← whole]⟩

theorem mem_of_mem_inside (member : c ∈ inside text) : c ∈ text := by
  have kept := (List.dropWhile_sublist delimits).subset member
  refine Text.mem_of_mem_trim ?_
  rcases dropClosing_cases (Text.trim text) with same | ⟨last, -, whole⟩
  · rw [← same]
    exact kept
  · rw [whole]
    exact List.mem_append_left [last] kept

/-- No letter or number of a token is lost. -/
theorem mem_inside (letter : isAlphanumeric c = true) (member : c ∈ text) : c ∈ inside text := by
  have trimmed : c ∈ Text.trim text := by
    refine (Text.mem_trim member).resolve_left fun blank => ?_
    rw [not_isBlank_of_isAlphanumeric letter] at blank
    exact absurd blank Bool.false_ne_true
  have kept : c ∈ dropClosing (Text.trim text) := by
    rcases dropClosing_cases (Text.trim text) with same | ⟨last, other, whole⟩
    · rw [same]
      exact trimmed
    · rw [whole] at trimmed
      refine (List.mem_append.mp trimmed).resolve_right fun final => ?_
      rw [← List.mem_singleton.mp final, letter] at other
      exact absurd other.symm Bool.false_ne_true
  refine (Text.mem_dropWhile (p := delimits) kept).resolve_left fun delimiter => ?_
  simp [delimits, letter] at delimiter

/-- What a token holds between its delimiters is nothing, or starts with a letter or number. -/
theorem inside_eq_nil_or_cons (text : List Char) :
    inside text = [] ∧ (∀ c ∈ text, isAlphanumeric c = false) ∨
      ∃ first rest, inside text = first :: rest ∧ isAlphanumeric first = true ∧ first ∈ text := by
  cases found : inside text with
  | nil =>
      refine .inl ⟨rfl, fun c member => ?_⟩
      by_contra letter
      have kept := mem_inside (Bool.not_eq_false _ ▸ letter) member
      rw [found] at kept
      contradiction
  | cons first rest =>
      have stop := List.head?_dropWhile_not delimits (dropClosing (Text.trim text))
      rw [← inside, found] at stop
      have among : first ∈ inside text := by rw [found]; exact List.mem_cons_self
      exact .inr ⟨first, rest, rfl, by simpa [delimits] using stop, mem_of_mem_inside among⟩

/-- A token without letters and numbers declares no version; any other one declares a text that
starts with one. -/
theorem versionOfToken_cases (token : String) :
    versionOfToken token = .error ⟨token, .emptyDeclaration⟩ ∧
        (∀ c ∈ token.toList, isAlphanumeric c = false) ∨
      ∃ first rest, versionOfToken token = .ok (String.ofList (first :: rest)) ∧
        isAlphanumeric first = true ∧ first ∈ token.toList := by
  unfold versionOfToken
  rw [tokenWords_eq]
  rcases inside_eq_nil_or_cons token.toList with
    ⟨nothing, none⟩ | ⟨first, rest, some, letter, among⟩
  · rw [nothing]
    exact .inl ⟨rfl, none⟩
  · obtain ⟨word, more, starts⟩ :=
      Text.exists_words_cons (not_isBlank_of_isAlphanumeric letter) rest
    obtain ⟨others, joined⟩ := Text.exists_joinWith_cons ['.'] first word more
    rw [some, starts, joined]
    exact .inr ⟨first, others, rfl, letter, among⟩

end

/-! ## Tokens as they are written -/

/-- What may follow the last word of a token: blanks, with one delimiter among them or none. -/
inductive Closing : List Char → Prop where
  | blank {gap : List Char} (blank : ∀ c ∈ gap, isBlank c = true) : Closing gap
  | delimiter {gap margin : List Char} {c : Char} (before : ∀ c ∈ gap, isBlank c = true)
      (delimiter : isAlphanumeric c = false) (after : ∀ c ∈ margin, isBlank c = true) :
      Closing (gap ++ c :: margin)

/-- Behind a letter or number, at most the delimiter and the blanks behind it are dropped. -/
theorem Closing.exists_inside {closing : List Char} {last : Char} (closes : Closing closing)
    (letter : isAlphanumeric last = true) (text : List Char) :
    ∃ gap, (∀ c ∈ gap, isBlank c = true) ∧
      inside (text ++ [last] ++ closing) = (text ++ [last] ++ gap).dropWhile delimits := by
  have kept : inside (text ++ [last]) = (text ++ [last]).dropWhile delimits := by
    rw [inside_concat_of_isAlphanumeric letter, Text.dropWhile_concat (by simp [delimits, letter])]
  have blanks {gap : List Char} (blank : ∀ c ∈ gap, isBlank c = true) :
      inside (text ++ [last] ++ gap) = (text ++ [last] ++ []).dropWhile delimits := by
    rw [inside_append_of_blank _ blank, kept, List.append_nil]
  cases closes with
  | blank blank => exact ⟨[], nofun, blanks blank⟩
  | @delimiter gap margin c before other after =>
      by_cases blank : isBlank c = true
      · have all : ∀ each ∈ gap ++ c :: margin, isBlank each = true :=
          List.forall_mem_append.mpr ⟨before, List.forall_mem_cons.mpr ⟨blank, after⟩⟩
        exact ⟨[], nofun, blanks all⟩
      · have solid : isBlank c = false := by simpa using blank
        have split : text ++ [last] ++ (gap ++ c :: margin) =
            text ++ [last] ++ gap ++ [c] ++ margin := by simp
        refine ⟨gap, before, ?_⟩
        rw [split, inside_append_of_blank _ after,
          inside_concat_of_delimits solid (by simp [delimits, other])]

/-- A token that is written as words between blanks, with any delimiters in front. -/
structure Writing where
  lead : List Char
  words : List (List Char)
  body : List Char
  closing : List Char
  delimits : ∀ c ∈ lead, isAlphanumeric c = false
  spaced : Text.Spaced words body
  starts : ∀ word ∈ words.head?, ∀ c ∈ word.head?, isAlphanumeric c = true
  ends : ∀ word ∈ words.getLast?, ∀ c ∈ word.getLast?, isAlphanumeric c = true
  closes : Closing closing

namespace Writing

variable (writing : Writing)

/-- The text of the token. -/
def text : String :=
  String.ofList (writing.lead ++ writing.body ++ writing.closing)

/-- The version that the words stand for. -/
def version : String :=
  String.ofList (joinWith ['.'] writing.words)

/-- What delimits the words in front ends where the first word starts. -/
theorem dropWhile_delimits (rest : List Char) :
    (writing.lead ++ (writing.body ++ rest)).dropWhile Declaration.delimits =
      writing.body ++ rest := by
  obtain ⟨first, word, more, others, words, body⟩ := writing.spaced.exists_cons
  have letter : isAlphanumeric first = true :=
    writing.starts (first :: word) (by rw [words]; rfl) first rfl
  have delimits : ∀ c ∈ writing.lead, Declaration.delimits c = true := by
    intro c member
    simp [Declaration.delimits, writing.delimits c member]
  have stop : ∀ c ∈ (writing.body ++ rest).head?, Declaration.delimits c = false := by
    intro c starts
    rw [body] at starts
    obtain rfl := Option.some.inj starts
    simp [Declaration.delimits, letter]
  exact Text.dropWhile_append_of_stop delimits stop

theorem tokenWords_text : tokenWords writing.text.toList = writing.words := by
  obtain ⟨word, final, before, last, whole, ends⟩ := writing.spaced.exists_concat
  have letter := writing.ends word final last ends
  obtain ⟨gap, blank, kept⟩ := writing.closes.exists_inside letter (writing.lead ++ before)
  have split : writing.lead ++ before ++ [last] = writing.lead ++ writing.body := by
    rw [whole, List.append_assoc]
  rw [split, List.append_assoc writing.lead writing.body gap, dropWhile_delimits] at kept
  rw [tokenWords_eq, text, String.toList_ofList, kept]
  exact writing.spaced.words_append blank

/-- A token that is written as words declares them, joined with dots. -/
theorem versionOfToken_text : versionOfToken writing.text = .ok writing.version := by
  obtain ⟨first, word, more, -, words, -⟩ := writing.spaced.exists_cons
  obtain ⟨others, joined⟩ := Text.exists_joinWith_cons ['.'] first word more
  unfold versionOfToken
  rw [tokenWords_text, version, words, joined]

end Writing

/-- A token with blanks next to its delimiters is written as words. -/
theorem exists_writing_list :
    ∃ writing : Writing, writing.text = " #[ 1\t 2-3\u3000] " ∧ writing.version = "1.2-3" := by
  have delimits : ([' ', '#', '[', ' '].all Declaration.delimits) = true := by decide +kernel
  have apart : ∀ c ∈ ['\t', ' '], isBlank c = true :=
    List.forall_mem_cons.mpr ⟨rfl, List.forall_mem_singleton.mpr rfl⟩
  have first : Text.IsWord ['1'] := ⟨List.cons_ne_nil _ _, List.forall_mem_singleton.mpr rfl⟩
  have second : Text.IsWord ['2', '-', '3'] :=
    ⟨List.cons_ne_nil _ _, by simp [isBlank, Text.blanks]⟩
  have closing : Closing (['\u3000'] ++ ']' :: [' ']) :=
    .delimiter (List.forall_mem_singleton.mpr rfl) (by decide +kernel)
      (List.forall_mem_singleton.mpr rfl)
  let writing : Writing :=
    { lead := [' ', '#', '[', ' ']
      words := [['1'], ['2', '-', '3']]
      body := ['1'] ++ ['\t', ' '] ++ ['2', '-', '3']
      closing := ['\u3000'] ++ ']' :: [' ']
      delimits := fun c member => by
        simpa [Declaration.delimits] using List.all_eq_true.mp delimits c member
      spaced := .more first (List.cons_ne_nil _ _) apart (.one second)
      starts := by
        rintro _ ⟨⟩ _ ⟨⟩
        decide +kernel
      ends := by
        rintro _ ⟨⟩ _ ⟨⟩
        decide +kernel
      closes := closing }
  exact ⟨writing, rfl, rfl⟩

/-- A token declares no version exactly if it holds no letter or number. What it declares otherwise
starts with one and holds no blanks. Words between blanks that start and end with one are declared
as they are, joined with dots, behind any delimiters and in front of at most one. -/
theorem versionOfToken_exact (token : String) :
    (∀ invalid, versionOfToken token = .error invalid ↔
      invalid = ⟨token, .emptyDeclaration⟩ ∧ ∀ c ∈ token.toList, isAlphanumeric c = false) ∧
    ((∃ c ∈ token.toList, isAlphanumeric c = true) →
      ∃ version, versionOfToken token = .ok version ∧
        (∃ first rest, version.toList = first :: rest ∧ isAlphanumeric first = true) ∧
        ∀ c ∈ version.toList, isBlank c = false) ∧
    ∀ writing : Writing, versionOfToken writing.text = .ok writing.version := by
  refine ⟨fun invalid => ?_, fun ⟨c, member, letter⟩ => ?_, Writing.versionOfToken_text⟩
  · rcases versionOfToken_cases token with ⟨fails, none⟩ | ⟨first, rest, declared, letter, member⟩
    · rw [fails, Except.error.injEq, eq_comm]
      exact ⟨fun same => ⟨same, none⟩, fun ⟨same, _⟩ => same⟩
    · rw [declared]
      constructor
      · rintro ⟨⟩
      · rintro ⟨-, none⟩
        rw [none first member] at letter
        exact absurd letter Bool.false_ne_true
  · rcases versionOfToken_cases token with ⟨-, none⟩ | ⟨first, rest, declared, starts, -⟩
    · rw [none c member] at letter
      exact absurd letter Bool.false_ne_true
    · exact ⟨_, declared, ⟨first, rest, String.toList_ofList, starts⟩,
        not_isBlank_of_versionOfToken declared⟩

/-- Of two brackets at the end one is dropped, and blanks around a delimiter are no words. -/
theorem versionOfToken_exact_list :
    versionOfToken "[ ]" = .error ⟨"[ ]", .emptyDeclaration⟩ ∧
      (∃ version, versionOfToken "[1]]" = .ok version ∧
        ∃ first rest, version.toList = first :: rest ∧ isAlphanumeric first = true) ∧
      versionOfToken " #[ 1\t 2-3\u3000] " = .ok "1.2-3" := by
  have none : ∀ c ∈ "[ ]".toList, isAlphanumeric c = false := by
    have all : ("[ ]".toList.all delimits) = true := by decide +kernel
    intro c member
    simpa [delimits] using List.all_eq_true.mp all c member
  have some : ∃ c ∈ "[1]]".toList, isAlphanumeric c = true := ⟨'1', by decide, by decide +kernel⟩
  obtain ⟨version, declared, starts, -⟩ := (versionOfToken_exact "[1]]").2.1 some
  obtain ⟨writing, text, words⟩ := exists_writing_list
  have written := (versionOfToken_exact "").2.2 writing
  rw [text, words] at written
  exact ⟨((versionOfToken_exact "[ ]").1 _).mpr ⟨rfl, none⟩, ⟨version, declared, starts⟩, written⟩

end ManifestPin.Declaration
