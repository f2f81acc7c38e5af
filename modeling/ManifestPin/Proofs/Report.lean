import ManifestPin.Proofs.Hash.Placeholder
import ManifestPin.Proofs.Text.Search
import ManifestPin.Proofs.Text.Words
import ManifestPin.Report

/-! # Reported hashes

A build reports a hash behind the leftmost marker that something follows on its line. Such a line
can be read on its own (`token?_lines`), so neither an empty marker nor what stands further on
matters. A hash that is reported holds no blanks, so it ends no line.
-/

namespace ManifestPin

namespace HashAlgorithm

variable {first second : HashAlgorithm} {left right : List Char}

/-- Algorithms are told apart by their names, wherever these end. -/
theorem toList_name_append_inj
    (same : first.name.toList ++ left = second.name.toList ++ right) :
    first = second ∧ left = right := by
  have long (algorithm : HashAlgorithm) : algorithm.name.toList.length = 6 := by
    cases algorithm <;> rfl
  obtain ⟨names, rest⟩ := List.append_inj same ((long first).trans (long second).symm)
  refine ⟨?_, rest⟩
  cases first <;> cases second <;> first | rfl | exact absurd names (by decide)

end HashAlgorithm

namespace Hash

/-- The digest behind an algorithm's name and a colon is what a token means, and every other token
means itself. -/
theorem ofReported_cases (token : String) :
    (∃ (algorithm : HashAlgorithm) (digest : List Char),
      token.toList = algorithm.name.toList ++ ':' :: digest ∧
        ofReported token = String.ofList digest) ∨
    (∀ (algorithm : HashAlgorithm) (digest : List Char),
      token.toList ≠ algorithm.name.toList ++ ':' :: digest) ∧ ofReported token = token := by
  unfold ofReported
  split
  next named =>
    obtain ⟨⟨algorithm, payload⟩, found⟩ := Option.isSome_iff_exists.mp named
    refine .inr ⟨fun other digest prefixed => ?_, rfl⟩
    have hyphen := (named?_eq_some_iff.mp found).symm.trans prefixed
    have separated := (HashAlgorithm.toList_name_append_inj hyphen).2
    exact absurd (List.cons.inj separated).1 (by decide)
  next =>
    split
    next digest found =>
      obtain ⟨algorithm, -, payload⟩ := List.exists_of_findSome?_eq_some found
      exact .inl ⟨algorithm, digest, payload?_eq_some_iff.mp payload, rfl⟩
    next none =>
      refine .inr ⟨fun algorithm digest prefixed => ?_, rfl⟩
      have member : algorithm ∈ HashAlgorithm.all := by cases algorithm <;> decide
      have absent := List.findSome?_eq_none_iff.mp none algorithm member
      rw [payload?_eq_some_iff.mpr prefixed] at absent
      cases absent

/-- Nothing is meant only by nothing and by an algorithm's name with a colon. -/
theorem ofReported_eq_empty_iff {token : String} :
    ofReported token = "" ↔
      token = "" ∨ ∃ algorithm : HashAlgorithm, token.toList = algorithm.name.toList ++ [':'] := by
  rcases ofReported_cases token with ⟨algorithm, digest, prefixed, means⟩ | ⟨plain, means⟩
  · rw [means, String.ofList_eq_empty_iff]
    constructor
    · rintro rfl
      exact .inr ⟨algorithm, prefixed⟩
    · rintro (rfl | ⟨other, bare⟩)
      · exact absurd prefixed (by cases algorithm <;> simp [HashAlgorithm.name])
      · have alike := (HashAlgorithm.toList_name_append_inj (prefixed.symm.trans bare)).2
        exact (List.cons.inj alike).2
  · rw [means]
    refine ⟨.inl, fun nothing => nothing.resolve_right ?_⟩
    rintro ⟨algorithm, bare⟩
    exact plain algorithm [] bare

/-- A reported hash holds only what its token holds. -/
theorem mem_of_mem_ofReported {token : String} {c : Char}
    (member : c ∈ (ofReported token).toList) : c ∈ token.toList := by
  rcases ofReported_cases token with ⟨algorithm, digest, prefixed, means⟩ | ⟨-, means⟩
  · rw [means, String.toList_ofList] at member
    rw [prefixed]
    exact List.mem_append_right _ (List.mem_cons_of_mem _ member)
  · rwa [means] at member

end Hash

namespace Report

open Text (isBlank IsWord)

/-- At a position of a text stand the marker, spaces and tabs or none, and something visible. -/
def Usable (text : List Char) (position : Nat) : Prop :=
  ∃ gap first rest, (∀ c ∈ gap, isGap c = true) ∧ isBlank first = false ∧
    text.drop position = marker ++ gap ++ first :: rest

/-- The first usable marker of a text, with the token that follows it. -/
structure Site (text : List Char) where
  before : List Char
  gap : List Char
  token : List Char
  after : List Char
  whole : text = before ++ (marker ++ gap ++ token ++ after)
  between : ∀ c ∈ gap, isGap c = true
  word : IsWord token
  /-- The token is as long as it can be. -/
  stops : ∀ c ∈ after.head?, isBlank c = true
  leftmost : ∀ earlier < before.length, ¬Usable text earlier

variable {text token gap before rest : List Char} {position : Nat} {c : Char}

theorem isBlank_of_isGap (between : isGap c = true) : isBlank c = true := by
  simp only [isGap, Bool.or_eq_true, decide_eq_true_eq] at between
  rcases between with rfl | rfl <;> rfl

theorem not_isGap_of_not_isBlank (visible : isBlank c = false) : isGap c = false := by
  by_contra between
  rw [Bool.not_eq_false] at between
  rw [isBlank_of_isGap between] at visible
  exact absurd visible.symm Bool.false_ne_true

theorem isWord_marker : IsWord marker := by
  refine ⟨List.cons_ne_nil _ _, ?_⟩
  simp only [marker, List.forall_mem_cons]
  exact ⟨rfl, rfl, rfl, rfl, List.forall_mem_nil _⟩

/-- A marker starts nowhere else in itself or in the blanks behind it. -/
theorem not_mem_of_blank (blank : ∀ c ∈ gap, isBlank c = true) : 'g' ∉ ['o', 't', ':'] ++ gap := by
  intro member
  rcases List.mem_append.mp member with marked | among
  · exact absurd marked (by decide)
  · exact absurd (blank _ among) (by decide)

/-- A token is read behind the marker, spaces and tabs, up to a blank or the end. -/
theorem tokenAtStart?_eq_some_iff :
    tokenAtStart? text = some token ↔
      ∃ gap after, (∀ c ∈ gap, isGap c = true) ∧ IsWord token ∧
        (∀ c ∈ after.head?, isBlank c = true) ∧ text = marker ++ gap ++ token ++ after := by
  constructor
  · intro found
    simp only [tokenAtStart?, Option.bind_eq_bind, Option.bind_eq_some_iff] at found
    obtain ⟨rest, marked, found⟩ := found
    obtain ⟨gap, tail, rfl, between, begins⟩ := Text.exists_run isGap rest
    obtain ⟨run, after, rfl, solid, stops⟩ := Text.exists_run (fun c => !isBlank c) tail
    rw [Text.dropWhile_append_of_stop between begins,
      Text.takeWhile_append_of_stop solid stops] at found
    split at found
    · cases found
    next nonempty =>
      obtain rfl := Option.some.inj found
      refine ⟨gap, after, between, ⟨nonempty, ?_⟩, ?_, ?_⟩
      · simpa using solid
      · simpa using stops
      · rw [Text.eq_append_of_dropStart? marked, List.append_assoc, List.append_assoc]
  · rintro ⟨gap, after, between, word, stops, rfl⟩
    have begins : ∀ c ∈ (token ++ after).head?, isGap c = false := by
      obtain ⟨first, others, rfl⟩ := List.exists_cons_of_ne_nil word.nonempty
      intro c head
      obtain rfl := Option.some.inj head
      exact not_isGap_of_not_isBlank (word.solid _ List.mem_cons_self)
    have visible : (gap ++ (token ++ after)).dropWhile isGap = token ++ after :=
      Text.dropWhile_append_of_stop between begins
    have taken : (token ++ after).takeWhile (fun c => !isBlank c) = token :=
      Text.takeWhile_append_of_stop (fun c member => by simp [word.solid c member])
        fun c first => by simp [stops c first]
    rw [tokenAtStart?, List.append_assoc, List.append_assoc, Text.dropStart?_append,
      Option.bind_eq_bind, Option.bind_some, visible, taken]
    split
    · exact absurd rfl word.nonempty
    · rfl

theorem usable_iff :
    Usable text position ↔ ∃ token, tokenAtStart? (text.drop position) = some token := by
  simp only [tokenAtStart?_eq_some_iff]
  constructor
  · rintro ⟨gap, first, rest, between, visible, found⟩
    obtain ⟨run, after, rfl, solid, stops⟩ := Text.exists_run (fun c => !isBlank c) rest
    have solid : ∀ c ∈ first :: run, isBlank c = false :=
      List.forall_mem_cons.mpr ⟨visible, by simpa using solid⟩
    refine ⟨first :: run, gap, after, between, ⟨List.cons_ne_nil first run, solid⟩, ?_, ?_⟩
    · simpa using stops
    · rw [found, List.append_assoc _ (first :: run), List.cons_append]
  · rintro ⟨token, gap, after, between, word, -, found⟩
    obtain ⟨first, others, rfl⟩ := List.exists_cons_of_ne_nil word.nonempty
    refine ⟨gap, first, others ++ after, between, word.solid first List.mem_cons_self, ?_⟩
    rw [found, List.append_assoc, List.cons_append]

theorem tokenAtStart?_eq_none_iff :
    tokenAtStart? (text.drop position) = none ↔ ¬Usable text position := by
  rw [usable_iff, not_exists, Option.eq_none_iff_forall_ne_some]

theorem token?_cons (c : Char) (rest : List Char) :
    token? (c :: rest) = (tokenAtStart? (c :: rest)).or (token? rest) := by
  rw [token?, Option.orElse_eq_or]

theorem token?_eq (text : List Char) : token? text = text.tails.findSome? tokenAtStart? := by
  induction text with
  | nil => rfl
  | cons c rest ih => rw [token?_cons, ih, Text.findSome?_tails_cons]

theorem token?_eq_none_iff : token? text = none ↔ ∀ position, ¬Usable text position := by
  rw [token?_eq, Text.findSome?_tails_eq_none_iff]
  simp only [tokenAtStart?_eq_none_iff]

/-- The token of a text is that of its first usable marker. -/
theorem token?_eq_some_iff :
    token? text = some token ↔ ∃ site : Site text, site.token = token := by
  rw [token?_eq, Text.findSome?_tails_eq_some_iff]
  simp only [tokenAtStart?_eq_none_iff]
  constructor
  · rintro ⟨position, here, leftmost⟩
    obtain ⟨gap, after, between, word, stops, found⟩ := tokenAtStart?_eq_some_iff.mp here
    let site : Site text :=
      { before := text.take position, gap, token, after, between, word, stops
        whole := by rw [← found, List.take_append_drop]
        leftmost := fun earlier inside =>
          leftmost earlier (inside.trans_le (List.length_take_le position text)) }
    exact ⟨site, rfl⟩
  · rintro ⟨site, rfl⟩
    refine ⟨site.before.length, tokenAtStart?_eq_some_iff.mpr ?_, site.leftmost⟩
    refine ⟨site.gap, site.after, site.between, site.word, site.stops, ?_⟩
    exact (congrArg (List.drop site.before.length) site.whole).trans List.drop_left

/-- In front of a `g` it does not matter for what is usable what follows it. -/
theorem Usable.congr (usable : Usable (before ++ 'g' :: rest) position)
    (inside : position < before.length) (other : List Char) :
    Usable (before ++ 'g' :: other) position := by
  obtain ⟨gap, first, tail, between, visible, found⟩ := usable
  have shift (further : List Char) :
      (before ++ 'g' :: further).drop position = before.drop position ++ 'g' :: further :=
    List.drop_append_of_le_length inside.le
  obtain ⟨start, begun, part⟩ := List.exists_cons_of_length_pos (l := before.drop position)
    (by rw [List.length_drop]; omega)
  rw [shift, part] at found
  -- A marker that starts in front of this `g` holds no other one, nor does its gap.
  obtain ⟨rfl, behind⟩ : start = 'g' ∧
      begun ++ 'g' :: rest = ['o', 't', ':'] ++ gap ++ (first :: tail) := List.cons.inj found
  have absent := not_mem_of_blank fun c member => isBlank_of_isGap (between c member)
  obtain ⟨kept, rfl, ends⟩ := Text.exists_of_append_cons_eq absent behind
  rw [Usable]
  rw [shift, part]
  cases kept with
  | nil =>
      obtain ⟨rfl, -⟩ := List.cons_eq_cons.mp ends
      exact ⟨gap, 'g', other, between, visible, by rw [List.append_nil]; rfl⟩
  | cons c kept =>
      obtain ⟨rfl, -⟩ := List.cons_eq_cons.mp ends
      refine ⟨gap, first, kept ++ 'g' :: other, between, visible, ?_⟩
      simp [marker]

/-- What stands behind a blank after the first token does not change what is read. -/
theorem token?_congr (site : Site text) {other : List Char}
    (stops : ∀ c ∈ other.head?, isBlank c = true) :
    token? (site.before ++ (marker ++ site.gap ++ site.token ++ other)) = some site.token := by
  let further : Site (site.before ++ (marker ++ site.gap ++ site.token ++ other)) :=
    { before := site.before, gap := site.gap, token := site.token, after := other, whole := rfl
      between := site.between, word := site.word, stops
      leftmost := fun earlier inside usable => by
        have unfinished := usable.congr inside
          (['o', 't', ':'] ++ site.gap ++ site.token ++ site.after)
        refine site.leftmost earlier inside ?_
        rw [site.whole]
        exact unfinished }
  exact token?_eq_some_iff.mpr ⟨further, rfl⟩

section

variable {stop : Char} (blank : isBlank stop = true) (ends : isGap stop = false)
include blank ends

/-- A blank that is no space or tab ends a marker as the end of the text does. -/
theorem tokenAtStart?_append_cons (before rest : List Char) :
    tokenAtStart? (before ++ stop :: rest) = tokenAtStart? before := by
  ext token
  simp only [tokenAtStart?_eq_some_iff]
  constructor
  · rintro ⟨gap, after, between, word, stops, whole⟩
    have absent : stop ∉ marker ++ gap ++ token := by
      intro member
      rcases List.mem_append.mp member with member | among
      · rcases List.mem_append.mp member with marked | among
        · exact absurd blank (by simp [isWord_marker.solid stop marked])
        · exact absurd ends (by simp [between stop among])
      · exact absurd blank (by simp [word.solid stop among])
    obtain ⟨kept, rfl, rfl⟩ := Text.exists_of_append_cons_eq absent whole
    refine ⟨gap, kept, between, word, fun c first => ?_, rfl⟩
    exact stops c (by rw [List.head?_append, Option.mem_def.mp first]; rfl)
  · rintro ⟨gap, after, between, word, stops, rfl⟩
    refine ⟨gap, after ++ stop :: rest, between, word, ?_, List.append_assoc _ _ _⟩
    cases after with
    | nil => simpa using blank
    | cons c after => simpa using stops

theorem token?_append_cons (before rest : List Char) :
    token? (before ++ stop :: rest) = (token? before).or (token? rest) := by
  induction before with
  | nil =>
      have none : tokenAtStart? (stop :: rest) = none :=
        tokenAtStart?_append_cons blank ends [] rest
      rw [List.nil_append, token?_cons, none]
      rfl
  | cons c before ih =>
      have here := tokenAtStart?_append_cons blank ends (c :: before) rest
      rw [List.cons_append] at here
      rw [List.cons_append, token?_cons, here, ih, token?_cons, Option.or_assoc]

end

theorem token?_append_breaks {breaks : List Char} (all : ∀ c ∈ breaks, Text.isLineBreak c = true)
    (line : List Char) : token? (line ++ breaks) = token? line := by
  induction breaks generalizing line with
  | nil => rw [List.append_nil]
  | cons c breaks ih =>
      obtain ⟨here, later⟩ := List.forall_mem_cons.mp all
      have blank : isBlank c = true ∧ isGap c = false := by
        simp only [Text.isLineBreak, Bool.or_eq_true, decide_eq_true_eq] at here
        rcases here with rfl | rfl <;> exact ⟨rfl, rfl⟩
      have none : token? breaks = none := ih later []
      rw [token?_append_cons blank.1 blank.2, none, Option.or_none]

/-- The lines of a text can be read one by one. -/
theorem token?_lines (text : List Char) : token? text = (Text.lines text).findSome? token? := by
  induction text using Text.line_induction with
  | last line absent =>
      by_cases empty : line = []
      · rw [empty]
        rfl
      · rw [Text.lines, Text.segments_of_not_mem absent empty, List.map_singleton,
          Text.lineOf_of_not_mem absent, List.findSome?_singleton]
  | more line rest absent ih =>
      -- A carriage return before the line feed is no part of the line, and ends a marker as well.
      obtain ⟨breaks, all, whole⟩ := Text.lineOf_append_breaks line
      have read : token? (Text.lineOf (line ++ ['\n'])) = token? line := by
        conv_rhs => rw [← whole]
        exact (token?_append_breaks all _).symm
      rw [token?_append_cons rfl rfl, ih, Text.lines, Text.lines, Text.segments_append_cons absent,
        List.map_cons, List.findSome?_cons, read]
      cases token? line <;> rfl

theorem token?_of_not_mem (absent : 'g' ∉ text) : token? text = none := by
  refine token?_eq_none_iff.mpr fun position ⟨gap, first, rest, _, _, found⟩ => absent ?_
  exact List.mem_of_mem_drop (i := position) (found ▸ List.mem_cons_self)

/-- A marker with only blanks behind it reports nothing. -/
theorem token?_marker (blank : ∀ c ∈ gap, isBlank c = true) : token? (marker ++ gap) = none := by
  have fails : tokenAtStart? (marker ++ gap) = none := by
    refine Option.eq_none_iff_forall_ne_some.mpr fun token found => ?_
    obtain ⟨between, after, -, word, -, whole⟩ := tokenAtStart?_eq_some_iff.mp found
    rw [List.append_assoc, List.append_assoc, List.append_cancel_left_eq] at whole
    obtain ⟨first, others, rfl⟩ := List.exists_cons_of_ne_nil word.nonempty
    have member : first ∈ gap := by simp [whole]
    exact absurd (blank first member) (by simp [word.solid first List.mem_cons_self])
  have later : token? (['o', 't', ':'] ++ gap) = none := token?_of_not_mem (not_mem_of_blank blank)
  have split : token? (marker ++ gap) =
      (tokenAtStart? (marker ++ gap)).or (token? (['o', 't', ':'] ++ gap)) := token?_cons _ _
  rw [split, fails, later, Option.or_none]

/-- A marker with nothing behind it on its line is skipped. -/
theorem token?_marker_append (between : ∀ c ∈ gap, isGap c = true)
    (ends : ∀ c ∈ rest.head?, isBlank c = true ∧ isGap c = false) :
    token? (marker ++ gap ++ rest) = token? rest := by
  have none : token? (marker ++ gap) = none :=
    token?_marker fun c member => isBlank_of_isGap (between c member)
  cases rest with
  | nil => rw [List.append_nil, none, token?]
  | cons stop rest =>
      obtain ⟨blank, ends⟩ := ends stop rfl
      have alone : token? (stop :: rest) = token? rest := token?_append_cons blank ends [] rest
      rw [token?_append_cons blank ends, none, alone, Option.none_or]

/-- What stands before all usable markers is skipped. -/
theorem token?_drop {count : Nat} (useless : ∀ position < count, ¬Usable text position) :
    token? (text.drop count) = token? text := by
  induction count generalizing text with
  | zero => rfl
  | succ count ih =>
      cases text with
      | nil => rfl
      | cons c rest =>
          have here : tokenAtStart? (c :: rest) = none :=
            tokenAtStart?_eq_none_iff.mpr (useless 0 (Nat.zero_lt_succ count))
          rw [List.drop_succ_cons, token?_cons, here, Option.none_or]
          exact ih fun position inside => useless (position + 1) (Nat.succ_lt_succ inside)

/-- A reported hash ends no line. -/
theorem feed_not_mem_hash? {diagnostics hash : String} (reported : hash? diagnostics = some hash) :
    '\n' ∉ hash.toList := by
  obtain ⟨token, found, rfl⟩ := Option.map_eq_some_iff.mp reported
  obtain ⟨site, rfl⟩ := token?_eq_some_iff.mp found
  intro member
  have inside := Hash.mem_of_mem_ofReported member
  rw [String.toList_ofList] at inside
  exact absurd (site.word.solid _ inside) (by decide)

theorem hash?_ofList (text : List Char) :
    hash? (String.ofList text) =
      (token? text).map fun token => Hash.ofReported (String.ofList token) := by
  rw [hash?, String.toList_ofList]

namespace Sample

/-- Diagnostics with two empty markers above one that a hash follows. -/
def mismatch : String :=
  "forgot: \t\r\ngot:\u00a0x\n  got:\tsha256:1b4x\u3000got: y"

end Sample

/-- Diagnostics report the hash behind their leftmost usable marker, and none exactly if no marker
is usable. Their lines can be read one by one; a marker with nothing behind it is skipped, and what
stands behind a blank after the token does not matter. -/
theorem hash?_exact (diagnostics : String) :
    (hash? diagnostics = none ↔ ∀ position, ¬Usable diagnostics.toList position) ∧
    (∀ hash, hash? diagnostics = some hash ↔
      ∃ site : Site diagnostics.toList, hash = Hash.ofReported (String.ofList site.token)) ∧
    hash? diagnostics =
      (Text.lines diagnostics.toList).findSome? (fun line => hash? (String.ofList line)) ∧
    (∀ before gap rest, diagnostics.toList = before ++ (marker ++ gap ++ rest) →
      (∀ position < before.length, ¬Usable diagnostics.toList position) →
      (∀ c ∈ gap, isGap c = true) →
      (∀ c ∈ rest.head?, isBlank c = true ∧ isGap c = false) →
      hash? diagnostics = hash? (String.ofList rest)) ∧
    ∀ site : Site diagnostics.toList, '\n' ∉ site.gap ++ site.token ∧
      ∀ other, (∀ c ∈ other.head?, isBlank c = true) →
        hash? (String.ofList (site.before ++ (marker ++ site.gap ++ site.token ++ other))) =
          hash? diagnostics := by
  refine ⟨?_, fun hash => ?_, ?_, fun before gap rest whole useless between ends => ?_,
    fun site => ⟨fun member => ?_, fun other stops => ?_⟩⟩
  · rw [hash?, Option.map_eq_none_iff, token?_eq_none_iff]
  · rw [hash?, Option.map_eq_some_iff]
    simp only [token?_eq_some_iff]
    constructor
    · rintro ⟨token, ⟨site, rfl⟩, rfl⟩
      exact ⟨site, rfl⟩
    · rintro ⟨site, rfl⟩
      exact ⟨site.token, ⟨site, rfl⟩, rfl⟩
  · simp only [hash?_ofList]
    rw [hash?, token?_lines, List.map_findSome?]
    rfl
  · have skipped := token?_drop useless
    rw [whole, List.drop_left, token?_marker_append between ends] at skipped
    rw [hash?_ofList, skipped, hash?, whole]
  · rcases List.mem_append.mp member with among | among
    · exact absurd (site.between _ among) (by decide)
    · exact absurd (site.word.solid _ among) (by decide)
  · have read : token? diagnostics.toList = some site.token := token?_eq_some_iff.mpr ⟨site, rfl⟩
    rw [hash?_ofList, token?_congr site stops, hash?, read]

/-- Neither the marker before a carriage return nor the one before a no-break space is usable. -/
theorem hash?_exact_mismatch :
    hash? Sample.mismatch = some "1b4x" ∧
      hash? (String.ofList (Sample.mismatch.toList.drop 9)) = some "1b4x" ∧
      ∃ site : Site Sample.mismatch.toList, "1b4x" = Hash.ofReported (String.ofList site.token) ∧
        hash? (String.ofList (site.before ++ (marker ++ site.gap ++ site.token ++ ['\n', 'x']))) =
          some "1b4x" := by
  obtain ⟨-, reports, -, skips, reads⟩ := hash?_exact Sample.mismatch
  have reported : hash? Sample.mismatch = some "1b4x" := by decide +kernel
  have useless : ∀ position < 3, ¬Usable Sample.mismatch.toList position := by
    have none : ∀ position < 3, tokenAtStart? (Sample.mismatch.toList.drop position) = none := by
      decide +kernel
    exact fun position inside => tokenAtStart?_eq_none_iff.mp (none position inside)
  have ends : ∀ c ∈ (Sample.mismatch.toList.drop 9).head?, isBlank c = true ∧ isGap c = false := by
    have returned : (Sample.mismatch.toList.drop 9).head? = some '\r' := by decide +kernel
    rw [returned]
    rintro c ⟨⟩
    exact ⟨rfl, rfl⟩
  have skipped := skips ['f', 'o', 'r'] [' ', '\t'] (Sample.mismatch.toList.drop 9)
    (by decide +kernel) useless (by simp [isGap]) ends
  obtain ⟨site, same⟩ := (reports "1b4x").mp reported
  have kept := (reads site).2 ['\n', 'x'] (by rintro c ⟨⟩; rfl)
  exact ⟨reported, skipped ▸ reported, site, same, kept.trans reported⟩

end Report

end ManifestPin
