import Mathlib.Data.List.TakeWhile
import ManifestPin.Files.Replace
import ManifestPin.Proofs.Text.Lines

/-! # Pieces of paths

A path that ends with a name, the path of its directory and the path of its temporary file have
the same pieces in front, up to pieces that name nothing.
-/

namespace ManifestPin

namespace Text

/-- What holds no separator is added to the last piece. -/
theorem splitAt_append_of_not_mem (separator : Char) (text : List Char) :
    ∃ before last, ∀ added, separator ∉ added →
      splitAt separator (text ++ added) = before ++ [last ++ added] := by
  induction text with
  | nil => exact ⟨[], [], fun added absent => splitAt_of_not_mem absent⟩
  | cons c rest ih =>
      obtain ⟨before, last, pieces⟩ := ih
      by_cases cut : c = separator
      · subst cut
        refine ⟨[] :: before, last, fun added absent => ?_⟩
        rw [List.cons_append, splitAt_cons_self, pieces added absent, List.cons_append]
      · cases before with
        | nil =>
            refine ⟨[], c :: last, fun added absent => ?_⟩
            rw [List.cons_append, splitAt, if_neg cut, pieces added absent]
            rfl
        | cons first before =>
            refine ⟨(c :: first) :: before, last, fun added absent => ?_⟩
            rw [List.cons_append, splitAt, if_neg cut, pieces added absent]
            rfl

end Text

namespace Path

variable {path name piece first : String} {before rest : List String}

theorem isNaming_iff : isNaming name = true ↔ name ≠ "" ∧ name ≠ "." := by
  simp [isNaming]

theorem pieces_ne_nil (path : String) : pieces path ≠ [] := by
  simpa [pieces] using Text.splitAt_ne_nil '/' path.toList

/-- A path has a last piece. -/
theorem exists_last_piece (path : String) : ∃ before last, pieces path = before ++ [last] := by
  obtain none | ⟨before, last, cut⟩ := List.eq_nil_or_concat (pieces path)
  · exact absurd none (pieces_ne_nil path)
  · exact ⟨before, last, cut.trans List.concat_eq_append⟩

theorem pieces_of_not_mem (absent : '/' ∉ path.toList) : pieces path = [path] := by
  simp [pieces, Text.splitAt_of_not_mem absent]

theorem pieces_append_slash (first second : String) :
    pieces (first ++ "/" ++ second) = pieces first ++ pieces second := by
  simp [pieces, Text.splitAt_append_cons]

theorem not_mem_of_mem_pieces (path : String) (member : piece ∈ pieces path) : '/' ∉ piece.toList := by
  obtain ⟨text, found, rfl⟩ := List.mem_map.mp member
  rw [String.toList_ofList]
  exact Text.not_mem_of_mem_splitAt found

/-- Pieces that are joined are found again. -/
theorem pieces_intercalate (absent : ∀ piece ∈ first :: rest, '/' ∉ piece.toList) :
    pieces ("/".intercalate (first :: rest)) = first :: rest := by
  induction rest generalizing first with
  | nil => exact String.intercalate_singleton ▸ pieces_of_not_mem (absent first (by simp))
  | cons next rest ih =>
      rw [String.intercalate_cons_cons, pieces_append_slash,
        pieces_of_not_mem (absent first (by simp)), ih fun piece member =>
          absent piece (List.mem_cons_of_mem _ member)]
      rfl

/-- The pieces of a path make up the path. -/
theorem intercalate_pieces (path : String) : "/".intercalate (pieces path) = path := by
  apply String.toList_injective
  have same : (pieces path).map String.toList = Text.splitAt '/' path.toList := by
    simp [pieces, Function.comp_def]
  rw [String.toList_intercalate, same]
  exact Text.joinWith_splitAt '/' path.toList

/-- A path is rooted when more pieces follow an empty one at its start. -/
theorem isRooted_of_pieces (cut : pieces path = first :: rest) :
    isRooted path = (decide (first = "") && !rest.isEmpty) := by
  have absent : '/' ∉ first.toList := not_mem_of_mem_pieces path (by simp [cut])
  have whole := intercalate_pieces path
  rw [cut] at whole
  unfold isRooted
  cases rest with
  | nil =>
      rw [String.intercalate_singleton] at whole
      subst whole
      cases text : first.toList <;> simp_all [ne_comm]
  | cons next rest =>
      have text : path.toList = first.toList ++ '/' :: ("/".intercalate (next :: rest)).toList := by
        rw [← whole, String.intercalate_cons_cons]
        simp
      rw [text]
      by_cases empty : first = ""
      · simp [empty]
      · obtain ⟨c, more, letters⟩ := List.exists_cons_of_ne_nil (mt String.toList_eq_nil_iff.mp empty)
        simp_all [ne_comm]

/-- A path ends with a slash when its last piece is empty and others stand before it. -/
theorem endsWithSlash_of_pieces (cut : pieces path = before ++ [name]) :
    endsWithSlash path = (decide (name = "") && !before.isEmpty) := by
  have absent : '/' ∉ name.toList := not_mem_of_mem_pieces path (by simp [cut])
  have whole := intercalate_pieces path
  rw [cut] at whole
  unfold endsWithSlash
  by_cases alone : before = []
  · subst alone
    rw [List.nil_append, String.intercalate_singleton] at whole
    subst whole
    rcases List.eq_nil_or_concat name.toList with text | ⟨letters, c, text⟩ <;>
      simp_all [ne_comm]
  · have text : path.toList = ("/".intercalate before).toList ++ '/' :: name.toList := by
      rw [← whole, String.intercalate_append_of_ne_nil alone (List.cons_ne_nil _ _)]
      simp
    rcases List.eq_nil_or_concat name.toList with none | ⟨letters, c, more⟩
    · rw [text, none, String.toList_eq_nil_iff.mp none]
      simp [alone]
    · have named : name ≠ "" := by
        rintro rfl
        simp at more
      rw [text, more, List.concat_eq_append, ← List.cons_append, ← List.append_assoc,
        List.getLast?_concat]
      simp_all [ne_comm]

/-- The pieces of a path that stay when those that name nothing are dropped at its end. -/
theorem dropUnnamed_append (all : List String) :
    ∃ dropped, all = dropUnnamed all ++ dropped ∧ ∀ piece ∈ dropped, isNaming piece = false := by
  refine ⟨(all.reverse.takeWhile fun piece => !isNaming piece).reverse, ?_, ?_⟩
  · rw [dropUnnamed, ← List.reverse_append, List.takeWhile_append_dropWhile, List.reverse_reverse]
  · intro piece member
    simpa using List.all_eq_true.mp List.all_takeWhile piece (List.mem_reverse.mp member)

theorem dropUnnamed_of_naming (naming : isNaming name = true) {trailing : List String}
    (blank : ∀ piece ∈ trailing, isNaming piece = false) :
    dropUnnamed (before ++ name :: trailing) = before ++ [name] := by
  have all : ∀ piece ∈ trailing.reverse, (!isNaming piece) = true := by
    intro piece member
    simp [blank piece (List.mem_reverse.mp member)]
  rw [dropUnnamed, List.reverse_append, List.reverse_cons, List.append_assoc,
    List.dropWhile_append_of_pos all]
  simp [naming]

/-- What is left at the end names something. -/
theorem naming_of_dropUnnamed {all : List String} (left : dropUnnamed all = before ++ [name]) :
    isNaming name = true := by
  have stop := List.head?_dropWhile_not (fun piece => !isNaming piece) all.reverse
  rw [List.reverse_eq_iff.mp left, List.reverse_concat] at stop
  simpa using stop

/-- Below the root, the pieces of a directory are found again in its path. -/
theorem pieces_ofPieces {middle : List String}
    (absent : ∀ piece ∈ first :: dropUnnamed middle, '/' ∉ piece.toList)
    (below : ¬(first = "" ∧ dropUnnamed middle = [])) :
    pieces (ofPieces first (dropUnnamed middle)) = first :: dropUnnamed middle ∧
      ofPieces first (dropUnnamed middle) ≠ "" ∧
      endsWithSlash (ofPieces first (dropUnnamed middle)) = false := by
  have whole : ofPieces first (dropUnnamed middle) =
      "/".intercalate (first :: dropUnnamed middle) := by
    cases kept : dropUnnamed middle with
    | nil => simp_all [ofPieces]
    | cons => rfl
  have cut := pieces_intercalate absent
  rw [← whole] at cut
  refine ⟨cut, ?_, ?_⟩
  · intro empty
    rw [empty, pieces_of_not_mem (by simp)] at cut
    simp_all
  · rcases List.eq_nil_or_concat (dropUnnamed middle) with none | ⟨front, last, kept⟩
    · rw [none] at cut ⊢
      simp [endsWithSlash_of_pieces (cut.trans (List.nil_append _).symm)]
    · rw [List.concat_eq_append] at kept
      have named := (isNaming_iff.mp (naming_of_dropUnnamed kept)).1
      rw [kept] at cut ⊢
      simp [endsWithSlash_of_pieces (cut.trans (List.cons_append ..).symm), named]

/-- The path of a directory is rooted when its first piece is empty, and its pieces are found again
in front of some that name nothing. -/
theorem exists_pieces_ofPieces {middle : List String}
    (absent : ∀ piece ∈ first :: dropUnnamed middle, '/' ∉ piece.toList) :
    isRooted (ofPieces first (dropUnnamed middle)) = decide (first = "") ∧
      ∃ slashes, (∀ piece ∈ slashes, isNaming piece = false) ∧
        pieces (ofPieces first (dropUnnamed middle)) = first :: dropUnnamed middle ++ slashes := by
  by_cases root : first = "" ∧ dropUnnamed middle = []
  · obtain ⟨rfl, none⟩ := root
    rw [none, ofPieces, if_pos rfl]
    exact ⟨rfl, [""], by simp [isNaming], rfl⟩
  · have found := (pieces_ofPieces absent root).1
    refine ⟨?_, [], by simp, by simp [found]⟩
    rw [isRooted_of_pieces found]
    by_cases empty : first = ""
    · have some : dropUnnamed middle ≠ [] := fun none => root ⟨empty, none⟩
      simp [empty, some]
    · simp [empty]

/-- A relative path below a directory has the pieces of both. -/
theorem pieces_join_ofPieces {middle : List String} {new : String}
    (absent : ∀ piece ∈ first :: dropUnnamed middle, '/' ∉ piece.toList)
    (relative : isRooted new = false) :
    pieces (join (ofPieces first (dropUnnamed middle)) new) =
      first :: dropUnnamed middle ++ pieces new := by
  by_cases root : first = "" ∧ dropUnnamed middle = []
  · obtain ⟨rfl, none⟩ := root
    have joined : join "/" new = "" ++ "/" ++ new := by
      simp [join, relative, endsWithSlash]
    rw [none, ofPieces, if_pos rfl, joined, pieces_append_slash]
    rfl
  · obtain ⟨found, some, noSlash⟩ := pieces_ofPieces absent root
    simp [join, relative, some, noSlash, pieces_append_slash, found]

/-- The last component of a path, which names something, and the path of its directory. -/
theorem lastComponent?_of_pieces {trailing : List String}
    (cut : pieces path = before ++ name :: trailing) (naming : isNaming name = true)
    (blank : ∀ piece ∈ trailing, isNaming piece = false) :
    ∃ parent kept dropped, before = kept ++ dropped ∧
      (∀ piece ∈ dropped, isNaming piece = false) ∧
      lastComponent? path = some (parent, name) ∧
      (parent = "" ∨ isRooted parent = isRooted path ∧
        ∃ slashes, (∀ piece ∈ slashes, isNaming piece = false) ∧
          pieces parent = kept ++ slashes) ∧
      ∀ new, isRooted new = false → isRooted (join parent new) = isRooted path ∧
        pieces (join parent new) = kept ++ pieces new := by
  have nonempty := (isNaming_iff.mp naming).1
  cases before with
  | nil =>
      rw [List.nil_append] at cut
      refine ⟨"", [], [], rfl, by simp, ?_, .inl rfl, fun new relative => ?_⟩
      · have none : dropUnnamed trailing = [] := by
          rw [dropUnnamed, List.reverse_eq_nil_iff, List.dropWhile_eq_nil_iff]
          simpa using blank
        simp [lastComponent?, cut, none, nonempty]
      · simp [join, relative, isRooted_of_pieces cut, nonempty]
  | cons first middle =>
      obtain ⟨dropped, rest, unnamed⟩ := dropUnnamed_append middle
      have last : lastComponent? path = some (ofPieces first (dropUnnamed middle), name) := by
        rw [List.cons_append] at cut
        simp [lastComponent?, cut, dropUnnamed_of_naming naming blank]
      have absent : ∀ piece ∈ first :: dropUnnamed middle, '/' ∉ piece.toList := by
        intro piece member
        refine not_mem_of_mem_pieces path ?_
        rw [cut, rest]
        exact List.mem_append_left _ (List.mem_append_left dropped member)
      have rooted : isRooted path = decide (first = "") := by
        rw [List.cons_append] at cut
        simp [isRooted_of_pieces cut]
      obtain ⟨above, slashes⟩ := exists_pieces_ofPieces absent
      refine ⟨ofPieces first (dropUnnamed middle), first :: dropUnnamed middle, dropped,
        by rw [List.cons_append, ← rest], unnamed, last, .inr ⟨above.trans rooted.symm, slashes⟩,
        fun new relative => ?_⟩
      have joined := pieces_join_ofPieces absent relative
      refine ⟨?_, joined⟩
      rw [List.cons_append] at joined
      simp [isRooted_of_pieces joined, rooted, pieces_ne_nil]

/-- A path whose last piece is a name, with the pieces in front of it. -/
structure Named (path : String) (before : List String) (name : String) : Prop where
  pieces : Path.pieces path = before ++ [name]
  naming : isNaming name = true
  notUp : name ≠ ".."

namespace Named

variable (named : Named path before name)

include named

theorem nonempty : name ≠ "" :=
  (isNaming_iff.mp named.naming).1

theorem notHere : name ≠ "." :=
  (isNaming_iff.mp named.naming).2

theorem slash_not_mem : '/' ∉ name.toList :=
  not_mem_of_mem_pieces path (by simp [named.pieces])

theorem endsWithSlash : endsWithSlash path = false := by
  simp [endsWithSlash_of_pieces named.pieces, named.nonempty]

/-- The last component of a path that ends with a name, and the path of its directory. -/
theorem lastComponent? :
    ∃ parent kept dropped, before = kept ++ dropped ∧
      (∀ piece ∈ dropped, isNaming piece = false) ∧
      Path.lastComponent? path = some (parent, name) ∧
      (parent = "" ∨ isRooted parent = isRooted path ∧
        ∃ slashes, (∀ piece ∈ slashes, isNaming piece = false) ∧
          Path.pieces parent = kept ++ slashes) ∧
      ∀ new, isRooted new = false → isRooted (join parent new) = isRooted path ∧
        Path.pieces (join parent new) = kept ++ Path.pieces new :=
  lastComponent?_of_pieces named.pieces named.naming nofun

theorem fileName? : Path.fileName? path = some name := by
  obtain ⟨parent, -, -, -, -, last, -⟩ := named.lastComponent?
  simp [Path.fileName?, last, named.notHere, named.notUp]

end Named

/-- More than two characters are a name. -/
theorem naming_of_long (long : 2 < name.length) : isNaming name = true ∧ name ≠ ".." := by
  have differs (other : String) (short : other.length ≤ 2) : name ≠ other := by
    rintro rfl
    omega
  exact ⟨isNaming_iff.mpr ⟨differs "" (by decide), differs "." (by decide)⟩,
    differs ".." (by decide)⟩

/-- A path that ends in an extension of more than two characters ends with a name. -/
theorem named_of_extension {front extension : List Char} (whole : path.toList = front ++ extension)
    (absent : '/' ∉ extension) (long : 2 < extension.length) :
    ∃ before name, Named path before name := by
  obtain ⟨before, last, cut⟩ := Text.splitAt_append_of_not_mem '/' front
  have length : 2 < (String.ofList (last ++ extension)).length := by
    rw [String.length_ofList, List.length_append]
    omega
  obtain ⟨naming, notUp⟩ := naming_of_long length
  refine ⟨before.map String.ofList, String.ofList (last ++ extension), ?_, naming, notUp⟩
  simp [pieces, whole, cut extension absent]

theorem toList_join_append (base name extension : String) :
    ∃ front, (join base (name ++ extension)).toList = front ++ extension.toList := by
  unfold join
  split
  · exact ⟨name.toList, String.toList_append⟩
  split
  · exact ⟨base.toList ++ name.toList, by simp⟩
  · exact ⟨base.toList ++ '/' :: name.toList, by simp⟩

end Path

namespace Tree

open ManifestPin.Path

variable {path name tag : String} {before : List String}

/-- The name of the temporary file for a name. -/
def temporaryName (tag name : String) : String :=
  "." ++ name ++ "." ++ tag ++ ".tmp"

theorem temporaryName_ne (tag name : String) : temporaryName tag name ≠ name := by
  intro same
  have longer := congrArg String.length same
  simp only [temporaryName, String.length_append] at longer
  have : ".".length = 1 := rfl
  omega

/-- The path of a temporary file ends with a name. -/
theorem exists_named_temporary (tag path : String) :
    ∃ before name, Named (temporary tag path) before name := by
  obtain ⟨front, whole⟩ : ∃ front, (temporary tag path).toList = front ++ ".tmp".toList := by
    unfold temporary withFileName
    split <;> exact toList_join_append _ _ _
  exact named_of_extension whole (by decide) (by decide)

theorem isRooted_temporaryName (tag name : String) : isRooted (temporaryName tag name) = false := by
  simp [isRooted, temporaryName]

/-- The path of a temporary file is that of its directory and its name. -/
theorem temporary_eq_join (named : Named path before name) (tag : String) {parent : String}
    (above : parent? path = some parent) :
    temporary tag path = join parent (temporaryName tag name) := by
  obtain ⟨_, -, -, -, -, last, -⟩ := named.lastComponent?
  obtain rfl : _ = parent := by simpa [parent?, last] using above
  simp [temporary, withFileName, last, named.fileName?, temporaryName]

/-- The temporary file for a path that ends with a name is in the same directory. -/
theorem named_temporary (named : Named path before name) (plain : '/' ∉ tag.toList) :
    ∃ kept dropped, before = kept ++ dropped ∧ (∀ piece ∈ dropped, isNaming piece = false) ∧
      isRooted (temporary tag path) = isRooted path ∧
      Named (temporary tag path) kept (temporaryName tag name) := by
  obtain ⟨parent, kept, dropped, whole, unnamed, last, -, joined⟩ := named.lastComponent?
  have sibling : temporary tag path = join parent (temporaryName tag name) :=
    temporary_eq_join named tag (by simp [parent?, last])
  obtain ⟨rooted, cut⟩ := joined _ (isRooted_temporaryName tag name)
  have absent : '/' ∉ (temporaryName tag name).toList := by
    simp [temporaryName, named.slash_not_mem, plain]
  rw [pieces_of_not_mem absent, ← sibling] at cut
  have length : 2 < (temporaryName tag name).length := by
    rw [temporaryName, String.length_append, String.length_append]
    have : ".tmp".length = 4 := rfl
    omega
  obtain ⟨naming, notUp⟩ := naming_of_long length
  exact ⟨kept, dropped, whole, unnamed, sibling ▸ rooted, cut, naming, notUp⟩

end Tree

end ManifestPin
