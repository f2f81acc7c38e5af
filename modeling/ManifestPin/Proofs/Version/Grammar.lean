import ManifestPin.Proofs.Text.Lines
import ManifestPin.Proofs.Version.Numeral
import ManifestPin.Version.Basic

/-! # The grammar of versions

A version is written as a semantic version (SemVer 2.0.0, section 9 and its grammar) with core
numbers of 64 bits, or as numerals between dots. The texts that are read are these, and the numbers
and identifiers that are read are those of the writing (`parse_eq_ok_iff`), also where a text is
written both ways. What is reported of another text is the first problem of its leftmost piece that
is no numeral.
-/

namespace ManifestPin

namespace Identifier

variable {text : List Char} {identifier : Identifier}

/-- Digits without a superfluous zero in front. -/
inductive IsNumeric : List Char → Prop where
  | zero : IsNumeric ['0']
  | positive {first : Char} {rest : List Char} (nonzero : first ≠ '0')
      (digit : ∀ c ∈ first :: rest, c.isDigit = true) : IsNumeric (first :: rest)

/-- Letters, digits and hyphens, and not digits alone. -/
structure IsTextual (text : List Char) : Prop where
  allowed : ∀ c ∈ text, isAllowed c = true
  nondigit : ∃ c ∈ text, c.isDigit = false

/-- The identifiers of a pre-release. -/
def IsPreRelease (text : List Char) : Prop :=
  IsNumeric text ∨ IsTextual text

/-- The identifiers of build metadata. -/
def IsMetadata (text : List Char) : Prop :=
  (text ≠ [] ∧ ∀ c ∈ text, c.isDigit = true) ∨ IsTextual text

/-- What an identifier stands for: digits for their value, anything else for itself. -/
def ofText (text : List Char) : Identifier :=
  if text.all Char.isDigit then .numeric (Numeral.value text) else .textual (String.ofList text)

theorem IsNumeric.digit (numeric : IsNumeric text) : ∀ c ∈ text, c.isDigit = true := by
  cases numeric with
  | zero => exact List.forall_mem_singleton.mpr rfl
  | positive _ digit => exact digit

theorem IsNumeric.ne_nil (numeric : IsNumeric text) : text ≠ [] := by
  cases numeric <;> exact List.cons_ne_nil _ _

theorem isPlainNumeral_iff : isPlainNumeral text = true ↔ IsNumeric text := by
  unfold isPlainNumeral
  split
  next => exact ⟨nofun, fun numeric => absurd rfl numeric.ne_nil⟩
  next second rest =>
    refine ⟨nofun, fun numeric => ?_⟩
    cases numeric with
    | positive nonzero => exact absurd rfl nonzero
  next nonempty single =>
    rw [List.all_eq_true]
    refine ⟨fun digit => ?_, IsNumeric.digit⟩
    rcases text with _ | ⟨first, rest⟩
    · exact absurd rfl nonempty
    by_cases zero : first = '0'
    · subst zero
      cases rest with
      | nil => exact .zero
      | cons second rest => exact absurd rfl (single second rest)
    · exact .positive zero digit

theorem isAllowed_of_isDigit {c : Char} (digit : c.isDigit = true) : isAllowed c = true := by
  simp [isAllowed, Char.isAlphanum, digit]

theorem IsMetadata.allowed (metadata : IsMetadata text) : ∀ c ∈ text, isAllowed c = true := by
  rcases metadata with ⟨-, digit⟩ | textual
  · exact fun c member => isAllowed_of_isDigit (digit c member)
  · exact textual.allowed

theorem IsPreRelease.isMetadata (preRelease : IsPreRelease text) : IsMetadata text := by
  rcases preRelease with numeric | textual
  · exact .inl ⟨numeric.ne_nil, numeric.digit⟩
  · exact .inr textual

theorem isBuild_iff : isBuild text = true ↔ IsMetadata text := by
  simp only [isBuild, Bool.and_eq_true, Bool.not_eq_true', List.isEmpty_eq_false_iff,
    List.all_eq_true]
  constructor
  · rintro ⟨nonempty, allowed⟩
    by_cases digit : ∀ c ∈ text, c.isDigit = true
    · exact .inl ⟨nonempty, digit⟩
    · exact .inr ⟨allowed, by simpa using digit⟩
  · intro metadata
    refine ⟨?_, metadata.allowed⟩
    rcases metadata with ⟨nonempty, -⟩ | textual
    · exact nonempty
    · obtain ⟨c, member, -⟩ := textual.nondigit
      exact List.ne_nil_of_mem member

theorem valueOf_eq_value (digits : List Char) : valueOf digits = Numeral.value digits := by
  induction digits using List.reverseRecOn with
  | nil => rfl
  | append_singleton digits c ih =>
      rw [valueOf, List.foldl_append, ← valueOf, ih, Numeral.value_concat]
      rfl

theorem read?_eq_some_iff :
    read? text = some identifier ↔ IsPreRelease text ∧ identifier = ofText text := by
  unfold read? ofText IsPreRelease
  by_cases build : isBuild text = true
  · by_cases digit : text.all Char.isDigit = true
    · have untextual : ¬IsTextual text := by
        rintro ⟨-, c, member, nondigit⟩
        simp [List.all_eq_true.mp digit c member] at nondigit
      simp only [build, digit, untextual, or_false, ← isPlainNumeral_iff]
      by_cases plain : isPlainNumeral text = true <;>
        simp [plain, valueOf_eq_value, eq_comm]
    · have textual : IsTextual text := by
        rcases isBuild_iff.mp build with ⟨-, all⟩ | textual
        · exact absurd (List.all_eq_true.mpr all) digit
        · exact textual
      simp [build, digit, textual, eq_comm]
  · have refused : ¬IsPreRelease text :=
      fun preRelease => build (isBuild_iff.mpr preRelease.isMetadata)
    rw [IsPreRelease] at refused
    simp [build, refused]

end Identifier

open Identifier (IsNumeric IsPreRelease IsMetadata)

open Text (joinWith)

/-- Parts between dots behind a mark; nothing at all when there is no part. -/
def marked (mark : Char) : List (List Char) → List Char
  | [] => []
  | part :: parts => mark :: joinWith ['.'] (part :: parts)

theorem head?_marked {mark : Char} {parts : List (List Char)} :
    ∀ c ∈ (marked mark parts).head?, c = mark := by
  cases parts <;> simp [marked, eq_comm]

theorem marked_of_ne_nil {mark : Char} {parts : List (List Char)} (nonempty : parts ≠ []) :
    marked mark parts = mark :: joinWith ['.'] parts := by
  cases parts with
  | nil => exact absurd rfl nonempty
  | cons => rfl

theorem dot_not_mem {piece : List Char}
    (allowed : ∀ c ∈ piece, Identifier.isAllowed c = true) : '.' ∉ piece :=
  fun member => absurd (allowed '.' member) (by decide)

/-- A number of a semantic version's core. -/
structure IsCoreNumber (text : List Char) : Prop where
  numeric : IsNumeric text
  fits : Numeral.Fits text

theorem IsCoreNumber.allowed {text : List Char} (core : IsCoreNumber text) :
    ∀ c ∈ text, Identifier.isAllowed c = true :=
  fun c member => Identifier.isAllowed_of_isDigit (core.numeric.digit c member)

/-- A semantic version as it is written. -/
structure SemanticVersion where
  major : List Char
  minor : List Char
  patch : List Char
  /-- The identifiers behind the hyphen; none for a release proper. -/
  preRelease : List (List Char)
  /-- The identifiers behind the plus sign, if there is one. -/
  metadata : List (List Char)
  isCore : ∀ number ∈ [major, minor, patch], IsCoreNumber number
  isPreRelease : ∀ identifier ∈ preRelease, IsPreRelease identifier
  isMetadata : ∀ identifier ∈ metadata, IsMetadata identifier

namespace SemanticVersion

def core (version : SemanticVersion) : List (List Char) :=
  [version.major, version.minor, version.patch]

def text (version : SemanticVersion) : List Char :=
  joinWith ['.'] version.core ++ (marked '-' version.preRelease ++ marked '+' version.metadata)

def release (version : SemanticVersion) : List Nat :=
  version.core.map Numeral.value

def identifiers (version : SemanticVersion) : List Identifier :=
  version.preRelease.map Identifier.ofText

theorem dot_not_mem_core (version : SemanticVersion) : ∀ number ∈ version.core, '.' ∉ number :=
  fun number member => dot_not_mem (version.isCore number member).allowed

end SemanticVersion

/-- Numerals between dots. -/
structure DottedVersion where
  components : List Numeral
  nonempty : components ≠ []

namespace DottedVersion

def text (version : DottedVersion) : List Char :=
  joinWith ['.'] (version.components.map Numeral.text)

def release (version : DottedVersion) : List Nat :=
  version.components.map fun component => Numeral.value component.digits

theorem splitAt_text (version : DottedVersion) :
    Text.splitAt '.' version.text = version.components.map Numeral.text := by
  refine Text.splitAt_joinWith ?_ (by simpa using version.nonempty)
  intro piece among member
  obtain ⟨numeral, -, rfl⟩ := List.mem_map.mp among
  rcases numeral.mem_text member with plus | digit
  · exact absurd plus (by decide)
  · exact absurd digit (by decide)

end DottedVersion

namespace Version

/-- A version as it is written. -/
inductive Spelling where
  | semantic (version : SemanticVersion)
  | dotted (version : DottedVersion)

namespace Spelling

def text : Spelling → List Char
  | .semantic version => version.text
  | .dotted version => version.text

def release : Spelling → List Nat
  | .semantic version => version.release
  | .dotted version => version.release

def preRelease : Spelling → List Identifier
  | .semantic version => version.identifiers
  | .dotted _ => []

/-- The version that is written. -/
def version (spelling : Spelling) : Version :=
  ⟨spelling.release, spelling.preRelease, String.ofList spelling.text⟩

end Spelling

variable {text : List Char} {version : Version}

/-- A list maps throughout to its images when each of its elements does. -/
theorem mapM_eq_some_iff {α β : Type} {f : α → Option β} {valid : α → Prop} {image : α → β}
    (each : ∀ element result, f element = some result ↔ valid element ∧ image element = result)
    {elements : List α} {images : List β} :
    elements.mapM f = some images ↔
      (∀ element ∈ elements, valid element) ∧ elements.map image = images := by
  induction elements generalizing images with
  | nil => simp
  | cons element elements ih =>
      simp only [List.mapM_cons, Option.bind_eq_bind, Option.bind_eq_some_iff, Option.pure_def,
        Option.some.injEq, each, ih, List.forall_mem_cons, List.map_cons]
      constructor
      · rintro ⟨_, ⟨first, rfl⟩, _, ⟨rest, rfl⟩, rfl⟩
        exact ⟨⟨first, rest⟩, rfl⟩
      · rintro ⟨⟨first, rest⟩, rfl⟩
        exact ⟨_, ⟨first, rfl⟩, _, ⟨rest, rfl⟩, rfl⟩

theorem coreNumber?_eq_some_iff (number : List Char) (value : Nat) :
    coreNumber? number = some value ↔ IsCoreNumber number ∧ Numeral.value number = value := by
  unfold coreNumber?
  split
  next plain =>
    have numeric := Identifier.isPlainNumeral_iff.mp plain
    rcases Numeral.fits_or_stops number with fits | ⟨fault, stops⟩
    · have core : IsCoreNumber number := ⟨numeric, fits⟩
      rw [Numeral.read_of_fits numeric.ne_nil fits]
      simp [Except.toOption, core]
    · have unfit : ¬IsCoreNumber number := by
        intro core
        have read := Numeral.readDigits_of_fits core.fits
        rw [Numeral.readDigits_of_stops stops] at read
        contradiction
      rw [Numeral.read_of_digits numeric.ne_nil numeric.digit, Numeral.readDigits_of_stops stops]
      simp [Except.toOption, unfit]
  next plain =>
    have unfit : ¬IsCoreNumber number :=
      fun core => plain (Identifier.isPlainNumeral_iff.mpr core.numeric)
    simp [unfit]

theorem coreNumbers?_eq_some_iff {text : List Char} {release : List Nat} :
    coreNumbers? text = some release ↔
      ∃ major minor patch, (∀ number ∈ [major, minor, patch], IsCoreNumber number) ∧
        joinWith ['.'] [major, minor, patch] = text ∧
        [major, minor, patch].map Numeral.value = release := by
  unfold coreNumbers?
  constructor
  · intro read
    split at read
    next major minor patch pieces =>
      obtain ⟨core, values⟩ := (mapM_eq_some_iff coreNumber?_eq_some_iff).mp read
      refine ⟨major, minor, patch, core, ?_, values⟩
      rw [← pieces, Text.joinWith_splitAt]
    next => contradiction
  · rintro ⟨major, minor, patch, core, rfl, values⟩
    have absent : ∀ number ∈ [major, minor, patch], '.' ∉ number :=
      fun number member => dot_not_mem (core number member).allowed
    rw [Text.splitAt_joinWith absent (List.cons_ne_nil _ _)]
    exact (mapM_eq_some_iff coreNumber?_eq_some_iff).mpr ⟨core, values⟩

theorem identifiers?_eq_some_iff {text : List Char} {identifiers : List Identifier} :
    identifiers? text = some identifiers ↔
      ∃ preRelease, preRelease ≠ [] ∧ (∀ identifier ∈ preRelease, IsPreRelease identifier) ∧
        joinWith ['.'] preRelease = text ∧ preRelease.map Identifier.ofText = identifiers := by
  have each (element : List Char) (result : Identifier) :
      Identifier.read? element = some result ↔
        IsPreRelease element ∧ Identifier.ofText element = result := by
    rw [Identifier.read?_eq_some_iff, eq_comm (a := result)]
  unfold identifiers?
  constructor
  · intro read
    obtain ⟨valid, images⟩ := (mapM_eq_some_iff each).mp read
    exact ⟨_, Text.splitAt_ne_nil '.' text, valid, Text.joinWith_splitAt '.' text, images⟩
  · rintro ⟨preRelease, nonempty, valid, rfl, images⟩
    have absent : ∀ identifier ∈ preRelease, '.' ∉ identifier :=
      fun identifier member => dot_not_mem (valid identifier member).isMetadata.allowed
    rw [Text.splitAt_joinWith absent nonempty]
    exact (mapM_eq_some_iff each).mpr ⟨valid, images⟩

theorem isBuildEnding_iff {rest : List Char} :
    isBuildEnding rest = true ↔
      ∃ metadata, (∀ identifier ∈ metadata, IsMetadata identifier) ∧
        marked '+' metadata = rest := by
  constructor
  · intro ending
    unfold isBuildEnding at ending
    split at ending
    next text =>
      refine ⟨Text.splitAt '.' text, fun identifier member => ?_, ?_⟩
      · exact Identifier.isBuild_iff.mp (List.all_eq_true.mp ending identifier member)
      · rw [marked_of_ne_nil (Text.splitAt_ne_nil '.' text), Text.joinWith_splitAt]
    next => exact ⟨[], nofun, (List.isEmpty_iff.mp ending).symm⟩
  · rintro ⟨metadata, valid, rfl⟩
    rcases metadata with _ | ⟨first, rest⟩
    · rfl
    · have absent : ∀ identifier ∈ first :: rest, '.' ∉ identifier :=
        fun identifier member => dot_not_mem (valid identifier member).allowed
      change isBuildMetadata (joinWith ['.'] (first :: rest)) = true
      rw [isBuildMetadata, Text.splitAt_joinWith absent (List.cons_ne_nil _ _), List.all_eq_true]
      exact fun identifier member => Identifier.isBuild_iff.mpr (valid identifier member)

theorem head?_of_isBuildEnding {rest : List Char} (ending : isBuildEnding rest = true) :
    ∀ c ∈ rest.head?, c = '+' := by
  obtain ⟨metadata, -, rfl⟩ := isBuildEnding_iff.mp ending
  exact head?_marked

/-- The core of a version ends at a hyphen or a plus sign. -/
def isCoreCharacter (c : Char) : Bool :=
  c ≠ '-' && c ≠ '+'

theorem ofSemantic?_of_release {front rest : List Char} {release : List Nat}
    (run : ∀ c ∈ front, isCoreCharacter c = true) (core : coreNumbers? front = some release)
    (ending : isBuildEnding rest = true) :
    ofSemantic? (front ++ rest) = some ⟨release, [], String.ofList (front ++ rest)⟩ := by
  have plus := head?_of_isBuildEnding ending
  have stop : ∀ c ∈ rest.head?, isCoreCharacter c = false := by
    intro c first
    rw [plus c first]
    rfl
  have front' : (front ++ rest).takeWhile (fun c => c ≠ '-' && c ≠ '+') = front :=
    Text.takeWhile_append_of_stop run stop
  have rest' : (front ++ rest).dropWhile (fun c => c ≠ '-' && c ≠ '+') = rest :=
    Text.dropWhile_append_of_stop run stop
  unfold ofSemantic?
  rw [front', rest', core]
  split
  next => exact absurd (plus '-' rfl) (by decide)
  next => simp [ending]

theorem ofSemantic?_of_preRelease {front middle rest : List Char} {release : List Nat}
    {identifiers : List Identifier} (run : ∀ c ∈ front, isCoreCharacter c = true)
    (core : coreNumbers? front = some release) (between : '+' ∉ middle)
    (preRelease : identifiers? middle = some identifiers) (ending : isBuildEnding rest = true) :
    ofSemantic? (front ++ '-' :: (middle ++ rest)) =
      some ⟨release, identifiers, String.ofList (front ++ '-' :: (middle ++ rest))⟩ := by
  have stop : ∀ c ∈ ('-' :: (middle ++ rest)).head?, isCoreCharacter c = false := by
    simp [isCoreCharacter]
  have unmarked : ∀ c ∈ middle, decide (c ≠ '+') = true :=
    fun c member => decide_eq_true fun plus => between (plus ▸ member)
  have plus : ∀ c ∈ rest.head?, decide (c ≠ '+') = false := by
    intro c first
    simp [head?_of_isBuildEnding ending c first]
  have front' : (front ++ '-' :: (middle ++ rest)).takeWhile (fun c => c ≠ '-' && c ≠ '+') =
      front :=
    Text.takeWhile_append_of_stop run stop
  have rest' : (front ++ '-' :: (middle ++ rest)).dropWhile (fun c => c ≠ '-' && c ≠ '+') =
      '-' :: (middle ++ rest) :=
    Text.dropWhile_append_of_stop run stop
  unfold ofSemantic?
  rw [front', rest', core]
  simp only [Text.takeWhile_append_of_stop unmarked plus,
    Text.dropWhile_append_of_stop unmarked plus, preRelease, ending]
  rfl

/-- A semantic version that is written is read. -/
theorem ofSemantic?_text (written : SemanticVersion) :
    ofSemantic? written.text = some (Spelling.semantic written).version := by
  have run : ∀ c ∈ joinWith ['.'] written.core, isCoreCharacter c = true := by
    intro c member
    rcases Text.mem_joinWith member with rfl | ⟨number, among, inside⟩
    · rfl
    · have digit := (written.isCore number among).numeric.digit c inside
      have apart (mark : Char) (strange : mark.isDigit = false) : decide (c ≠ mark) = true := by
        refine decide_eq_true ?_
        rintro rfl
        rw [strange] at digit
        contradiction
      rw [isCoreCharacter, apart '-' (by decide), apart '+' (by decide)]
      rfl
  have core : coreNumbers? (joinWith ['.'] written.core) = some written.release :=
    coreNumbers?_eq_some_iff.mpr ⟨_, _, _, written.isCore, rfl, rfl⟩
  have ending : isBuildEnding (marked '+' written.metadata) = true :=
    isBuildEnding_iff.mpr ⟨_, written.isMetadata, rfl⟩
  by_cases proper : written.preRelease = []
  · have whole : written.text = joinWith ['.'] written.core ++ marked '+' written.metadata := by
      rw [SemanticVersion.text, proper]
      rfl
    have none : written.identifiers = [] := by
      rw [SemanticVersion.identifiers, proper]
      rfl
    rw [whole, ofSemantic?_of_release run core ending, ← whole, ← none]
    rfl
  · have whole : written.text = joinWith ['.'] written.core ++
        '-' :: (joinWith ['.'] written.preRelease ++ marked '+' written.metadata) := by
      rw [SemanticVersion.text, marked_of_ne_nil proper, List.cons_append]
    have between : '+' ∉ joinWith ['.'] written.preRelease := by
      intro member
      rcases Text.mem_joinWith member with dot | ⟨identifier, among, inside⟩
      · exact absurd dot (by decide)
      · have allowed := (written.isPreRelease identifier among).isMetadata.allowed '+' inside
        exact absurd allowed (by decide)
    have preRelease : identifiers? (joinWith ['.'] written.preRelease) = some written.identifiers :=
      identifiers?_eq_some_iff.mpr ⟨_, proper, written.isPreRelease, rfl, rfl⟩
    rw [whole, ofSemantic?_of_preRelease run core between preRelease ending, ← whole]
    rfl

/-- What is read as a semantic version is written as one. -/
theorem exists_of_ofSemantic? {text : List Char} (read : ofSemantic? text = some version) :
    ∃ written : SemanticVersion, written.text = text := by
  simp only [ofSemantic?, Option.bind_eq_bind, Option.bind_eq_some_iff] at read
  obtain ⟨release, core, read⟩ := read
  obtain ⟨major, minor, patch, isCore, front, -⟩ := coreNumbers?_eq_some_iff.mp core
  rw [← List.takeWhile_append_dropWhile (p := fun c => c ≠ '-' && c ≠ '+') (l := text), ← front]
  split at read
  next rest behind =>
    obtain ⟨identifiers, preRelease, read⟩ := Option.bind_eq_some_iff.mp read
    obtain ⟨parts, nonempty, isPreRelease, middle, -⟩ := identifiers?_eq_some_iff.mp preRelease
    split at read
    next ending =>
      obtain ⟨metadata, isMetadata, tail⟩ := isBuildEnding_iff.mp ending
      refine ⟨⟨major, minor, patch, parts, metadata, isCore, isPreRelease, isMetadata⟩, ?_⟩
      rw [SemanticVersion.text, marked_of_ne_nil nonempty, middle, tail, behind, List.cons_append,
        List.takeWhile_append_dropWhile]
      rfl
    next => contradiction
  next =>
    split at read
    next ending =>
      obtain ⟨metadata, isMetadata, tail⟩ := isBuildEnding_iff.mp ending
      refine ⟨⟨major, minor, patch, [], metadata, isCore, nofun, isMetadata⟩, ?_⟩
      rw [SemanticVersion.text, tail]
      rfl
    next => contradiction

/-- Numerals are read, and then what follows them. -/
theorem mapM_readComponent (whole : List Char) (components : List Numeral)
    (rest : List (List Char)) :
    (components.map Numeral.text ++ rest).mapM (readComponent whole) =
      (rest.mapM (readComponent whole)).map
        (components.map (fun component => Numeral.value component.digits) ++ ·) := by
  induction components with
  | nil => cases h : rest.mapM (readComponent whole) <;> simp [h, Except.map]
  | cons component components ih =>
      have first : readComponent whole component.text = .ok (Numeral.value component.digits) := by
        rw [readComponent, Numeral.read_text]
        rfl
      rw [List.map_cons, List.cons_append, List.mapM_cons, first, ih]
      cases rest.mapM (readComponent whole) <;> rfl

/-- A dotted version that is written is read. -/
theorem ofDotted_text (written : DottedVersion) :
    ofDotted written.text = .ok (Spelling.dotted written).version := by
  have read := mapM_readComponent written.text written.components []
  rw [List.append_nil, List.mapM_nil] at read
  rw [ofDotted, written.splitAt_text, read]
  change Except.ok (Version.mk (written.release ++ []) [] (String.ofList written.text)) = _
  rw [List.append_nil]
  rfl

/-- The leftmost piece that is no numeral is reported with its first problem. -/
theorem ofDotted_of_refuses {text part : List Char} {components : List Numeral}
    {after : List (List Char)} {fault : Numeral.Fault}
    (pieces : Text.splitAt '.' text = components.map Numeral.text ++ part :: after)
    (refuses : Numeral.Refuses part fault) :
    ofDotted text = .error ⟨String.ofList text, .component (String.ofList part) fault⟩ := by
  have refused : readComponent text part =
      .error ⟨String.ofList text, .component (String.ofList part) fault⟩ := by
    rw [readComponent, Numeral.read_of_refuses refuses]
    rfl
  rw [ofDotted, pieces, mapM_readComponent, List.mapM_cons, refused]
  rfl

theorem exists_components_or_refuses (pieces : List (List Char)) :
    (∃ components : List Numeral, components.map Numeral.text = pieces) ∨
      ∃ (components : List Numeral) (part : List Char) (after : List (List Char))
        (fault : Numeral.Fault),
        pieces = components.map Numeral.text ++ part :: after ∧ Numeral.Refuses part fault := by
  induction pieces with
  | nil => exact .inl ⟨[], rfl⟩
  | cons piece pieces ih =>
      rcases Numeral.exists_text_or_refuses piece with ⟨component, rfl⟩ | ⟨fault, refuses⟩
      · rcases ih with ⟨components, rfl⟩ | ⟨components, part, after, fault, rfl, refuses⟩
        · exact .inl ⟨component :: components, rfl⟩
        · exact .inr ⟨component :: components, part, after, fault, rfl, refuses⟩
      · exact .inr ⟨[], piece, pieces, fault, rfl, refuses⟩

section

variable {written : SemanticVersion} {dotted : DottedVersion} (same : written.text = dotted.text)

include same

/-- Numerals hold no hyphen. -/
theorem preRelease_eq_nil_of_dotted : written.preRelease = [] := by
  by_contra nonempty
  have member : '-' ∈ dotted.text := by
    rw [← same]
    simp [SemanticVersion.text, marked_of_ne_nil nonempty]
  rcases Text.mem_joinWith member with dot | ⟨piece, among, inside⟩
  · exact absurd dot (by decide)
  · obtain ⟨numeral, -, rfl⟩ := List.mem_map.mp among
    exact absurd (numeral.mem_text inside) (by decide)

/-- Numerals hold no plus sign behind a digit. -/
theorem metadata_eq_nil_of_dotted (proper : written.preRelease = []) : written.metadata = [] := by
  cases metadata : written.metadata with
  | nil => rfl
  | cons first rest =>
      have isMetadata := written.isMetadata
      rw [metadata] at isMetadata
      have whole : dotted.text = joinWith ['.']
          (written.major :: written.minor :: (written.patch ++ '+' :: first) :: rest) := by
        rw [← same, SemanticVersion.text, proper, metadata]
        cases rest <;> simp [SemanticVersion.core, marked, joinWith]
      have absent : ∀ piece ∈ written.major :: written.minor :: (written.patch ++ '+' :: first) ::
          rest, '.' ∉ piece := by
        intro piece member
        simp only [List.mem_cons] at member
        rcases member with rfl | rfl | rfl | member
        · exact written.dot_not_mem_core _ (by simp [SemanticVersion.core])
        · exact written.dot_not_mem_core _ (by simp [SemanticVersion.core])
        · have patch := written.dot_not_mem_core written.patch (by simp [SemanticVersion.core])
          have first := dot_not_mem (isMetadata first List.mem_cons_self).allowed
          simpa [patch] using first
        · exact dot_not_mem (isMetadata piece (List.mem_cons_of_mem first member)).allowed
      -- the plus sign would stand in one of the numerals, behind the digits of the patch number
      have pieces := dotted.splitAt_text
      rw [whole, Text.splitAt_joinWith absent (List.cons_ne_nil _ _)] at pieces
      have among : written.patch ++ '+' :: first ∈ dotted.components.map Numeral.text := by
        simp [← pieces]
      obtain ⟨numeral, -, piece⟩ := List.mem_map.mp among
      have nonempty := (written.isCore written.patch (by simp)).numeric.ne_nil
      have behind := numeral.plus_not_mem_tail
      rw [piece, List.tail_append_of_ne_nil nonempty] at behind
      exact absurd (List.mem_append_right _ List.mem_cons_self) behind

theorem release_eq_of_dotted (proper : written.preRelease = []) (bare : written.metadata = []) :
    written.release = dotted.release := by
  have whole : dotted.text = joinWith ['.'] written.core := by
    rw [← same, SemanticVersion.text, proper, bare]
    exact List.append_nil _
  have pieces : written.core = dotted.components.map Numeral.text := by
    rw [← dotted.splitAt_text, whole,
      Text.splitAt_joinWith written.dot_not_mem_core (List.cons_ne_nil _ _)]
  rw [SemanticVersion.release, pieces, List.map_map]
  refine List.map_congr_left fun component member => Numeral.value_text fun c inside => ?_
  have among : component.text ∈ written.core := pieces ▸ List.mem_map_of_mem member
  exact (written.isCore component.text among).numeric.digit c inside

/-- A text that is written both ways has neither pre-release nor build metadata, and the same
numbers either way. -/
theorem version_semantic_eq_dotted :
    (Spelling.semantic written).version = (Spelling.dotted dotted).version := by
  have proper := preRelease_eq_nil_of_dotted same
  have release := release_eq_of_dotted same proper (metadata_eq_nil_of_dotted same proper)
  have identifiers : written.identifiers = [] := by
    rw [SemanticVersion.identifiers, proper]
    rfl
  change Version.mk written.release written.identifiers (String.ofList written.text) = _
  rw [release, identifiers, same]
  rfl

end

/-- What is written determines the version. -/
theorem Spelling.version_congr {first second : Spelling} (same : first.text = second.text) :
    first.version = second.version := by
  cases first with
  | semantic first =>
      cases second with
      | semantic second =>
          have read := ofSemantic?_text first
          rw [show first.text = second.text from same, ofSemantic?_text second] at read
          exact (Option.some.inj read).symm
      | dotted second => exact version_semantic_eq_dotted same
  | dotted first =>
      cases second with
      | semantic second => exact (version_semantic_eq_dotted same.symm).symm
      | dotted second =>
          have read := ofDotted_text first
          rw [show first.text = second.text from same, ofDotted_text second] at read
          exact (Except.ok.inj read).symm

theorem Spelling.text_ne_nil (spelling : Spelling) : spelling.text ≠ [] := by
  cases spelling with
  | semantic written =>
      simp [text, SemanticVersion.text, SemanticVersion.core, joinWith]
  | dotted written =>
      obtain ⟨_ | ⟨first, rest⟩, nonempty⟩ := written
      · exact absurd rfl nonempty
      · cases rest <;> simp [text, DottedVersion.text, joinWith, first.text_ne_nil]

theorem parse_of_blank {text : String} (blank : Text.trim text.toList = []) :
    parse text = .error ⟨text, .empty⟩ := by
  rw [parse, blank]

theorem parse_of_trim_ne_nil {text : String} (nonblank : Text.trim text.toList ≠ []) :
    parse text = match ofSemantic? (Text.trim text.toList) with
      | some version => .ok version
      | none => ofDotted (Text.trim text.toList) := by
  unfold parse
  split
  next blank => exact absurd blank nonblank
  next => rfl

/-- A version that is written is read. -/
theorem parse_of_spelling {text : String} {spelling : Spelling}
    (written : spelling.text = Text.trim text.toList) : parse text = .ok spelling.version := by
  rw [parse_of_trim_ne_nil (written ▸ spelling.text_ne_nil), ← written]
  -- numerals may be taken for a semantic version first, which is the same version
  cases read : ofSemantic? spelling.text with
  | some version =>
      obtain ⟨semantic, same⟩ := exists_of_ofSemantic? read
      have again := ofSemantic?_text semantic
      rw [same, read] at again
      rw [Option.some.inj again]
      exact congrArg Except.ok (Spelling.version_congr same)
  | none =>
      cases spelling with
      | semantic semantic =>
          have again := ofSemantic?_text semantic
          change ofSemantic? semantic.text = none at read
          rw [read] at again
          contradiction
      | dotted dotted => exact ofDotted_text dotted

theorem Spelling.version_of_parse {text : String} {spelling : Spelling}
    (valid : parse text = .ok version) (written : spelling.text = Text.trim text.toList) :
    spelling.version = version := by
  rw [parse_of_spelling written] at valid
  exact Except.ok.inj valid

/-- A text that is no version is refused for its leftmost piece that is no numeral. -/
theorem parse_of_unspelled {text : String} (nonblank : Text.trim text.toList ≠ [])
    (unspelled : ∀ spelling : Spelling, spelling.text ≠ Text.trim text.toList) :
    ∃ (components : List Numeral) (part : List Char) (after : List (List Char))
      (fault : Numeral.Fault),
      (Text.trim text.toList).splitOn '.' = components.map Numeral.text ++ part :: after ∧
        Numeral.Refuses part fault ∧
        parse text = .error ⟨String.ofList (Text.trim text.toList),
          .component (String.ofList part) fault⟩ := by
  rw [← Text.splitAt_eq_splitOn, parse_of_trim_ne_nil nonblank]
  generalize Text.trim text.toList = trimmed at *
  have dotted : ofSemantic? trimmed = none := by
    rw [Option.eq_none_iff_forall_ne_some]
    intro version read
    obtain ⟨semantic, same⟩ := exists_of_ofSemantic? read
    exact unspelled (.semantic semantic) same
  rw [dotted]
  rcases exists_components_or_refuses (Text.splitAt '.' trimmed) with
    ⟨components, pieces⟩ | ⟨components, part, after, fault, pieces, refuses⟩
  · have nonempty : components ≠ [] := by
      rintro rfl
      exact Text.splitAt_ne_nil '.' trimmed pieces.symm
    refine absurd ?_ (unspelled (.dotted ⟨components, nonempty⟩))
    change joinWith ['.'] (components.map Numeral.text) = trimmed
    rw [pieces, Text.joinWith_splitAt]
  · exact ⟨components, part, after, fault, pieces, refuses, ofDotted_of_refuses pieces refuses⟩

/-- The texts that are read are the versions that are written, blanks around them aside. -/
theorem parse_eq_ok_iff {text : String} :
    parse text = .ok version ↔
      ∃ spelling : Spelling,
        spelling.text = Text.trim text.toList ∧ spelling.version = version := by
  constructor
  · intro valid
    by_cases spelled : ∃ spelling : Spelling, spelling.text = Text.trim text.toList
    · obtain ⟨spelling, written⟩ := spelled
      rw [parse_of_spelling written, Except.ok.injEq] at valid
      exact ⟨spelling, written, valid⟩
    · by_cases blank : Text.trim text.toList = []
      · rw [parse_of_blank blank] at valid
        contradiction
      · obtain ⟨_, _, _, _, -, -, refused⟩ := parse_of_unspelled blank (not_exists.mp spelled)
        rw [refused] at valid
        contradiction
  · rintro ⟨spelling, written, rfl⟩
    exact parse_of_spelling written

/-- Reading accepts the versions that are written, blanks around them aside, and nothing else. It
tells the numbers and identifiers that are written, or reports a text of blanks as such, and any
other text for the first problem of its leftmost piece that is no numeral. -/
theorem parse_exact (text : String) :
    (∀ version, parse text = .ok version ↔ Text.trim text.toList ≠ [] ∧
      ∃ spelling : Spelling, spelling.text = Text.trim text.toList ∧
        spelling.version = version) ∧
    (Text.trim text.toList = [] → parse text = .error ⟨text, .empty⟩) ∧
    (Text.trim text.toList ≠ [] →
      (∀ spelling : Spelling, spelling.text ≠ Text.trim text.toList) →
      ∃ (components : List Numeral) (part : List Char) (after : List (List Char))
        (fault : Numeral.Fault),
        (Text.trim text.toList).splitOn '.' = components.map Numeral.text ++ part :: after ∧
        Numeral.Refuses part fault ∧
        parse text = .error ⟨String.ofList (Text.trim text.toList),
          .component (String.ofList part) fault⟩ ∧
        (VersionFault.component (String.ofList part) fault).message =
          "component '" ++ String.ofList part ++ "': " ++ fault.message) := by
  refine ⟨fun version => ?_, parse_of_blank, fun nonblank unspelled => ?_⟩
  · rw [parse_eq_ok_iff]
    constructor
    · rintro ⟨spelling, written, same⟩
      exact ⟨written ▸ spelling.text_ne_nil, spelling, written, same⟩
    · exact And.right
  · obtain ⟨components, part, after, fault, pieces, refuses, refused⟩ :=
      parse_of_unspelled nonblank unspelled
    exact ⟨components, part, after, fault, pieces, refuses, refused, rfl⟩

end Version

end ManifestPin
