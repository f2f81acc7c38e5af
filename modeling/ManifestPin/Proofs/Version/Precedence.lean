import Mathlib.Order.PiLex
import ManifestPin.Proofs.Version.Grammar
import ManifestPin.Proofs.Version.Ranking

/-! # Precedence

Versions rank by their release numbers, continued with zeros, from the first place on at which they
differ; then by their pre-releases, as SemVer 2.0.0 has it in section 11. Of two semantic versions
this is their precedence, in which build metadata does not count.
-/

namespace ManifestPin

namespace Identifier

/-- SemVer 2.0.0, 11.4.1 to 11.4.3: numbers by value and below everything else, which ranks by its
ASCII characters. -/
inductive Precedes : Identifier → Identifier → Prop where
  | numeric {a b : Nat} (below : a < b) : Precedes (.numeric a) (.numeric b)
  | mixed {a : Nat} {b : String} : Precedes (.numeric a) (.textual b)
  | textual {a b : String} (below : a < b) : Precedes (.textual a) (.textual b)

theorem compare_eq_lt_iff {a b : Identifier} : Ord.compare a b = .lt ↔ a.Precedes b := by
  change Identifier.compare a b = .lt ↔ _
  cases a with
  | numeric value =>
      cases b with
      | numeric other =>
          refine Nat.compare_eq_lt.trans ⟨.numeric, fun precedes => ?_⟩
          cases precedes with
          | numeric below => exact below
      | textual => exact ⟨fun _ => .mixed, fun _ => rfl⟩
  | textual text =>
      cases b with
      | numeric => exact ⟨nofun, nofun⟩
      | textual other =>
          refine compareOfLessAndEq_eq_lt.trans ⟨.textual, fun precedes => ?_⟩
          cases precedes with
          | textual below => exact below

instance : Std.LawfulEqOrd Identifier where
  eq_of_compare {a b} same := by
    change Identifier.compare a b = .eq at same
    cases a with
    | numeric value =>
        cases b with
        | numeric other => exact congrArg numeric (Std.LawfulEqOrd.eq_of_compare same)
        | textual => cases same
    | textual text =>
        cases b with
        | numeric => cases same
        | textual other => exact congrArg textual (Std.LawfulEqOrd.eq_of_compare same)

end Identifier

namespace Version

/-- SemVer 2.0.0, 11.3 and 11.4: a release proper ranks above its pre-releases, and of these the
first differing identifier decides, or else their number. -/
inductive PreReleasePrecedes : List Identifier → List Identifier → Prop where
  | release {pre : List Identifier} (some : pre ≠ []) : PreReleasePrecedes pre []
  | longer {pre more : List Identifier} (some : pre ≠ []) (further : more ≠ []) :
      PreReleasePrecedes pre (pre ++ more)
  | differs {common as bs : List Identifier} {a b : Identifier} (precedes : a.Precedes b) :
      PreReleasePrecedes (common ++ a :: as) (common ++ b :: bs)

theorem compare_identifiers_eq_lt_iff {first second : List Identifier} :
    Ord.compare first second = .lt ↔
      (∃ more, more ≠ [] ∧ second = first ++ more) ∨
        ∃ common a as b bs, first = common ++ a :: as ∧ second = common ++ b :: bs ∧
          Identifier.Precedes a b := by
  induction first generalizing second with
  | nil => cases second <;> simp
  | cons a as ih =>
      cases second with
      | nil => simp
      | cons b bs =>
          rw [List.compare_cons_cons, Ordering.then_eq_lt, ih, Identifier.compare_eq_lt_iff,
            Std.LawfulEqOrd.compare_eq_iff_eq]
          constructor
          · rintro (precedes | ⟨rfl, ⟨more, further, rfl⟩ |
              ⟨common, c, cs, d, ds, rfl, rfl, precedes⟩⟩)
            · exact .inr ⟨[], a, as, b, bs, rfl, rfl, precedes⟩
            · exact .inl ⟨more, further, rfl⟩
            · exact .inr ⟨a :: common, c, cs, d, ds, rfl, rfl, precedes⟩
          · rintro (⟨more, further, same⟩ | ⟨common, c, cs, d, ds, left, right, precedes⟩)
            · obtain ⟨rfl, rfl⟩ := List.cons.inj same
              exact .inr ⟨rfl, .inl ⟨more, further, rfl⟩⟩
            · cases common with
              | nil =>
                  obtain ⟨rfl, rfl⟩ := List.cons.inj left
                  obtain ⟨rfl, rfl⟩ := List.cons.inj right
                  exact .inl precedes
              | cons e common =>
                  obtain ⟨rfl, rfl⟩ := List.cons.inj left
                  obtain ⟨rfl, rfl⟩ := List.cons.inj right
                  exact .inr ⟨rfl, .inr ⟨common, c, cs, d, ds, rfl, rfl, precedes⟩⟩

theorem comparePreRelease_eq_lt_iff {first second : List Identifier} :
    comparePreRelease first second = .lt ↔ PreReleasePrecedes first second := by
  -- a release proper compares by its own rule, which is not that of the empty list of identifiers
  rcases first with _ | ⟨a, as⟩
  · refine ⟨fun below => ?_, fun precedes => ?_⟩
    · cases second <;> cases below
    · generalize none : ([] : List Identifier) = first at precedes
      cases precedes with
      | release some => exact absurd none.symm some
      | longer some => exact absurd none.symm some
      | differs => simp at none
  rcases second with _ | ⟨b, bs⟩
  · exact ⟨fun _ => .release (List.cons_ne_nil a as), fun _ => rfl⟩
  refine compare_identifiers_eq_lt_iff.trans ⟨?_, fun precedes => ?_⟩
  · rintro (⟨more, further, same⟩ | ⟨common, c, cs, d, ds, left, right, precedes⟩)
    · rw [same]
      exact .longer (List.cons_ne_nil a as) further
    · rw [left, right]
      exact .differs precedes
  · generalize left : a :: as = first, right : b :: bs = second at precedes
    cases precedes with
    | release => cases right
    | longer some further => exact .inl ⟨_, further, rfl⟩
    | differs precedes => exact .inr ⟨_, _, _, _, _, rfl, rfl, precedes⟩

theorem comparePreRelease_eq_eq_iff {first second : List Identifier} :
    comparePreRelease first second = .eq ↔ first = second := by
  cases first with
  | nil => cases second <;> simp [comparePreRelease]
  | cons a as =>
      cases second with
      | nil => simp [comparePreRelease]
      | cons b bs => exact Std.LawfulEqOrd.compare_eq_iff_eq

/-- A release sequence, continued with zeros. -/
def padded (release : List Nat) (place : Nat) : Nat :=
  release.getD place 0

/-- At the first place at which two sequences differ, the first one is smaller. -/
def Below (first second : Nat → Nat) : Prop :=
  Pi.Lex (· < ·) (· < ·) first second

theorem below_iff (first second : Nat → Nat) :
    Below first second ↔ first 0 < second 0 ∨
      first 0 = second 0 ∧
        Below (fun place => first (place + 1)) fun place => second (place + 1) := by
  constructor
  · rintro ⟨_ | place, same, below⟩
    · exact .inl below
    · exact .inr ⟨same 0 (Nat.succ_pos place), place,
        fun earlier before => same (earlier + 1) (Nat.succ_lt_succ before), below⟩
  · rintro (below | ⟨start, place, same, below⟩)
    · exact ⟨0, fun earlier before => absurd before (Nat.not_lt_zero earlier), below⟩
    · refine ⟨place + 1, fun earlier before => ?_, below⟩
      cases earlier with
      | zero => exact start
      | succ earlier => exact same earlier (Nat.lt_of_succ_lt_succ before)

theorem sequence_eq_iff (first second : Nat → Nat) :
    first = second ↔ first 0 = second 0 ∧
      (fun place => first (place + 1)) = fun place => second (place + 1) := by
  refine ⟨by rintro rfl; exact ⟨rfl, rfl⟩, fun ⟨start, rest⟩ => funext fun place => ?_⟩
  cases place with
  | zero => exact start
  | succ place => exact congrFun rest place

theorem padded_zero (release : List Nat) : padded release 0 = release.headD 0 := by
  cases release <;> rfl

theorem padded_succ (release : List Nat) :
    (fun place => padded release (place + 1)) = padded release.tail := by
  cases release <;> rfl

theorem compareRelease_eq_lt_iff {xs ys : List Nat} :
    compareRelease xs ys = .lt ↔ Below (padded xs) (padded ys) := by
  induction xs, ys using release_induction with
  | none =>
      refine ⟨nofun, ?_⟩
      rintro ⟨place, -, below⟩
      exact absurd below (Nat.lt_irrefl _)
  | step xs ys ih =>
      rw [compareRelease_eq_then, Ordering.then_eq_lt, ih, Nat.compare_eq_lt, Nat.compare_eq_eq,
        below_iff (padded xs), padded_zero, padded_zero, padded_succ, padded_succ]

theorem compareRelease_eq_eq_iff {xs ys : List Nat} :
    compareRelease xs ys = .eq ↔ padded xs = padded ys := by
  induction xs, ys using release_induction with
  | none => exact ⟨fun _ => rfl, fun _ => rfl⟩
  | step xs ys ih =>
      rw [compareRelease_eq_then, Ordering.then_eq_eq, ih, Nat.compare_eq_eq,
        sequence_eq_iff (padded xs), padded_zero, padded_zero, padded_succ, padded_succ]

/-- One version ranks below another by its release numbers, or else by its pre-release. -/
def Precedes (a b : Version) : Prop :=
  Below (padded a.release) (padded b.release) ∨
    padded a.release = padded b.release ∧ PreReleasePrecedes a.preRelease b.preRelease

theorem compare_eq_lt_iff {a b : Version} : a.compare b = .lt ↔ a.Precedes b := by
  rw [Version.compare, Ordering.then_eq_lt, compareRelease_eq_lt_iff, compareRelease_eq_eq_iff,
    comparePreRelease_eq_lt_iff, Precedes]

theorem compare_eq_gt_iff {a b : Version} : a.compare b = .gt ↔ b.Precedes a := by
  rw [← compare_eq_lt_iff]
  exact Std.OrientedCmp.gt_iff_lt

theorem compare_eq_eq_iff {a b : Version} :
    a.compare b = .eq ↔
      padded a.release = padded b.release ∧ a.preRelease = b.preRelease := by
  rw [Version.compare, Ordering.then_eq_eq, compareRelease_eq_eq_iff, comparePreRelease_eq_eq_iff]

end Version

namespace SemanticVersion

open Numeral (value)

/-- SemVer 2.0.0, section 11: the first difference decides. -/
inductive Precedes (a b : SemanticVersion) : Prop where
  | major (below : value a.major < value b.major)
  | minor (major : value a.major = value b.major) (below : value a.minor < value b.minor)
  | patch (major : value a.major = value b.major) (minor : value a.minor = value b.minor)
      (below : value a.patch < value b.patch)
  | preRelease (major : value a.major = value b.major) (minor : value a.minor = value b.minor)
      (patch : value a.patch = value b.patch)
      (precedes : Version.PreReleasePrecedes a.identifiers b.identifiers)

/-- The version that is written. -/
def version (written : SemanticVersion) : Version :=
  (Version.Spelling.semantic written).version

/-- Of two semantic versions the ranking is their precedence. -/
theorem version_precedes_iff {a b : SemanticVersion} :
    a.version.Precedes b.version ↔ a.Precedes b := by
  rw [Version.Precedes, ← Version.compareRelease_eq_lt_iff, ← Version.compareRelease_eq_eq_iff]
  have release : Version.compareRelease a.version.release b.version.release =
      (Ord.compare (value a.major) (value b.major)).then
        ((Ord.compare (value a.minor) (value b.minor)).then
          ((Ord.compare (value a.patch) (value b.patch)).then .eq)) := by
    rw [Version.compareRelease_eq_then, Version.compareRelease_eq_then,
      Version.compareRelease_eq_then]
    rfl
  rw [release]
  change _ ∨ _ ∧ Version.PreReleasePrecedes a.identifiers b.identifiers ↔ _
  simp only [Ordering.then_eq_lt, Ordering.then_eq_eq, Nat.compare_eq_lt, Nat.compare_eq_eq,
    reduceCtorEq, and_false, or_false, and_true]
  constructor
  · rintro ((major | ⟨major, minor | ⟨minor, patch⟩⟩) | ⟨⟨major, minor, patch⟩, precedes⟩)
    · exact .major major
    · exact .minor major minor
    · exact .patch major minor patch
    · exact .preRelease major minor patch precedes
  · intro precedes
    cases precedes with
    | major major => exact .inl (.inl major)
    | minor major minor => exact .inl (.inr ⟨major, .inl minor⟩)
    | patch major minor patch => exact .inl (.inr ⟨major, .inr ⟨minor, patch⟩⟩)
    | preRelease major minor patch precedes => exact .inr ⟨⟨major, minor, patch⟩, precedes⟩

end SemanticVersion

namespace Version

/-- Texts that denote versions are compared as they are written: by the places of their release
numbers, then by their pre-releases, and semantic versions by their precedence. -/
theorem compare_of_parse {text other : String} {a b : Version} (first : parse text = .ok a)
    (second : parse other = .ok b) :
    ((∃ written : Spelling, written.text = Text.trim text.toList ∧ written.version = a) ∧
      ∃ written : Spelling, written.text = Text.trim other.toList ∧ written.version = b) ∧
    ((a.compare b = .lt ↔ a.Precedes b) ∧ (a.compare b = .gt ↔ b.Precedes a) ∧
      (a.compare b = .eq ↔ padded a.release = padded b.release ∧ a.preRelease = b.preRelease)) ∧
    ∀ s t : SemanticVersion, s.text = Text.trim text.toList → t.text = Text.trim other.toList →
      (a.compare b = .lt ↔ s.Precedes t) ∧ (a.compare b = .gt ↔ t.Precedes s) ∧
      (a.compare b = .eq ↔ ¬s.Precedes t ∧ ¬t.Precedes s) ∧
      (s.core = t.core → s.preRelease = t.preRelease →
        a.compare b = .eq ∧
          ∀ c : Version, a.compare c = b.compare c ∧ c.compare a = c.compare b) := by
  refine ⟨⟨parse_eq_ok_iff.mp first, parse_eq_ok_iff.mp second⟩,
    ⟨compare_eq_lt_iff, compare_eq_gt_iff, compare_eq_eq_iff⟩, ?_⟩
  intro s t whole whole'
  obtain rfl : s.version = a := Spelling.version_of_parse first whole
  obtain rfl : t.version = b := Spelling.version_of_parse second whole'
  have below : s.version.compare t.version = .lt ↔ s.Precedes t :=
    compare_eq_lt_iff.trans SemanticVersion.version_precedes_iff
  have above : s.version.compare t.version = .gt ↔ t.Precedes s :=
    compare_eq_gt_iff.trans SemanticVersion.version_precedes_iff
  refine ⟨below, above, ?_, fun core preRelease => ?_⟩
  · rw [← below, ← above]
    cases s.version.compare t.version <;> simp
  · have release : s.version.release = t.version.release := congrArg (List.map Numeral.value) core
    have identifiers : s.version.preRelease = t.version.preRelease :=
      congrArg (List.map Identifier.ofText) preRelease
    have same : s.version.compare t.version = .eq :=
      compare_eq_eq_iff.mpr ⟨congrArg padded release, identifiers⟩
    exact ⟨same, fun c => ⟨Std.TransCmp.congr_left same, Std.TransCmp.congr_right same⟩⟩

/-- A pre-release with build metadata ranks below the release, which need not be a semantic
version. -/
theorem compare_of_parse_metadata :
    parse "1.0.0-rc.1+7" = .ok ⟨[1, 0, 0], [.textual "rc", .numeric 1], "1.0.0-rc.1+7"⟩ ∧
      parse " 1.0" = .ok ⟨[1, 0], [], "1.0"⟩ ∧
      Version.compare ⟨[1, 0, 0], [.textual "rc", .numeric 1], "1.0.0-rc.1+7"⟩
        ⟨[1, 0], [], "1.0"⟩ = .lt := by
  have first : parse "1.0.0-rc.1+7" =
      .ok ⟨[1, 0, 0], [.textual "rc", .numeric 1], "1.0.0-rc.1+7"⟩ := rfl
  have second : parse " 1.0" = .ok ⟨[1, 0], [], "1.0"⟩ := rfl
  refine ⟨first, second, (compare_of_parse first second).2.1.1.mpr (.inr ⟨?_, .release nofun⟩)⟩
  funext place
  rcases place with _ | _ | _ | place <;> rfl

end Version

end ManifestPin
