import ManifestPin.Version.Basic

/-! # The order of versions

Release numbers are trimmed and compared as far as the longer of them reaches, which comes to
comparing them place by place, continued with zeros. Every text that denotes a version agrees with
itself.
-/

namespace ManifestPin

instance : Std.ReflOrd Identifier where
  compare_self {identifier} := by
    change Identifier.compare identifier identifier = .eq
    cases identifier <;> exact Std.ReflOrd.compare_self

namespace Version

theorem lastPlace?_cons (number : Nat) (release : List Nat) :
    lastPlace? (number :: release) =
      ((lastPlace? release).map (· + 1)).or (if number = 0 then none else some 0) := by
  have later : List.find? (fun place => (number :: release).getD place 0 ≠ 0)
      ((List.range release.length).map (· + 1)).reverse = (lastPlace? release).map (· + 1) := by
    rw [← List.map_reverse, List.find?_map]
    rfl
  rw [lastPlace?, List.length_cons, List.range_succ_eq_map, List.reverse_cons, List.find?_append,
    later]
  by_cases zero : number = 0 <;> simp [zero]

/-- A zero is dropped when nothing but zeros follows it. -/
theorem significant_cons (number : Nat) (release : List Nat) :
    significant (number :: release) =
      if number = 0 ∧ significant release = [] then [] else number :: significant release := by
  unfold significant
  rw [lastPlace?_cons]
  cases last : lastPlace? release with
  | none => by_cases zero : number = 0 <;> simp [zero]
  | some place =>
      have some : release ≠ [] := by
        rintro rfl
        cases last
      simp [some]

theorem headD_significant (release : List Nat) : (significant release).headD 0 = release.headD 0 := by
  cases release with
  | nil => rfl
  | cons number release =>
      rw [significant_cons]
      split
      next dropped => exact dropped.1.symm
      next => rfl

theorem tail_significant (release : List Nat) :
    (significant release).tail = significant release.tail := by
  cases release with
  | nil => rfl
  | cons number release =>
      rw [significant_cons]
      split
      next dropped => exact dropped.2.symm
      next => rfl

/-- The first place decides; after a tie, the places that follow do. -/
theorem firstDifference_eq_then (xs ys : List Nat) :
    firstDifference xs ys =
      (Ord.compare (xs.headD 0) (ys.headD 0)).then (firstDifference xs.tail ys.tail) := by
  have tails : max xs.tail.length ys.tail.length = max xs.length ys.length - 1 := by
    simp only [List.length_tail]
    omega
  have later (zs : List Nat) (place : Nat) : zs.tail.getD place 0 = zs.getD (place + 1) 0 := by
    cases zs <;> rfl
  have start (zs : List Nat) : zs.headD 0 = zs.getD 0 0 := by
    cases zs <;> rfl
  simp only [firstDifference, tails, later, start]
  cases width : max xs.length ys.length with
  | zero =>
      obtain ⟨none, empty⟩ : xs.length = 0 ∧ ys.length = 0 := by omega
      rw [List.length_eq_zero_iff.mp none, List.length_eq_zero_iff.mp empty]
      rfl
  | succ width =>
      simp only [List.range_succ_eq_map, List.map_cons, List.map_map, Function.comp_def,
        Nat.succ_eq_add_one, Nat.add_sub_cancel]
      cases Ord.compare (xs.getD 0 0) (ys.getD 0 0) <;> simp

/-- Release numbers rank from the most significant one on, continued with zeros: trimming them and
looking no further than the longer one makes no difference. -/
theorem compareRelease_eq_then (xs ys : List Nat) :
    compareRelease xs ys =
      (Ord.compare (xs.headD 0) (ys.headD 0)).then (compareRelease xs.tail ys.tail) := by
  rw [compareRelease, firstDifference_eq_then, headD_significant, headD_significant,
    tail_significant, tail_significant, compareRelease]

/-- What holds of no release numbers, and of two sequences when it does from their second place on,
holds of all. -/
theorem release_induction {motive : List Nat → List Nat → Prop} (none : motive [] [])
    (step : ∀ xs ys, motive xs.tail ys.tail → motive xs ys) (xs ys : List Nat) : motive xs ys := by
  induction width : max xs.length ys.length generalizing xs ys with
  | zero =>
      obtain ⟨left, right⟩ : xs.length = 0 ∧ ys.length = 0 := by omega
      rw [List.length_eq_zero_iff.mp left, List.length_eq_zero_iff.mp right]
      exact none
  | succ width ih =>
      refine step xs ys (ih xs.tail ys.tail ?_)
      simp only [List.length_tail]
      omega

theorem compareRelease_self (release : List Nat) : compareRelease release release = .eq := by
  induction release with
  | nil => rfl
  | cons number release ih =>
      rw [compareRelease_eq_then, Std.ReflOrd.compare_self]
      exact ih

theorem comparePreRelease_self (identifiers : List Identifier) :
    comparePreRelease identifiers identifiers = .eq := by
  cases identifiers with
  | nil => rfl
  | cons identifier identifiers => exact Std.ReflOrd.compare_self

theorem compare_self (version : Version) : version.compare version = .eq := by
  rw [Version.compare, compareRelease_self, comparePreRelease_self]
  rfl

/-- Versions that can be compared denote versions. -/
theorem parse_of_agreement {a b : String} {found : Agreement} (compared : agreement a b = .ok found) :
    ∃ left right, parse a = .ok left ∧ parse b = .ok right := by
  unfold agreement at compared
  cases first : parse a with
  | error invalid =>
      rw [first] at compared
      contradiction
  | ok left =>
      cases second : parse b with
      | error invalid =>
          rw [first, second] at compared
          contradiction
      | ok right => exact ⟨left, right, rfl, rfl⟩

/-- Texts that denote versions are compared as these versions. -/
theorem agreement_of_parse {a b : String} {left right : Version} (first : parse a = .ok left)
    (second : parse b = .ok right) :
    agreement a b = .ok (if left == right then .equal else .different) := by
  rw [agreement, first, second]
  rfl

/-- A text that denotes a version agrees with itself. -/
theorem agreement_self {text : String} {version : Version} (valid : parse text = .ok version) :
    agreement text text = .ok .equal := by
  have same : (version == version) = true := by
    change (version.compare version == .eq) = true
    rw [compare_self]
    rfl
  rw [agreement_of_parse valid valid, if_pos same]

end Version

end ManifestPin
