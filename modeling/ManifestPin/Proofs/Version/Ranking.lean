import ManifestPin.Proofs.Version.Order

/-! # The ranking of versions

Versions rank by their significant release numbers, then by whether they are a release proper, then
by the identifiers of their pre-release. Each of the three is a lawful order, and so is the ranking
that takes them one after the other. Equal versions have the same place in it, however written.
-/

namespace ManifestPin

instance : Std.OrientedOrd Identifier where
  eq_swap {a b} := by
    change Identifier.compare a b = (Identifier.compare b a).swap
    cases a with
    | numeric value =>
        cases b with
        | numeric other => exact Std.OrientedOrd.eq_swap
        | textual => rfl
    | textual text =>
        cases b with
        | numeric => rfl
        | textual other => exact Std.OrientedOrd.eq_swap

instance : Std.TransOrd Identifier where
  isLE_trans {a b c} first second := by
    change (Identifier.compare a b).isLE = true at first
    change (Identifier.compare b c).isLE = true at second
    change (Identifier.compare a c).isLE = true
    -- a textual identifier is followed by textual ones only
    cases a with
    | numeric value =>
        cases c with
        | textual => rfl
        | numeric last =>
            cases b with
            | numeric middle => exact Std.TransOrd.isLE_trans first second
            | textual => cases second
    | textual text =>
        cases b with
        | numeric => cases first
        | textual middle =>
            cases c with
            | numeric => cases second
            | textual last => exact Std.TransOrd.isLE_trans first second

namespace Version

/-- The first release numbers decide, dropped or not. -/
theorem compare_significant_cons (x y : Nat) (xs ys : List Nat) :
    Ord.compare (significant (x :: xs)) (significant (y :: ys)) =
      (Ord.compare x y).then (Ord.compare (significant xs) (significant ys)) := by
  rw [significant_cons, significant_cons]
  by_cases none : x = 0 ∧ significant xs = []
  · obtain ⟨rfl, none⟩ := none
    by_cases empty : y = 0 ∧ significant ys = []
    · obtain ⟨rfl, empty⟩ := empty
      simp [none, empty]
    · rw [if_pos ⟨rfl, none⟩, if_neg empty, none, List.compare_nil_cons]
      cases y with
      | succ => rfl
      | zero =>
          cases rest : significant ys with
          | nil => exact absurd ⟨rfl, rest⟩ empty
          | cons => rfl
  · rw [if_neg none]
    by_cases empty : y = 0 ∧ significant ys = []
    · obtain ⟨rfl, empty⟩ := empty
      rw [if_pos ⟨rfl, empty⟩, empty, List.compare_cons_nil]
      cases x with
      | succ => rfl
      | zero =>
          cases rest : significant xs with
          | nil => exact absurd ⟨rfl, rest⟩ none
          | cons => rfl
    · rw [if_neg empty, List.compare_cons_cons]

/-- No release numbers are as good as a single zero. -/
theorem significant_headD_tail (release : List Nat) :
    significant (release.headD 0 :: release.tail) = significant release := by
  cases release <;> rfl

/-- Release numbers rank by those that are significant. -/
theorem compareRelease_eq (xs ys : List Nat) :
    compareRelease xs ys = Ord.compare (significant xs) (significant ys) := by
  induction xs, ys using release_induction with
  | none => rfl
  | step xs ys ih =>
      rw [compareRelease_eq_then, ih, ← compare_significant_cons, significant_headD_tail,
        significant_headD_tail]

/-- Pre-releases rank by whether there is one, then by their identifiers. -/
theorem comparePreRelease_eq (first second : List Identifier) :
    comparePreRelease first second =
      (Ord.compare first.isEmpty second.isEmpty).then (Ord.compare first second) := by
  cases first with
  | nil => cases second <;> rfl
  | cons => cases second <;> rfl

/-- Versions rank by their significant release numbers, then by their pre-release. -/
theorem compare_eq_compareLex :
    Version.compare =
      compareLex (compareOn fun version => significant version.release)
        (compareLex (compareOn fun version => version.preRelease.isEmpty)
          (compareOn Version.preRelease)) := by
  funext a b
  rw [Version.compare, compareRelease_eq, comparePreRelease_eq]
  rfl

instance : Std.TransCmp Version.compare :=
  compare_eq_compareLex ▸ inferInstance

theorem beq_iff_compare {a b : Version} : (a == b) = true ↔ a.compare b = .eq := by
  change (a.compare b == .eq) = true ↔ _
  exact beq_iff_eq

theorem lt_iff_compare {a b : Version} : a < b ↔ a.compare b = .lt := by
  change some (a.compare b) = some .lt ↔ _
  exact Option.some_inj

/-- Texts that denote versions agree when these are equal. -/
theorem agreement_eq_equal_iff {a b : String} {left right : Version}
    (first : parse a = .ok left) (second : parse b = .ok right) :
    agreement a b = .ok .equal ↔ left.compare right = .eq := by
  rw [agreement_of_parse first second, ← beq_iff_compare]
  split <;> simp_all

/-- The first text that denotes no version is reported. -/
theorem agreement_eq_error_iff {a b : String} {invalid : InvalidVersion} :
    agreement a b = .error invalid ↔
      parse a = .error invalid ∨ (∃ version, parse a = .ok version) ∧ parse b = .error invalid := by
  cases first : parse a with
  | error refused => simp [agreement, first, bind, Except.bind]
  | ok left =>
      cases second : parse b with
      | error refused => simp [agreement, first, second, bind, Except.bind]
      | ok right => simp [agreement_of_parse first second]

/-- Versions are totally preordered. Equality, the strict order and the partial comparison tell
what the order tells, and texts agree when they denote equal versions, which makes agreement an
equivalence of the texts that denote versions. -/
theorem ranking_laws :
    ((∀ a : Version, a.compare a = .eq) ∧
      (∀ a b : Version, b.compare a = (a.compare b).swap) ∧
      (∀ a b c : Version, (a.compare b).isLE → (b.compare c).isLE → (a.compare c).isLE) ∧
      ∀ a b c : Version, a.compare b = .eq →
        a.compare c = b.compare c ∧ c.compare a = c.compare b) ∧
    ((∀ a b : Version, (a == b) = true ↔ a.compare b = .eq) ∧
      (∀ a b : Version, a < b ↔ a.compare b = .lt) ∧
      ∀ a b : Version, a.partialCompare b = some (a.compare b)) ∧
    (∀ (text other : String) (a b : Version), parse text = .ok a → parse other = .ok b →
      agreement text other = .ok (if a.compare b = .eq then .equal else .different)) ∧
    Equivalence (fun text other : { text : String // ∃ version, parse text = .ok version } =>
      agreement text other = .ok .equal) ∧
    ∀ (text other : String) (invalid : InvalidVersion), agreement text other = .error invalid ↔
      parse text = .error invalid ∨
        (∃ version, parse text = .ok version) ∧ parse other = .error invalid := by
  refine ⟨⟨compare_self, fun a b => Std.OrientedCmp.eq_swap, fun a b c => Std.TransCmp.isLE_trans,
    fun a b c same => ⟨Std.TransCmp.congr_left same, Std.TransCmp.congr_right same⟩⟩,
    ⟨fun a b => beq_iff_compare, fun a b => lt_iff_compare, fun a b => rfl⟩, ?_, ?_,
    fun text other invalid => agreement_eq_error_iff⟩
  · intro text other a b first second
    have same := beq_iff_compare (a := a) (b := b)
    rw [agreement_of_parse first second]
    by_cases equal : a.compare b = .eq
    · rw [if_pos (same.mpr equal), if_pos equal]
    · rw [if_neg (mt same.mp equal), if_neg equal]
  · constructor
    · rintro ⟨text, a, first⟩
      exact agreement_self first
    · rintro ⟨text, a, first⟩ ⟨other, b, second⟩ agreed
      rw [agreement_eq_equal_iff first second] at agreed
      rw [agreement_eq_equal_iff second first]
      exact Std.OrientedCmp.eq_comm.mp agreed
    · rintro ⟨text, a, first⟩ ⟨other, b, second⟩ ⟨last, c, third⟩ agreed onward
      rw [agreement_eq_equal_iff first second] at agreed
      rw [agreement_eq_equal_iff second third] at onward
      rw [agreement_eq_equal_iff first third]
      exact (Std.TransCmp.congr_left agreed).trans onward

end Version

end ManifestPin
