import ManifestPin.Proofs.Files.Opening

/-! # Trees that serve two files

A parameter file that stays what it is and a manifest that is replaced over and over. Replacing the
manifest keeps the tree in this state, and so does a replacement that fails: whatever it leaves at
the temporary name, neither file is read through it.
-/

namespace ManifestPin.Tree

variable {tree after : Tree} {parameters manifest declaration content text tag : String}
  {failure : FileFailure} {slot : Slot}

/-- A tree in which two paths read two texts. What stands at the temporary names of those who
replace the second one, with one of some tags, does not matter to this, nor does the second file to
the first. -/
structure Serves (tree : Tree) (tags : String → Prop)
    (parameters manifest declaration content : String) : Prop where
  /-- The manifest is read without the temporary files, and the parameter file without these and
  the manifest. -/
  reads : ∃ slot, tree.slot? manifest = .ok (some slot) ∧
    (tree.without (slot.Temporary tags)).readText manifest = .ok content ∧
    (tree.without (slot.Touched tags)).readText parameters = .ok declaration
  /-- At a temporary name is nothing but a file without other names. -/
  spare : ∀ tag, tags tag → tree.Spare (temporary tag manifest)

namespace Serves

variable {tags : String → Prop} (serves : tree.Serves tags parameters manifest declaration content)

include serves

theorem readText_manifest : tree.readText manifest = .ok content := by
  obtain ⟨slot, -, read, -⟩ := serves.reads
  exact readText_of_within (within_without tree _) read

theorem readText_parameters : tree.readText parameters = .ok declaration := by
  obtain ⟨slot, -, -, read⟩ := serves.reads
  exact readText_of_within (within_without tree _) read

theorem makeParent : (tree.makeParent manifest).1 = tree := by
  obtain ⟨location, placed, -⟩ := place_of_readText serves.readText_manifest
  exact makeParent_of_place placed

theorem clear (listed : tags tag) : tree.Clear tag manifest :=
  clear_of_readText serves.readText_manifest (serves.spare tag listed).file

/-- The slot of the manifest is found without everything that a replacement touches. -/
theorem slot? : ∃ slot, tree.slot? manifest = .ok (some slot) ∧ slot.slash = false ∧
    (tree.without (slot.Touched tags)).slot? manifest = .ok (some slot) ∧
    (tree.without (slot.Temporary tags)).readText manifest = .ok content ∧
    (tree.without (slot.Touched tags)).readText parameters = .ok declaration := by
  obtain ⟨slot, found, read, declared⟩ := serves.reads
  obtain ⟨location, placed, noDirectory⟩ := place_of_readText serves.readText_manifest
  have unslashed := unslashed_of_place found placed noDirectory
  obtain ⟨inside, reached, plain⟩ := place_of_readText read
  obtain ⟨other, beside⟩ := exists_slot? found unslashed reached
  obtain rfl : slot = other := by
    simpa [found] using slot?_of_keepsWays (within_without tree _).keepsWays beside
  have within : ((tree.without (slot.Temporary tags)).erase slot.location).Within
      (tree.without (slot.Touched tags)) := by
    have below := slot.location_ne_nil
    refine ((within_erase _ below).trans (within_without tree _)).without ?_
    rintro location root (rfl | out)
    · exact get?_erase_self _ below
    · refine Option.eq_none_iff_forall_ne_some.mpr fun entry held => ?_
      exact ((get?_without_eq_some root).mp ((get?_erase_eq_some below).mp held).2).1 out
  exact ⟨slot, found, unslashed,
    slot?_of_keepsWays within.keepsWays (slot?_erase_of_place beside reached plain), read, declared⟩

variable (plain : ∀ tag, tags tag → '/' ∉ tag.toList)

include plain

/-- What shares its file with something at a temporary name is that name. -/
theorem not_shares (found : tree.slot? manifest = .ok (some slot)) (unslashed : slot.slash = false)
    (listed : tags tag) {source : Slot}
    (standing : tree.slot? (temporary tag manifest) = .ok (some source)) {location : Location}
    (apart : ¬slot.Temporary tags location) : tree.shares source.location location = false := by
  refine (serves.spare tag listed).not_shares standing ?_
  rintro rfl
  obtain ⟨sibling, -⟩ := temporary_apart (plain tag listed) unslashed found standing
  exact apart ⟨tag, listed, by rw [sibling]; rfl⟩

/-- A replaced manifest is served in place of the old one. -/
theorem replaceText (listed : tags tag)
    (written : (tree.replaceText tag manifest text).result = .ok ()) :
    (tree.replaceText tag manifest text).tree.Serves tags parameters manifest declaration
      text := by
  obtain ⟨slot, found, unslashed, way, -, declared⟩ := serves.slot?
  have clear := serves.clear listed
  unfold Tree.replaceText at written ⊢
  obtain ⟨source, target, standing, reached, -, short, noNul, replaces⟩ :=
    replace_eq_ok (serves.makeParent.symm ▸ clear.temporary) written
  rw [serves.makeParent] at standing reached replaces
  obtain rfl : slot = target := by simpa [found] using reached
  generalize (tree.replace tag manifest text.toUTF8).tree = after at replaces ⊢
  have stays := replaces.slot? (clear.way slot found)
  have within : (tree.without (slot.Touched tags)).Within (after.without (slot.Touched tags)) :=
    within_without_of_agree replaces.here fun location aside => by
      obtain ⟨elsewhere, aside⟩ := not_or.mp aside
      exact replaces.rest location
        (serves.not_shares plain found unslashed listed standing aside) elsewhere
  refine ⟨⟨slot, stays, ?_, readText_of_within within declared⟩, fun other included => ?_⟩
  · have onward := within_without_of_imp after
      (fun location (out : slot.Temporary tags location) => (.inr out : slot.Touched tags location))
    have there := slot?_of_keepsWays onward.keepsWays (slot?_of_keepsWays within.keepsWays way)
    obtain ⟨mode, held⟩ := replaces.held
    refine readText_of_slot? there unslashed short noNul
      ((get?_without_eq_some slot.location_ne_nil).mpr ⟨?_, held⟩)
    rintro ⟨tag, -, same⟩
    exact slot.location_ne_temporary tag same.symm
  · -- each temporary name has the slot that it had
    have simple := plain other included
    have sole (location : Location) (apart : source.location ≠ location) :
        tree.shares source.location location = false :=
      (serves.spare tag listed).not_shares standing apart
    have removed := replaces.removed
      (sole _ (temporary_apart (plain tag listed) unslashed found standing).2)
    refine replaces.spare sole removed (fun beside reached => ?_) (serves.spare other included)
    obtain ⟨rfl, apart⟩ := temporary_apart simple unslashed stays reached
    have checked := (slot?_eq_some_iff.mp reached).1
    exact ⟨slot?_temporary found unslashed simple checked, Ne.symm apart⟩

/-- A replacement that fails leaves the manifest served. -/
theorem of_error (listed : tags tag)
    (failed : (tree.replaceText tag manifest text).result = .error failure) :
    (tree.replaceText tag manifest text).tree.Serves tags parameters manifest declaration
      content := by
  obtain ⟨slot, found, unslashed, -, read, declared⟩ := serves.slot?
  unfold Tree.replaceText at failed ⊢
  have leaves := leaves_of_error (serves.makeParent.symm ▸ (serves.clear listed).temporary) failed
  rw [serves.makeParent] at leaves
  generalize tree.replace tag manifest text.toUTF8 = replacement at leaves ⊢
  have rest {location : Location} (aside : ¬slot.Temporary tags location) :
      replacement.tree.get? location = tree.get? location :=
    leaves.get?_of_not_shares fun source standing =>
      serves.not_shares plain found unslashed listed standing aside
  have slim := within_without_of_agree leaves.here fun location => rest
  have bare : (tree.without (slot.Touched tags)).Within
      (replacement.tree.without (slot.Touched tags)) :=
    within_without_of_agree leaves.here fun location apart => rest fun out => apart (.inr out)
  have stays := slot?_of_keepsWays leaves.keepsWays found
  exact ⟨⟨slot, stays, readText_of_within slim read, readText_of_within bare declared⟩,
    fun other included => leaves.spare (serves.spare other included)⟩

/-- A replacement either serves the new manifest or fails and serves the old one. -/
theorem replaceText_or_same (listed : tags tag) (text : String) :
    (tree.replaceText tag manifest text).result = .ok () ∧
        (tree.replaceText tag manifest text).tree.Serves tags parameters manifest declaration
          text ∨
      ∃ failure, (tree.replaceText tag manifest text).result = .error failure ∧
        (tree.replaceText tag manifest text).tree.Serves tags parameters manifest declaration
          content := by
  cases written : (tree.replaceText tag manifest text).result with
  | ok => exact .inl ⟨rfl, serves.replaceText plain listed written⟩
  | error failure => exact .inr ⟨failure, rfl, serves.of_error plain listed written⟩

end Serves

end ManifestPin.Tree
