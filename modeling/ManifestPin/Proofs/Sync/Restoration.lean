import ManifestPin.Proofs.Files.Renewal
import ManifestPin.Proofs.Sync.Rollback

/-! # Manifests behind links

A run renews its manifest like any file that is there, and so does its rollback. What the tool left
alone is as it was after a rollback, but for the entry that the manifest's path ends with: it is a
file, also where it was a link.
-/

namespace ManifestPin

namespace Sync

variable {sync : Sync} {tree : Tree} {inspection : Inspection} {tag path : String}
  {old : ByteArray} {mode : Nat} {location other : Location} {slot : Slot}

/-- The tree in which a run builds differs from the one that it found in the manifest only, whose
path still ends with the same name. -/
structure Provides (sync : Sync) (tree built : Tree) (mode : Nat) : Prop where
  here : built.here = tree.here
  refusals : built.refusals = tree.refusals
  renewable : built.Renewable sync.tag sync.manifest mode
  slot? : ∀ slot, tree.slot? sync.manifest = .ok (some slot) →
    built.slot? sync.manifest = .ok (some slot) ∧
      ∀ other, other ≠ slot.location → other ≠ slot.temporary sync.tag →
        built.get? other = tree.get? other

theorem Builds.provides (builds : sync.Builds tree inspection) (plain : '/' ∉ sync.tag.toList)
    (renewable : tree.Renewable sync.tag sync.manifest mode) :
    sync.Provides tree (sync.built inspection tree) mode := by
  cases agreement : inspection.agreement with
  | equal =>
      rw [built_of_equal agreement]
      exact ⟨rfl, rfl, renewable, fun slot found => ⟨found, fun _ _ _ => rfl⟩⟩
  | different =>
      rw [built_of_different agreement]
      obtain ⟨onto, renews⟩ := renewable.renews plain (builds.saved agreement)
      refine ⟨renews.here, renews.refusals, renews.renewable plain, fun slot found => ?_⟩
      obtain rfl : slot = onto := by simpa [found] using renews.found
      exact ⟨renews.stays, renews.rest⟩

namespace RollsBack

variable (rollsBack : sync.RollsBack tree inspection) (plain : '/' ∉ sync.tag.toList)

include rollsBack

/-- The content that is written back is the one that the manifest had. -/
theorem replaced (found : tree.entry sync.manifest = .ok (.file old mode)) :
    (sync.run tree).tree =
        ((sync.build inspection tree).tree.replace sync.tag sync.manifest old).tree ∧
      ((sync.build inspection tree).tree.replace sync.tag sync.manifest old).result = .ok () := by
  obtain ⟨failure, fails⟩ := rollsBack.fails
  have read := (Inspection.sound_of_inspect rollsBack.builds.inspected).2.2
  have octets := (Tree.readText_eq_ok_iff.mp read).2
  rw [Tree.readOctets, found] at octets
  obtain rfl : old = inspection.manifest.content.toUTF8 := Except.ok.inj octets
  exact ⟨(rollsBack.builds.stands_of_fails fails).tree, rollsBack.restored⟩

include plain

/-- A rollback renews the manifest in what the tool left. If the path of the manifest still ends
with the same name, everything that the tool left alone is as it was. -/
theorem renews (found : tree.entry sync.manifest = .ok (.file old mode))
    (renewable : tree.Renewable sync.tag sync.manifest mode)
    (left : (sync.build inspection tree).tree.Renewable sync.tag sync.manifest mode)
    (same : ∀ slot, tree.slot? sync.manifest = .ok (some slot) →
      (sync.build inspection tree).tree.slot? sync.manifest = .ok (some slot)) :
    ∃ slot, tree.slot? sync.manifest = .ok (some slot) ∧
      (sync.build inspection tree).tree.Renews (sync.run tree).tree sync.tag sync.manifest old mode
        slot ∧
      ∀ other, other ≠ slot.location → other ≠ slot.temporary sync.tag →
        (sync.build inspection tree).tree.get? other = (sync.built inspection tree).get? other →
        (sync.run tree).tree.get? other = tree.get? other := by
  obtain ⟨ended, written⟩ := rollsBack.replaced found
  obtain ⟨slot, renews⟩ := left.renews plain written
  rw [← ended] at renews
  obtain ⟨location, placed, -⟩ := Tree.entry_eq_ok_iff.mp found
  obtain ⟨onto, reached⟩ := Tree.exists_slot? renews.found renews.unslashed placed
  obtain rfl : slot = onto := by simpa [renews.found] using same onto reached
  obtain ⟨-, provided⟩ := (rollsBack.builds.provides plain renewable).slot? slot reached
  refine ⟨slot, reached, renews, fun other elsewhere aside kept => ?_⟩
  rw [renews.rest other elsewhere aside, kept, provided other elsewhere aside]

/-- Where the tool leaves everything alone, everything is as it was after a rollback exactly if the
manifest's path ends with its own name and nothing was at the temporary name. -/
theorem same_iff (placed : tree.place sync.manifest = .ok (.found location))
    (held : tree.get? location = some (.file old mode))
    (renewable : tree.Renewable sync.tag sync.manifest mode)
    (quiet : (sync.built inspection tree).Intact (sync.build inspection tree).tree) :
    ∃ slot, tree.slot? sync.manifest = .ok (some slot) ∧
      (tree.Same (sync.run tree).tree ↔
        slot.location = location ∧ tree.get? (slot.temporary sync.tag) = none) := by
  have found := Tree.entry_eq_ok_iff.mpr ⟨location, placed, held⟩
  have provides := rollsBack.builds.provides plain renewable
  obtain ⟨slot, reached, renews, rest⟩ := rollsBack.renews plain found renewable
    (provides.renewable.of_intact quiet) fun slot found =>
      Tree.slot?_of_keepsWays quiet.within.keepsWays (provides.slot? slot found).1
  refine ⟨slot, reached, fun same => ⟨?_, (same.get? _).symm.trans renews.clear⟩, ?_⟩
  · -- a link at the end of the path would have been replaced by the file
    rcases Tree.eq_or_link_of_place reached placed held with ends | ⟨target, link⟩
    · exact ends
    · rw [← same.get?, renews.held] at link
      cases link
  · rintro ⟨rfl, absent⟩
    refine ⟨renews.here.trans (quiet.here.trans provides.here),
      renews.refusals.trans (quiet.refusals.trans provides.refusals), fun other => ?_⟩
    by_cases manifest : other = slot.location
    · rw [manifest, renews.held, held]
    by_cases temporary : other = slot.temporary sync.tag
    · rw [temporary, renews.clear, absent]
    · exact rest other manifest temporary (quiet.get? other)

end RollsBack

/-- Replacing a file that is there puts a file with its permission bits under the name that the path
ends with, and changes nothing else; the file itself is written only if this is its own name, and
else stays as it was while the link is replaced. A rollback does the same: what the tool left alone
is as it was, but for a link that the manifest's path ends with. -/
theorem renews_in_place {tree : Tree} {tag path : String} {old : ByteArray} {mode : Nat}
    {location : Location} (plain : '/' ∉ tag.toList)
    (placed : tree.place path = .ok (.found location))
    (held : tree.get? location = some (.file old mode)) :
    (∀ content, (tree.replace tag path content).result = .ok () →
      ∃ slot, tree.slot? path = .ok (some slot) ∧
        (slot.location = location ∨ ∃ target, tree.get? slot.location = some (.link target)) ∧
        (∀ other entry, tree.get? other = some entry → other ≠ slot.location →
          other ≠ slot.temporary tag →
          (∀ reached, tree.place (Tree.temporary tag path) = .ok (.found reached) →
            tree.shares reached other = false) →
          (tree.replace tag path content).tree.get? other = some entry) ∧
        (tree.Spare (Tree.temporary tag path) →
          tree.Renews (tree.replace tag path content).tree tag path content mode slot ∧
          (tree.KeepsKinds (tree.replace tag path content).tree (slot.temporary tag) ↔
            slot.location = location))) ∧
    (tree.Spare (Tree.temporary tag path) →
      ∀ (sync : Sync) (inspection : Inspection), sync.tag = tag → sync.manifest = path →
        sync.RollsBack tree inspection →
        ((sync.build inspection tree).tree.Renewable tag path mode →
          (∀ slot, tree.slot? path = .ok (some slot) →
            (sync.build inspection tree).tree.slot? path = .ok (some slot)) →
          ∃ slot, tree.slot? path = .ok (some slot) ∧
            (sync.build inspection tree).tree.Renews (sync.run tree).tree tag path old mode slot ∧
            ∀ other, other ≠ slot.location → other ≠ slot.temporary tag →
              (sync.build inspection tree).tree.get? other =
                (sync.built inspection tree).get? other →
              (sync.run tree).tree.get? other = tree.get? other) ∧
        ((sync.built inspection tree).Intact (sync.build inspection tree).tree →
          ∃ slot, tree.slot? path = .ok (some slot) ∧
            (tree.Same (sync.run tree).tree ↔
              slot.location = location ∧ tree.get? (slot.temporary tag) = none))) := by
  have found : tree.entry path = .ok (.file old mode) :=
    Tree.entry_eq_ok_iff.mpr ⟨location, placed, held⟩
  refine ⟨fun content written => ?_, fun spare sync inspection tagged named rollsBack => ?_⟩
  · obtain ⟨slot, reached, rest⟩ := Tree.get?_of_replace plain found written
    refine ⟨slot, reached, Tree.eq_or_link_of_place reached placed held, rest, fun spare => ?_⟩
    have renewable : tree.Renewable tag path mode := ⟨⟨old, found⟩, spare⟩
    obtain ⟨onto, renews⟩ := renewable.renews plain written
    obtain rfl : slot = onto := by simpa [reached] using renews.found
    exact ⟨renews, renews.keepsKinds_iff placed held⟩
  · subst tagged named
    have renewable : tree.Renewable sync.tag sync.manifest mode := ⟨⟨old, found⟩, spare⟩
    exact ⟨rollsBack.renews plain found renewable, fun quiet =>
      rollsBack.same_iff plain placed held renewable quiet⟩

end Sync

namespace Sample

/-- The parameter file, and a manifest behind a link. -/
def behind : Tree where
  entries :=
    [(["p"], .file "V = 2\n".toUTF8 fileMode),
      (["f"], .file "version = \"1\"\nsha256 = \"abc\"\n".toUTF8 0o600),
      (["m"], .link "f")]
  here := []

/-- A run on these files whose tool reports nothing and leaves them alone. -/
def through : Sync :=
  { sync id "error\n" with manifest := "m" }

/-- What this run finds. -/
def traced : Inspection :=
  { inspection with manifest := { inspection.manifest with path := "m" } }

/-- A file, and a link to another file at the name of its temporary file. -/
def trapped : Tree where
  entries :=
    [(["m"], .file "old".toUTF8 0o600), (["g"], .file "other".toUTF8 fileMode),
      ([".m.7.tmp"], .link "g")]
  here := []

/-- A file, and another file that has the name of its temporary file as well. -/
def coupled : Tree where
  entries :=
    [(["m"], .file "old".toUTF8 0o600), (["g"], .file "other".toUTF8 fileMode),
      ([".m.7.tmp"], .file "other".toUTF8 fileMode)]
  here := []
  nodes := [(["g"], 1), ([".m.7.tmp"], 1)]

theorem rollsBack_through : through.RollsBack behind traced where
  builds :=
    { inspected := Sync.inspect_eq_ok_iff.mpr
        ⟨⟨"2", eq_ok_of_toOption (by decide +kernel)⟩, eq_ok_of_toOption (by decide +kernel),
          compared⟩
      outdated := by decide
      saved := fun _ => eq_ok_of_toOption (by decide +kernel) }
  fails := ⟨_, .unreported { success := false, diagnostics := "error\n" } rfl (by decide +kernel)⟩
  restored := eq_ok_of_toOption (by decide +kernel)

/-- The tool of this run leaves everything alone. -/
theorem quiet_through : (through.built traced behind).Intact (through.build traced behind).tree := by
  rw [Sync.build]
  generalize through.built traced behind = built
  exact ⟨.refl built, fun _ _ => rfl⟩

theorem spare_behind : behind.Spare (Tree.temporary "7" "m") :=
  Tree.spare_of_absent (Option.isNone_iff_eq_none.mp (by decide +kernel))

theorem slot_behind : behind.slot? "m" = .ok (some ⟨[], "m", false⟩) :=
  eq_ok_of_toOption (by decide +kernel)

theorem place_behind : behind.place "m" = .ok (.found ["f"]) :=
  eq_ok_of_toOption (by decide +kernel)

end Sample

/-- Both a replacement and a rollback put a file in place of the link and leave the file behind it
as it is. -/
theorem Sync.renews_in_place_behind :
    ((Sample.behind.replaceText "7" "m" "new").tree.get? ["m"] =
        some (.file "new".toUTF8 0o600) ∧
      (Sample.behind.replaceText "7" "m" "new").tree.get? ["f"] = Sample.behind.get? ["f"]) ∧
    (Sample.through.run Sample.behind).tree.get? ["m"] = Sample.behind.get? ["f"] ∧
      (Sample.through.run Sample.behind).tree.get? ["f"] = Sample.behind.get? ["f"] := by
  have spare := Sample.spare_behind
  obtain ⟨writes, restores⟩ := @renews_in_place Sample.behind "7" "m"
    "version = \"1\"\nsha256 = \"abc\"\n".toUTF8 0o600 ["f"] (by decide) Sample.place_behind rfl
  obtain ⟨slot, found, -, -, renewed⟩ :=
    writes "new".toUTF8 (eq_ok_of_toOption (by decide +kernel))
  obtain rfl : ⟨[], "m", false⟩ = slot := by simpa [Sample.slot_behind] using found
  obtain ⟨renews, -⟩ := renewed spare
  refine ⟨⟨renews.held, renews.rest ["f"] (by decide) (by decide)⟩, ?_⟩
  have provides := Sample.rollsBack_through.builds.provides (by decide)
    ⟨⟨_, Tree.entry_eq_ok_iff.mpr ⟨_, Sample.place_behind, rfl⟩⟩, spare⟩
  obtain ⟨back, -⟩ := restores spare Sample.through Sample.traced rfl rfl Sample.rollsBack_through
  obtain ⟨onto, reached, restored, rest⟩ := back (provides.renewable.of_intact Sample.quiet_through)
    fun slot found => Tree.slot?_of_keepsWays Sample.quiet_through.within.keepsWays
      (provides.slot? slot found).1
  obtain rfl : ⟨[], "m", false⟩ = onto := by simpa [Sample.slot_behind] using reached
  exact ⟨restored.held, rest ["f"] (by decide) (by decide) (Sample.quiet_through.get? _)⟩

/-- A link that leads to the manifest is lost, and the manifest behind it does not get the content;
a rollback does not bring the link back. Where a link was laid at the temporary name, another file
gets the content, and the path ends with that link. A file that has the temporary name as well gets
the content under its other name, too. -/
theorem Sync.renews_in_place_replaced :
    (Sample.behind.place "m" = .ok (.found ["f"]) ∧
      Sample.behind.get? ["f"] =
        some (.file "version = \"1\"\nsha256 = \"abc\"\n".toUTF8 0o600) ∧
      (Sample.behind.replaceText "7" "m" "new").result = .ok () ∧
      Sample.behind.get? ["m"] = some (.link "f") ∧
      (Sample.behind.replaceText "7" "m" "new").tree.get? ["m"] ≠ some (.link "f") ∧
      (Sample.behind.replaceText "7" "m" "new").tree.get? ["f"] ≠
        some (.file "new".toUTF8 0o600)) ∧
    (Sample.through.RollsBack Sample.behind Sample.traced ∧
      (Sample.through.built Sample.traced Sample.behind).Intact
        (Sample.through.build Sample.traced Sample.behind).tree ∧
      ¬ Sample.behind.Same (Sample.through.run Sample.behind).tree) ∧
    (Sample.trapped.readText "m" = .ok "old" ∧ Sample.trapped.readText "g" = .ok "other" ∧
      (Sample.trapped.replaceText "7" "m" "new").result = .ok () ∧
      ((Sample.trapped.replaceText "7" "m" "new").tree.get? ["m"]).any Entry.isFile = false ∧
      (Sample.trapped.replaceText "7" "m" "new").tree.readText "g" = .ok "new") ∧
    Sample.coupled.readText "m" = .ok "old" ∧ Sample.coupled.readText "g" = .ok "other" ∧
      (Sample.coupled.replaceText "7" "m" "new").result = .ok () ∧
      (Sample.coupled.replaceText "7" "m" "new").tree.readText "m" = .ok "new" ∧
      (Sample.coupled.replaceText "7" "m" "new").tree.readText "g" = .ok "new" := by
  have found : Sample.behind.entry "m" =
      .ok (.file "version = \"1\"\nsha256 = \"abc\"\n".toUTF8 0o600) :=
    Tree.entry_eq_ok_iff.mpr ⟨_, Sample.place_behind, rfl⟩
  have renewable : Sample.behind.Renewable "7" "m" 0o600 :=
    ⟨⟨_, found⟩, Sample.spare_behind⟩
  have written : (Sample.behind.replaceText "7" "m" "new").result = .ok () :=
    eq_ok_of_toOption (by decide +kernel)
  obtain ⟨slot, renews⟩ := renewable.renews (by decide) written
  obtain rfl : ⟨[], "m", false⟩ = slot := by simpa [Sample.slot_behind] using renews.found
  refine ⟨⟨Sample.place_behind, rfl, written, rfl, fun link => ?_, fun moved => ?_⟩,
    ⟨Sample.rollsBack_through, Sample.quiet_through, fun same => ?_⟩,
    ⟨eq_ok_of_toOption (by decide +kernel), eq_ok_of_toOption (by decide +kernel),
      eq_ok_of_toOption (by decide +kernel), by decide +kernel,
      eq_ok_of_toOption (by decide +kernel)⟩,
    eq_ok_of_toOption (by decide +kernel), eq_ok_of_toOption (by decide +kernel),
    eq_ok_of_toOption (by decide +kernel), eq_ok_of_toOption (by decide +kernel),
    eq_ok_of_toOption (by decide +kernel)⟩
  · cases renews.held.symm.trans link
  · have kept := (renews.rest ["f"] (by decide) (by decide)).symm.trans moved
    have contents := (Entry.file.inj (Option.some.inj kept)).1
    exact absurd contents (by decide +kernel)
  · obtain ⟨slot, reached, iff⟩ := Sample.rollsBack_through.same_iff (by decide)
      Sample.place_behind rfl renewable Sample.quiet_through
    obtain rfl := Option.some.inj (Except.ok.inj (Sample.slot_behind.symm.trans reached))
    exact absurd (iff.mp same).1 (by decide)

end ManifestPin
