import ManifestPin.Proofs.Files.Frame
import ManifestPin.Proofs.Files.Opening

/-! # Replacing a file that is there

A path that leads to a file, perhaps through links, ends with a name. Replacing the file puts a new
one under that name, with the permission bits of the old one. If the name was that of a link, the
link is gone and the file that it led to stays as it was.
-/

namespace ManifestPin

/-- Entries of one kind. What files hold may differ, and the permission bits; links have the same
target. -/
inductive Entry.Alike : Entry → Entry → Prop where
  | file (old new : ByteArray) (mode other : Nat) : Alike (.file old mode) (.file new other)
  | directory (mode other : Nat) : Alike (.directory mode) (.directory other)
  | link (target : String) : Alike (.link target) (.link target)
  | sink : Alike .sink .sink

theorem Entry.Alike.refl (entry : Entry) : entry.Alike entry := by
  cases entry with
  | file => exact .file ..
  | directory => exact .directory ..
  | link => exact .link _
  | sink => exact .sink

namespace Tree

variable {tree before after opened filled : Tree} {tag path : String} {old content : ByteArray}
  {location other : Location} {slot : Slot} {mode : Nat} {entry : Entry}

/-- A path that leads to a file leads to it still once another path, or the same one, is open to be
written. -/
theorem entry_of_truncate {first : String} (opens : before.truncate first = .ok (opened, location))
    (found : before.entry path = .ok (.file old mode)) :
    ∃ left, opened.entry path = .ok (.file left mode) := by
  obtain ⟨destination, placed, held⟩ := entry_eq_ok_iff.mp found
  obtain ⟨left, stays⟩ : ∃ left, opened.get? destination = some (.file left mode) := by
    rcases get?_of_truncate opens held with ⟨-, stays⟩ | ⟨-, -, emptied⟩
    · exact ⟨old, stays⟩
    · exact ⟨ByteArray.empty, emptied⟩
  have keeps := (rewrites_of_truncate opens).keepsWays
  exact ⟨left, entry_of_keepsWays keeps placed stays (by simp)⟩

/-- Whatever is at the temporary name, replacing a file that is there changes no more than what
stands at the end of its path and at the temporary name, and the file that this name leads to, under
all its names. -/
theorem get?_of_replace (plain : '/' ∉ tag.toList) (found : tree.entry path = .ok (.file old mode))
    (written : (tree.replace tag path content).result = .ok ()) :
    ∃ slot, tree.slot? path = .ok (some slot) ∧ ∀ other entry, tree.get? other = some entry →
      other ≠ slot.location → other ≠ slot.temporary tag →
      (∀ reached, tree.place (Tree.temporary tag path) = .ok (.found reached) →
        tree.shares reached other = false) →
      (tree.replace tag path content).tree.get? other = some entry := by
  obtain ⟨location, placed, held⟩ := entry_eq_ok_iff.mp found
  have noDirectory := not_holdsDirectory_of_file held
  obtain ⟨opened, _, filled, opens, fills, -, moves⟩ := steps_of_replace written
  rw [makeParent_of_place placed] at opens
  have opening := rewrites_of_truncate opens
  have filling := rewrites_of_fill opening.plain fills
  obtain ⟨source, slot, standing, names, replaced⟩ := names_of_fill placed noDirectory opens fills
  obtain ⟨rfl, -⟩ := temporary_apart plain replaced.unslashed replaced.found standing.found
  refine ⟨slot, names.found, fun other entry there elsewhere aside unreached => ?_⟩
  obtain ⟨apart, kept⟩ := (get?_of_truncate opens there).resolve_right fun ⟨led, shared, _⟩ => by
    simp [unreached _ led] at shared
  rw [get?_move_of_ne standing replaced moves (Ne.symm aside) (Ne.symm elsewhere),
    filling.rest other ((opening.shared other).trans apart), kept]

/-- A tree in which everything that another one holds, but for one location, has kept its kind. -/
def KeepsKinds (before after : Tree) (but : Location) : Prop :=
  ∀ other entry, other ≠ but → before.get? other = some entry →
    ∃ new, after.get? other = some new ∧ entry.Alike new

/-- A tree in which a path leads to a file that can be renewed: nothing is at the temporary name, or
a file that has no other name. -/
structure Renewable (tree : Tree) (tag path : String) (mode : Nat) : Prop where
  led : ∃ content, tree.entry path = .ok (.file content mode)
  spare : tree.Spare (temporary tag path)

/-- What replacing a file that is there comes to, the file being in a slot or behind a link in
it. -/
structure Renews (before after : Tree) (tag path : String) (content : ByteArray) (mode : Nat)
    (slot : Slot) : Prop where
  here : after.here = before.here
  refusals : after.refusals = before.refusals
  /-- The path ends with the same name in the same directory. -/
  found : before.slot? path = .ok (some slot)
  stays : after.slot? path = .ok (some slot)
  /-- It is the name of a file with the content and the permission bits. -/
  held : after.get? slot.location = some (.file content mode)
  /-- The path leads to this file. -/
  placed : after.place path = .ok (.found slot.location)
  /-- Nothing is at the temporary name. -/
  clear : after.get? (slot.temporary tag) = none
  /-- No other location changed. -/
  rest : ∀ other, other ≠ slot.location → other ≠ slot.temporary tag →
    after.get? other = before.get? other

/-- A file that can be renewed is renewed in the slot of its path. -/
theorem Renewable.renews (renewable : tree.Renewable tag path mode) (plain : '/' ∉ tag.toList)
    (written : (tree.replace tag path content).result = .ok ()) :
    ∃ slot, tree.Renews (tree.replace tag path content).tree tag path content mode slot := by
  obtain ⟨old, found⟩ := renewable.led
  obtain ⟨location, placed, held⟩ := entry_eq_ok_iff.mp found
  have noDirectory := not_holdsDirectory_of_file held
  have directory := makeParent_of_place placed
  have spare : (tree.makeParent path).1.Spare (Tree.temporary tag path) :=
    directory.symm ▸ renewable.spare
  obtain ⟨source, slot, standing, reached, unslashed, short, -, replaces⟩ :=
    replace_eq_ok spare.file written
  obtain ⟨opened, _, opens, -, -, bits⟩ := bits_of_replace plain spare written reached unslashed
  rw [directory] at standing reached replaces opens spare
  obtain ⟨left, led⟩ := entry_of_truncate opens found
  have renewed := bits _ led
  generalize (tree.replace tag path content).tree = after at replaces renewed
  obtain ⟨rfl, apart⟩ := temporary_apart plain unslashed reached standing
  have stays := replaces.slot? (slot?_erase_of_place reached placed noDirectory)
  refine ⟨slot, replaces.here, replaces.refusals, reached, stays, renewed, ?_,
    replaces.removed (spare.not_shares standing apart), fun other elsewhere sibling => ?_⟩
  · exact place_of_slot? stays unslashed short renewed (by simp)
  · exact replaces.rest other (spare.not_shares standing (Ne.symm sibling)) (Ne.symm elsewhere)

/-- The same tree, in which also the same locations are names of one file. -/
structure Intact (before after : Tree) : Prop extends before.Same after where
  shared : ∀ first second, after.shares first second = before.shares first second

/-- An intact tree can be renewed in the same way. -/
theorem Renewable.of_intact (renewable : before.Renewable tag path mode)
    (intact : before.Intact after) : after.Renewable tag path mode := by
  have same := intact.toSame
  obtain ⟨content, led⟩ := renewable.led
  refine ⟨⟨content, entry_of_within same.within led⟩, fun entry held => ?_,
    fun slot other found shared => ?_⟩
  · exact renewable.spare.file entry ((same.standing? _).symm.trans held)
  · have before := slot?_of_keepsWays same.symm.within.keepsWays found
    exact renewable.spare.sole slot other before ((intact.shared _ other).symm.trans shared)

theorem Renews.unslashed (renews : before.Renews after tag path content mode slot) :
    slot.slash = false :=
  unslashed_of_place renews.stays renews.placed (not_holdsDirectory_of_file renews.held)

/-- A file that was renewed can be renewed again. -/
theorem Renews.renewable (renews : before.Renews after tag path content mode slot)
    (plain : '/' ∉ tag.toList) : after.Renewable tag path mode := by
  have absent : after.standing? (temporary tag path) = none :=
    standing?_temporary renews.stays renews.unslashed plain fun _ => renews.clear
  exact ⟨⟨content, entry_eq_ok_iff.mpr ⟨_, renews.placed, renews.held⟩⟩, spare_of_absent absent⟩

/-- A path that leads to a file ends with its name or with the name of a link. -/
theorem eq_or_link_of_place (found : tree.slot? path = .ok (some slot))
    (placed : tree.place path = .ok (.found location))
    (held : tree.get? location = some (.file old mode)) :
    slot.location = location ∨ ∃ target, tree.get? slot.location = some (.link target) := by
  have noDirectory := not_holdsDirectory_of_file held
  have unslashed := unslashed_of_place found placed noDirectory
  rcases lastStep_of_slot? found unslashed placed with ⟨-, ended⟩ | ⟨target, _, link, -⟩ |
    ⟨_, -, -, ended⟩
  · cases ended
  · exact .inr ⟨target, link⟩
  · cases ended
    exact .inl rfl

/-- Everything keeps its kind when a file is renewed exactly if its path ends with its own name. -/
theorem Renews.keepsKinds_iff (renews : before.Renews after tag path content mode slot)
    (placed : before.place path = .ok (.found location))
    (held : before.get? location = some (.file old mode)) :
    before.KeepsKinds after (slot.temporary tag) ↔ slot.location = location := by
  constructor
  · intro keeps
    rcases eq_or_link_of_place renews.found placed held with same | ⟨target, link⟩
    · exact same
    obtain ⟨new, standing, alike⟩ := keeps slot.location _ (slot.location_ne_temporary tag) link
    obtain rfl : Entry.file content mode = new := by simpa [renews.held] using standing
    cases alike
  · rintro rfl other entry apart there
    by_cases same : other = slot.location
    · subst same
      obtain rfl : Entry.file old mode = entry := by simpa [held] using there
      exact ⟨_, renews.held, .file ..⟩
    · exact ⟨entry, (renews.rest other same apart).trans there, .refl entry⟩

end Tree

end ManifestPin
