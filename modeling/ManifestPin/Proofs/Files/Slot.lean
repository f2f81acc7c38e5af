import ManifestPin.Files.Operations
import ManifestPin.Proofs.Files.Path
import ManifestPin.Proofs.Files.Walk
import ManifestPin.Proofs.Results

/-! # Slots and what stands in them

The last name of a path and what stands there, and how it relates to what the path reads. A file
can be read where it stands, and a path that reads a file needs nothing of what stands in its own
slot to find that slot.
-/

namespace ManifestPin

namespace Slot

theorem location_ne_nil (slot : Slot) : slot.location ≠ [] :=
  List.cons_ne_nil _ _

/-- The location of the temporary file for what stands in a slot. -/
def temporary (slot : Slot) (tag : String) : Location :=
  Tree.temporaryName tag slot.name :: slot.directory

theorem location_ne_temporary (slot : Slot) (tag : String) : slot.location ≠ slot.temporary tag :=
  fun same => Tree.temporaryName_ne tag slot.name (List.cons.inj same).1.symm

/-- The locations of temporary files with one of some tags. -/
def Temporary (slot : Slot) (tags : String → Prop) (location : Location) : Prop :=
  ∃ tag, tags tag ∧ slot.temporary tag = location

/-- The locations that those change who replace what stands in a slot. -/
def Touched (slot : Slot) (tags : String → Prop) (location : Location) : Prop :=
  slot.location = location ∨ slot.Temporary tags location

end Slot

namespace Tree

open ManifestPin.Path (Named)

variable {tree before after : Tree} {path name text : String} {front : List String}
  {location directory : Location} {place : Place} {slot : Slot} {entry : Entry}
  {content : ByteArray}

/-- What stands at the last name of a path, which is not followed. -/
def standing? (tree : Tree) (path : String) : Option Entry :=
  match tree.slot? path with
  | .ok (some slot) => tree.get? slot.location
  | _ => none

theorem standing?_of_slot? (found : tree.slot? path = .ok (some slot)) :
    tree.standing? path = tree.get? slot.location := by
  rw [standing?, found]

theorem standing?_eq_some_iff : tree.standing? path = some entry ↔
    ∃ slot, tree.slot? path = .ok (some slot) ∧ tree.get? slot.location = some entry := by
  constructor
  · intro held
    unfold standing? at held
    split at held
    next slot found => exact ⟨slot, found, held⟩
    next => cases held
  · rintro ⟨slot, found, held⟩
    exact (standing?_of_slot? found).trans held

theorem standing?_eq_none_iff : tree.standing? path = none ↔
    ∀ slot, tree.slot? path = .ok (some slot) → tree.get? slot.location = none := by
  simp only [Option.eq_none_iff_forall_ne_some, ne_eq, standing?_eq_some_iff, not_exists, not_and]
  exact ⟨fun absent slot found entry => absent entry slot found,
    fun absent entry slot found => absent slot found entry⟩

theorem place_eq_ok_iff :
    tree.place path = .ok place ↔
      checkPath path = .ok () ∧
        tree.Leads linkLimit (tree.start path) (Path.pieces path) place := by
  rw [← walk_eq_ok_iff, Tree.place]
  cases checkPath path <;> simp [bind, Except.bind]

theorem entry_eq_ok_iff :
    tree.entry path = .ok entry ↔
      ∃ location, tree.place path = .ok (.found location) ∧ tree.get? location = some entry := by
  unfold Tree.entry resolve
  rcases tree.place path with fault | ⟨location⟩ | ⟨directory, name⟩
  · simp [bind, Except.bind]
  · cases held : tree.get? location <;> simp [bind, Except.bind, held]
  · simp [bind, Except.bind]

theorem allow_eq_ok_or (tree : Tree) (call : Call) (location : Location) :
    tree.allow call location = .ok () ∨
      ∃ denial, tree.allow call location = .error (.denied denial) := by
  unfold allow
  cases tree.refusals.calls call location with
  | none => exact .inl rfl
  | some denial => exact .inr ⟨denial, rfl⟩

theorem entry_of_status (looked : tree.status path = .ok entry) : tree.entry path = .ok entry := by
  obtain ⟨_, -, looked⟩ := bind_eq_ok_iff.mp looked
  obtain ⟨-, -, found⟩ := bind_eq_ok_iff.mp looked
  exact found

/-- An entry that is there is looked up, or the file system refuses that. -/
theorem status_of_entry (found : tree.entry path = .ok entry) :
    tree.status path = .ok entry ∨ ∃ denial, tree.status path = .error (.denied denial) := by
  obtain ⟨location, reached, -⟩ := bind_eq_ok_iff.mp found
  unfold status
  rw [reached, found]
  rcases allow_eq_ok_or tree .status location with allowed | ⟨denial, refused⟩
  · exact .inl (by simp [allowed, bind, Except.bind])
  · exact .inr ⟨denial, by simp [refused, bind, Except.bind]⟩

/-- What a slot says about its path and the way to it. -/
theorem slot?_eq_some_iff :
    tree.slot? path = .ok (some slot) ↔
      checkPath path = .ok () ∧ slot.slash = Path.endsWithSlash path ∧
        slot.name ≠ "." ∧ slot.name ≠ ".." ∧
        ∃ front, (Path.pieces path).reverse.dropWhile (· = "") = slot.name :: front.reverse ∧
          tree.Leads linkLimit (tree.start path) front (.found slot.directory) ∧
          tree.holdsDirectory slot.directory = true := by
  obtain ⟨directory, name, slash⟩ := slot
  unfold slot?
  constructor
  · intro found
    cases checked : checkPath path with
    | error fault => simp [checked, bind, Except.bind] at found
    | ok =>
      rw [checked] at found
      cases ending : (Path.pieces path).reverse.dropWhile (· = "") with
      | nil => simp [ending, bind, Except.bind] at found
      | cons last before =>
        simp only [ending, bind, Except.bind] at found
        split at found
        · cases found
        next walked =>
        split at found
        · cases found
        next reached =>
        split at found
        · cases found
        next holds =>
        split at found
        · cases found
        next named =>
        cases found
        have leads := walk_eq_ok_iff.mp walked
        simp only [Bool.not_eq_true', Bool.not_eq_false] at holds
        obtain ⟨notHere, notUp⟩ : name ≠ "." ∧ name ≠ ".." := by simpa using named
        exact ⟨rfl, rfl, notHere, notUp, before.reverse, by simp, leads, holds⟩
  · rintro ⟨checked, rfl, notHere, notUp, front, ending, leads, holds⟩
    simp [checked, ending, leads.walk, holds, notHere, notUp, bind, Except.bind]

/-- The slot of a path that ends with a name. -/
theorem slot?_of_named (named : Named path front name) (checked : checkPath path = .ok ())
    (leads : tree.Leads linkLimit (tree.start path) front (.found directory))
    (holds : tree.holdsDirectory directory = true) :
    tree.slot? path = .ok (some ⟨directory, name, false⟩) := by
  refine slot?_eq_some_iff.mpr ⟨checked, named.endsWithSlash.symm, named.notHere, named.notUp,
    front, ?_, leads, holds⟩
  simp [named.pieces, named.nonempty]

/-- A path with a slot and without a slash at its end ends with the slot's name. -/
theorem named_of_slot? (found : tree.slot? path = .ok (some slot)) (unslashed : slot.slash = false) :
    ∃ front, Named path front slot.name ∧ checkPath path = .ok () ∧
      tree.Leads linkLimit (tree.start path) front (.found slot.directory) ∧
      tree.holdsDirectory slot.directory = true := by
  obtain ⟨checked, slash, notHere, notUp, front, ending, leads, holds⟩ := slot?_eq_some_iff.mp found
  obtain ⟨before, last, cut⟩ := Path.exists_last_piece path
  have nonempty : last ≠ "" := by
    rintro rfl
    have alone : before = [] := by
      simpa [← slash, unslashed] using Path.endsWithSlash_of_pieces cut
    simp [cut, alone] at ending
  have whole : last = slot.name ∧ before.reverse = front.reverse := by
    simpa [cut, nonempty] using ending
  obtain ⟨rfl, same⟩ := whole
  rw [List.reverse_inj] at same
  subst same
  have naming := Path.isNaming_iff.mpr ⟨nonempty, notHere⟩
  exact ⟨before, ⟨cut, naming, notUp⟩, checked, leads, holds⟩

/-- A slot stays where the ways of a tree are kept. -/
theorem slot?_of_keepsWays (keeps : before.KeepsWays after)
    (found : before.slot? path = .ok (some slot)) : after.slot? path = .ok (some slot) := by
  obtain ⟨checked, slash, notHere, notUp, front, ending, leads, holds⟩ := slot?_eq_some_iff.mp found
  have kept := keeps.directories _ holds
  obtain ⟨mode, held⟩ := holdsDirectory_iff.mp kept
  have onward := leads.of_keepsWays keeps held fun _ => nofun
  rw [start, ← keeps.here] at onward
  exact slot?_eq_some_iff.mpr ⟨checked, slash, notHere, notUp, front, ending, onward, kept⟩

/-- What stands at the end of a path stands there in any tree that holds more. -/
theorem standing?_of_within (within : before.Within after)
    (held : before.standing? path = some entry) : after.standing? path = some entry := by
  obtain ⟨slot, found, held⟩ := standing?_eq_some_iff.mp held
  exact standing?_eq_some_iff.mpr
    ⟨slot, slot?_of_keepsWays within.keepsWays found, within.held slot.location entry held⟩

theorem Same.standing? (same : before.Same after) (path : String) :
    after.standing? path = before.standing? path :=
  Option.ext fun _ =>
    ⟨standing?_of_within same.symm.within, standing?_of_within same.within⟩

/-- What is no link and stands in a slot is where the path leads. -/
theorem place_of_slot? (found : tree.slot? path = .ok (some slot)) (unslashed : slot.slash = false)
    (short : slot.name.utf8ByteSize ≤ nameLimit) (held : tree.get? slot.location = some entry)
    (noLink : ∀ target, entry ≠ .link target) :
    tree.place path = .ok (.found slot.location) := by
  obtain ⟨front, named, checked, leads, holds⟩ := named_of_slot? found unslashed
  refine place_eq_ok_iff.mpr ⟨checked, ?_⟩
  rw [named.pieces]
  refine leads.append fun fewer => .down holds ?_ held noLink .stop
  exact ⟨named.nonempty, named.notHere, named.notUp, short⟩

/-- What a path that ends with a name leads to, in terms of its slot. -/
theorem leads_of_place (named : Named path front name) (placed : tree.place path = .ok place) :
    ∃ directory fewer, tree.slot? path = .ok (some ⟨directory, name, false⟩) ∧
      tree.Leads linkLimit (tree.start path) front (.found directory) ∧
      tree.Leads fewer directory [name] place := by
  obtain ⟨checked, leads⟩ := place_eq_ok_iff.mp placed
  rw [named.pieces] at leads
  obtain ⟨directory, fewer, first, holds, last⟩ := leads.append_inv (List.cons_ne_nil _ _)
  exact ⟨directory, fewer, slot?_of_named named checked first holds, first, last⟩

/-- A path that leads to something other than a directory does not end with a slash. -/
theorem unslashed_of_place (found : tree.slot? path = .ok (some slot))
    (placed : tree.place path = .ok (.found location))
    (noDirectory : tree.holdsDirectory location ≠ true) : slot.slash = false := by
  obtain ⟨-, slash, -⟩ := slot?_eq_some_iff.mp found
  obtain ⟨-, leads⟩ := place_eq_ok_iff.mp placed
  obtain ⟨before, last, cut⟩ := Path.exists_last_piece path
  rw [slash, Path.endsWithSlash_of_pieces cut]
  refine Bool.eq_false_iff.mpr fun slashed => ?_
  obtain ⟨rfl, -⟩ : last = "" ∧ before ≠ [] := by simpa using slashed
  rw [cut] at leads
  obtain ⟨directory, fewer, -, holds, onward⟩ := leads.append_inv (List.cons_ne_nil _ _)
  have same := onward.stays (by simp [Path.isNaming])
  cases same
  exact noDirectory holds

/-- A path that ends with a name has a slot in any tree in which it leads somewhere. -/
theorem exists_slot? (found : before.slot? path = .ok (some slot)) (unslashed : slot.slash = false)
    (placed : after.place path = .ok place) : ∃ other, after.slot? path = .ok (some other) := by
  obtain ⟨front, named, -⟩ := named_of_slot? found unslashed
  obtain ⟨directory, fewer, reached, -⟩ := leads_of_place named placed
  exact ⟨_, reached⟩

/-- Where a path leads, by what stands in its slot. -/
theorem lastStep_of_slot? (found : tree.slot? path = .ok (some slot))
    (unslashed : slot.slash = false) (placed : tree.place path = .ok place) :
    (tree.get? slot.location = none ∧ place = .vacant slot.directory slot.name) ∨
      (∃ target fewer, tree.get? slot.location = some (.link target) ∧
        tree.Leads fewer (linkStart target slot.directory) (Path.pieces target) place) ∨
      ∃ entry, tree.get? slot.location = some entry ∧ (∀ target, entry ≠ .link target) ∧
        place = .found slot.location := by
  obtain ⟨front, named, -⟩ := named_of_slot? found unslashed
  obtain ⟨directory, fewer, same, -, last⟩ := leads_of_place named placed
  obtain rfl : slot.directory = directory :=
    congrArg Slot.directory (Option.some.inj (Except.ok.inj (found.symm.trans same)))
  exact (last.lastStep named.naming named.notUp).2

/-- A path that leads to something other than a directory finds its slot without what stands
there. -/
theorem slot?_erase_of_place (found : tree.slot? path = .ok (some slot))
    (placed : tree.place path = .ok (.found location))
    (noDirectory : tree.holdsDirectory location ≠ true) :
    (tree.erase slot.location).slot? path = .ok (some slot) := by
  have unslashed := unslashed_of_place found placed noDirectory
  obtain ⟨front, named, checked, first, holds⟩ := named_of_slot? found unslashed
  have step := lastStep_of_slot? found unslashed placed
  have below := slot.location_ne_nil
  rcases first.erase holds below with kept | standing | ⟨target, others, reached, held, leads, ends⟩
  · obtain ⟨mode, held⟩ := holdsDirectory_iff.mp holds
    have apart : slot.location ≠ slot.directory := List.cons_ne_self _ _
    have stays := (get?_erase_eq_some below).mpr ⟨apart, held⟩
    have := slot?_of_named named checked kept (holdsDirectory_iff.mpr ⟨mode, stays⟩)
    rwa [← unslashed] at this
  · obtain ⟨mode, held⟩ := holdsDirectory_iff.mp standing
    rcases step with ⟨absent, -⟩ | ⟨_, _, link, -⟩ | ⟨_, -, -, arrives⟩
    · simp [held] at absent
    · simp [held] at link
    · cases arrives
      exact absurd standing noDirectory
  · rcases step with ⟨absent, -⟩ | ⟨_, links, link, again⟩ | ⟨_, other, noLink, -⟩
    · simp [held] at absent
    · -- both ways through the link end at one place, which is a directory on the first
      obtain rfl : target = _ := by simpa [held] using link
      have once := leads.mono (Nat.le_max_left others links)
      have twice := again.mono (Nat.le_max_right others links)
      cases once.unique twice
      exact absurd ends noDirectory
    · rw [held] at other
      cases other
      exact absurd rfl (noLink target)

/-- The slot of the temporary file for a path, in the same directory. -/
theorem slot?_temporary (found : tree.slot? path = .ok (some slot))
    (unslashed : slot.slash = false) {tag : String} (plain : '/' ∉ tag.toList)
    (checked : checkPath (temporary tag path) = .ok ()) :
    tree.slot? (temporary tag path) =
      .ok (some ⟨slot.directory, temporaryName tag slot.name, false⟩) := by
  obtain ⟨front, named, -, leads, holds⟩ := named_of_slot? found unslashed
  obtain ⟨kept, dropped, rfl, unnamed, rooted, sibling⟩ := named_temporary named plain
  refine slot?_of_named sibling checked ?_ holds
  rw [start, rooted]
  exact leads.dropUnnamed unnamed

/-- Nothing stands at the temporary name of a slot when nothing is there under that name. -/
theorem standing?_temporary (found : tree.slot? path = .ok (some slot))
    (unslashed : slot.slash = false) {tag : String} (plain : '/' ∉ tag.toList)
    (absent : checkPath (temporary tag path) = .ok () →
      tree.get? (temporaryName tag slot.name :: slot.directory) = none) :
    tree.standing? (temporary tag path) = none := by
  cases checked : checkPath (temporary tag path) with
  | error fault => simp [standing?, slot?, checked, bind, Except.bind]
  | ok =>
      rw [standing?_of_slot? (slot?_temporary found unslashed plain checked)]
      exact absent checked

theorem readOctets_eq_ok_iff :
    tree.readOctets path = .ok content ↔
      ∃ location, tree.place path = .ok (.found location) ∧
        ((∃ mode, tree.get? location = some (.file content mode)) ∨
          tree.get? location = some .sink ∧ content = ByteArray.empty) := by
  constructor
  · intro read
    unfold readOctets at read
    cases reached : tree.entry path with
    | error fault => simp [reached, bind, Except.bind] at read
    | ok entry =>
        obtain ⟨location, placed, held⟩ := entry_eq_ok_iff.mp reached
        refine ⟨location, placed, ?_⟩
        cases entry <;> simp_all [bind, Except.bind]
  · rintro ⟨location, placed, ⟨mode, held⟩ | ⟨held, rfl⟩⟩
    · rw [readOctets, entry_eq_ok_iff.mpr ⟨location, placed, held⟩]
      rfl
    · rw [readOctets, entry_eq_ok_iff.mpr ⟨location, placed, held⟩]
      rfl

theorem guarded_eq_ok_iff {α : Type} {operation : Except SystemFault α} {value : α} :
    guarded path operation = .ok value ↔ '\x00' ∉ path.toList ∧ operation = .ok value := by
  unfold guarded
  split
  next nul => simp [List.contains_iff_mem.mp nul]
  next noNul =>
    have absent : '\x00' ∉ path.toList := fun nul => noNul (List.contains_iff_mem.mpr nul)
    simp [mapError_eq_ok_iff, absent]

theorem fromUTF8?_eq_some_iff : String.fromUTF8? content = some text ↔ content = text.toUTF8 := by
  unfold String.fromUTF8?
  constructor
  · intro read
    split at read
    · cases read
      rfl
    · cases read
  · rintro rfl
    rw [dif_pos (by simpa using text.isValidUTF8)]
    simp [String.fromUTF8]

theorem readText_eq_ok_iff :
    tree.readText path = .ok text ↔
      '\x00' ∉ path.toList ∧ tree.readOctets path = .ok text.toUTF8 := by
  rw [← guarded_eq_ok_iff]
  unfold readText
  split
  next fault refused => simp [refused]
  next content octets =>
    rw [octets, Except.ok.injEq, ← fromUTF8?_eq_some_iff]
    split
    next text decoded => simp [decoded]
    next invalid => simp [invalid]

/-- Two trees with the same octets at a path have the same text there. -/
theorem readText_congr (same : after.readOctets path = before.readOctets path) :
    after.readText path = before.readText path := by
  rw [readText, readText, same]

theorem readOctets_of_readText (read : before.readText path = .ok text)
    (same : after.readText path = .ok text) : after.readOctets path = before.readOctets path := by
  rw [(readText_eq_ok_iff.mp read).2, (readText_eq_ok_iff.mp same).2]

/-- What a path reads does not stand where a directory does. -/
theorem place_of_readText (read : tree.readText path = .ok text) :
    ∃ location, tree.place path = .ok (.found location) ∧
      tree.holdsDirectory location ≠ true := by
  obtain ⟨location, placed, held⟩ := readOctets_eq_ok_iff.mp (readText_eq_ok_iff.mp read).2
  refine ⟨location, placed, fun holds => ?_⟩
  obtain ⟨mode, directory⟩ := holdsDirectory_iff.mp holds
  simp [directory] at held

/-- A path leads to the same entry in a tree that holds more. -/
theorem place_of_within (within : before.Within after)
    (placed : before.place path = .ok (.found location)) :
    after.place path = .ok (.found location) := by
  obtain ⟨checked, leads⟩ := place_eq_ok_iff.mp placed
  rw [start, ← within.here] at leads
  exact place_eq_ok_iff.mpr ⟨checked, leads.of_within within⟩

/-- A path leads to what stands at its end in a tree with all directories and links. -/
theorem entry_of_keepsWays (keeps : before.KeepsWays after)
    (placed : before.place path = .ok (.found location)) (held : after.get? location = some entry)
    (noLink : ∀ target, entry ≠ .link target) : after.entry path = .ok entry := by
  obtain ⟨checked, leads⟩ := place_eq_ok_iff.mp placed
  have onward := leads.of_keepsWays keeps held noLink
  rw [start, ← keeps.here] at onward
  exact entry_eq_ok_iff.mpr ⟨location, place_eq_ok_iff.mpr ⟨checked, onward⟩, held⟩

theorem entry_of_within (within : before.Within after) (found : before.entry path = .ok entry) :
    after.entry path = .ok entry := by
  obtain ⟨location, placed, held⟩ := entry_eq_ok_iff.mp found
  exact entry_eq_ok_iff.mpr
    ⟨location, place_of_within within placed, within.held location entry held⟩

/-- What is read in a tree is read in any tree that it is within. -/
theorem readText_of_within (within : before.Within after)
    (read : before.readText path = .ok text) : after.readText path = .ok text := by
  obtain ⟨noNul, octets⟩ := readText_eq_ok_iff.mp read
  obtain ⟨location, placed, held⟩ := readOctets_eq_ok_iff.mp octets
  have kept := place_of_within within placed
  refine readText_eq_ok_iff.mpr ⟨noNul, readOctets_eq_ok_iff.mpr ⟨location, kept, ?_⟩⟩
  rcases held with ⟨mode, held⟩ | ⟨held, empty⟩
  · exact .inl ⟨mode, within.held location _ held⟩
  · exact .inr ⟨within.held location _ held, empty⟩

/-- A path reads the same text where the way to what it reads is kept, and so is that. -/
theorem readText_of_keepsWays (keeps : before.KeepsWays after)
    (same : ∀ location, before.place path = .ok (.found location) →
      after.get? location = before.get? location)
    (read : before.readText path = .ok text) : after.readText path = .ok text := by
  obtain ⟨noNul, octets⟩ := readText_eq_ok_iff.mp read
  obtain ⟨location, placed, held⟩ := readOctets_eq_ok_iff.mp octets
  have found {entry : Entry} (there : before.get? location = some entry)
      (noLink : ∀ target, entry ≠ .link target) : after.entry path = .ok entry :=
    entry_of_keepsWays keeps placed ((same location placed).trans there) noLink
  refine readText_eq_ok_iff.mpr ⟨noNul, ?_⟩
  rcases held with ⟨mode, file⟩ | ⟨sink, empty⟩
  · rw [readOctets, found file fun _ => nofun]
    rfl
  · rw [readOctets, found sink fun _ => nofun, empty]
    rfl

/-- A file is read where it stands. -/
theorem readText_of_slot? (found : tree.slot? path = .ok (some slot))
    (unslashed : slot.slash = false) (short : slot.name.utf8ByteSize ≤ nameLimit)
    (noNul : '\x00' ∉ path.toList) {mode : Nat}
    (held : tree.get? slot.location = some (.file text.toUTF8 mode)) :
    tree.readText path = .ok text :=
  readText_eq_ok_iff.mpr ⟨noNul, readOctets_eq_ok_iff.mpr ⟨slot.location,
    place_of_slot? found unslashed short held fun _ => nofun, .inl ⟨mode, held⟩⟩⟩

end Tree

end ManifestPin
