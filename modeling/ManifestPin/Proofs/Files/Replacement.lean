import ManifestPin.Proofs.Files.Parent

/-! # What replacing a file does

A file is replaced in its slot. The path reads the new content afterwards if nothing but a file
stands at the temporary name and the way to the slot does not lead through what stands in it.
-/

namespace ManifestPin.Tree

open ManifestPin.Path (Named)

variable {tree before after opened filled : Tree} {tag path text : String} {content : ByteArray}
  {location : Location} {source target slot : Slot} {failure : FileFailure}

/-- A tree in which a path can be written through its temporary file. -/
structure Clear (tree : Tree) (tag path : String) : Prop where
  /-- Nothing but a file stands at the temporary name. -/
  temporary : ∀ entry, tree.standing? (temporary tag path) = some entry → entry.isFile = true
  /-- The slot is found without what stands in it. -/
  way : ∀ slot, tree.slot? path = .ok (some slot) →
    (tree.erase slot.location).slot? path = .ok (some slot)

/-- A path at whose end stands nothing, or a file that has no other name. -/
structure Spare (tree : Tree) (path : String) : Prop where
  file : ∀ entry, tree.standing? path = some entry → entry.isFile = true
  sole : ∀ slot other, tree.slot? path = .ok (some slot) →
    tree.shares slot.location other = true → slot.location = other

theorem spare_of_absent (absent : tree.standing? path = none) : tree.Spare path where
  file := fun entry held => by simp [absent] at held
  sole := by
    intro slot other found shared
    have none := (standing?_of_slot? found).symm.trans absent
    simpa [shares_of_absent none] using shared

theorem Spare.not_shares (spare : tree.Spare path) {other : Location}
    (found : tree.slot? path = .ok (some slot)) (apart : slot.location ≠ other) :
    tree.shares slot.location other = false :=
  Bool.eq_false_iff.mpr fun shared => apart (spare.sole slot other found shared)

/-- What moving a new file from one slot to another comes to. -/
structure Replaces (before after : Tree) (source target : Slot) (content : ByteArray) : Prop where
  here : after.here = before.here
  refusals : after.refusals = before.refusals
  held : ∃ mode, after.get? target.location = some (.file content mode)
  /-- Nothing is moved between two names of one file. -/
  removed : before.shares source.location target.location = false →
    after.get? source.location = none
  /-- No files are joined; the file that is moved has the names that it had. -/
  joined : ∀ first second, target.location ≠ first → after.shares first second = true →
    before.shares first second = true ∨
      target.location = second ∧ before.shares first source.location = true
  /-- Whatever other names the file had, they were names of a file. -/
  twins : ∀ other, before.shares source.location other = true → target.location ≠ other →
    before.FileAtMost other ∧ after.FileAtMost other
  rest : ∀ other, before.shares source.location other = false → target.location ≠ other →
    after.get? other = before.get? other

/-- A path that reads a file is clear but for what stands at its temporary name. -/
theorem clear_of_readText (read : tree.readText path = .ok text)
    (plain : ∀ entry, tree.standing? (temporary tag path) = some entry → entry.isFile = true) :
    tree.Clear tag path where
  temporary := plain
  way := by
    intro slot found
    obtain ⟨location, placed, noDirectory⟩ := place_of_readText read
    exact slot?_erase_of_place found placed noDirectory

/-- A path is clear when nothing stands at its temporary name and its slot is found without what
stands in it. -/
theorem clear_of_slot? (slot : Slot) (absent : tree.standing? (temporary tag path) = none)
    (found : tree.slot? path = .ok (some slot))
    (kept : (tree.erase slot.location).slot? path = .ok (some slot)) : tree.Clear tag path where
  temporary := fun entry held => by simp [absent] at held
  way := by
    intro other reached
    obtain rfl : slot = other := by simpa [found] using reached
    exact kept

/-- What opening a path to be written does: it creates a missing file, or empties what is there. -/
theorem cases_of_truncate (opens : tree.truncate path = .ok (opened, location)) :
    (∃ directory name, tree.place path = .ok (.vacant directory name) ∧
        location = name :: directory ∧
        opened = tree.put location (.file ByteArray.empty fileMode)) ∨
      tree.place path = .ok (.found location) ∧ tree.holdsDirectory location = false ∧
        opened = tree.update location (·.withContent ByteArray.empty) := by
  obtain ⟨place, placed, opens⟩ := bind_eq_ok_iff.mp opens
  cases place with
  | vacant directory name =>
      obtain ⟨-, -, opens⟩ := bind_eq_ok_iff.mp opens
      cases opens
      exact .inl ⟨directory, name, placed, rfl, rfl⟩
  | found location =>
      obtain ⟨-, -, opens⟩ := bind_eq_ok_iff.mp opens
      split at opens
      · cases opens
      next noDirectory =>
      cases opens
      exact .inr ⟨placed, by simpa using noDirectory, rfl⟩

/-- Opening a path that ends with a name, where nothing but a file stands, opens its slot. -/
theorem truncate_eq_ok {front : List String} {name : String} (named : Named path front name)
    (plain : ∀ entry, tree.standing? path = some entry → entry.isFile = true)
    (opens : tree.truncate path = .ok (opened, location)) :
    ∃ slot, tree.slot? path = .ok (some slot) ∧ slot.slash = false ∧
      slot.name.utf8ByteSize ≤ nameLimit ∧ slot.location = location ∧
      tree.FileAtMost location ∧ tree.Sets opened location ByteArray.empty := by
  obtain ⟨place, placed, -⟩ := bind_eq_ok_iff.mp opens
  obtain ⟨directory, fewer, found, -, last⟩ := leads_of_place named placed
  obtain ⟨short, step⟩ := last.lastStep named.naming named.notUp
  have atMost : tree.FileAtMost (name :: directory) := by
    intro entry held
    exact plain entry ((standing?_of_slot? found).trans held)
  have below : name :: directory ≠ [] := List.cons_ne_nil _ _
  refine ⟨⟨directory, name, false⟩, found, rfl, short, ?_⟩
  rcases cases_of_truncate opens with ⟨above, missing, same, rfl, rfl⟩ | ⟨same, -, rfl⟩
  · obtain rfl : place = .vacant above missing := Except.ok.inj (placed.symm.trans same)
    rcases step with ⟨absent, ended⟩ | ⟨target, _, link, -⟩ | ⟨_, -, -, ended⟩
    · cases ended
      exact ⟨rfl, atMost, sets_put below absent ByteArray.empty fileMode⟩
    · exact absurd (atMost _ link) (by simp [Entry.isFile])
    · cases ended
  · obtain rfl : place = .found location := Except.ok.inj (placed.symm.trans same)
    rcases step with ⟨-, ended⟩ | ⟨target, _, link, -⟩ | ⟨entry, held, -, ended⟩
    · cases ended
    · exact absurd (atMost _ link) (by simp [Entry.isFile])
    · cases ended
      cases entry with
      | file => exact ⟨rfl, atMost, sets_update below held ByteArray.empty⟩
      | directory | link | sink => exact absurd (atMost _ held) (by simp [Entry.isFile])

/-- Writing an open file gives it some content, and all of it if nothing is refused. -/
theorem exists_writeAll (tree : Tree) (location : Location) (content : ByteArray) :
    ∃ written, (tree.writeAll location content).1 = tree.update location (·.withContent written) ∧
      ((tree.writeAll location content).2 = .ok () → written = content) := by
  unfold writeAll
  split
  next room denial _ => exact ⟨content.extract 0 room, rfl, nofun⟩
  next => exact ⟨content, rfl, fun _ => rfl⟩

theorem sets_of_takeMode {temporary : String} (below : location ≠ [])
    (sets : before.Sets opened location content)
    (takes : opened.takeMode location temporary path = .ok filled) :
    before.Sets filled location content := by
  unfold takeMode at takes
  split at takes
  next entry _ =>
    split at takes
    · cases takes
      exact sets.withMode below entry.mode
    · cases takes
  · cases takes
    exact sets
  · cases takes

/-- Filling the temporary file writes its content, or some of it before a failure. -/
theorem sets_of_fill (temporary path : String) (content : ByteArray) (below : location ≠ [])
    (sets : before.Sets opened location ByteArray.empty) :
    ∃ written, before.Sets (opened.fill location temporary path content).1 location written ∧
      ((opened.fill location temporary path content).2 = .ok () → written = content) := by
  unfold fill
  split
  · exact ⟨_, sets, nofun⟩
  split
  · exact ⟨_, sets, nofun⟩
  next locked takes =>
  have ready := sets_of_takeMode below sets takes
  obtain ⟨mode, held⟩ := ready.held
  obtain ⟨some, wrote, all⟩ := exists_writeAll locked location content
  have put : before.Sets (locked.writeAll location content).1 location some :=
    wrote ▸ ready.trans (sets_update below held some)
  split
  next written fault writes =>
    rw [writes] at put
    exact ⟨some, put, nofun⟩
  next written writes =>
    rw [writes] at put all
    have whole := all rfl
    split
    · exact ⟨some, put, nofun⟩
    split
    · exact ⟨some, put, nofun⟩
    · exact ⟨some, put, fun _ => whole⟩

/-- The steps of filling a temporary file to the end. -/
theorem steps_of_fill {temporary : String}
    (fills : opened.fill location temporary path content = (filled, .ok ())) :
    ∃ locked, opened.takeMode location temporary path = .ok locked ∧
      filled = locked.update location (·.withContent content) := by
  unfold fill at fills
  split at fills
  · cases fills
  split at fills
  · cases fills
  next locked takes =>
  refine ⟨locked, takes, ?_⟩
  obtain ⟨some, wrote, all⟩ := exists_writeAll locked location content
  split at fills
  · cases fills
  next written writes =>
  rw [writes] at wrote all
  have whole := all rfl
  split at fills
  · cases fills
  split at fills
  · cases fills
  · cases fills
    exact whole ▸ wrote

/-- A temporary file that is filled holds the content. -/
theorem fill_eq_ok {temporary : String} (below : location ≠ [])
    (sets : before.Sets opened location ByteArray.empty)
    (fills : opened.fill location temporary path content = (filled, .ok ())) :
    before.Sets filled location content := by
  obtain ⟨written, put, all⟩ := sets_of_fill temporary path content below sets
  rw [fills] at put all
  exact all rfl ▸ put

theorem checkName_eq_ok_iff : checkName slot = .ok () ↔ slot.name.utf8ByteSize ≤ nameLimit := by
  unfold checkName
  split
  next long => simp [Nat.not_le.mpr long]
  next short => simp [Nat.not_lt.mp short]

/-- What is moved stands in one slot and goes to another one. -/
theorem slots_of_move {first second : String} (moves : before.move first second = .ok after) :
    ∃ source target entry, before.slot? first = .ok (some source) ∧
      before.slot? second = .ok (some target) ∧ target.name.utf8ByteSize ≤ nameLimit ∧
      before.get? source.location = some entry ∧
      before.checkReplaceable source target entry = .ok () ∧
      after = if before.shares source.location target.location then before
        else if entry.isDirectory then before.relocate source.location target.location
        else before.carry source.location target.location entry := by
  obtain ⟨_ | source, found, moves⟩ := bind_eq_ok_iff.mp moves
  · obtain ⟨_, -, moves⟩ := bind_eq_ok_iff.mp moves
    cases moves
  obtain ⟨_ | target, onto, moves⟩ := bind_eq_ok_iff.mp moves
  · cases moves
  obtain ⟨-, -, moves⟩ := bind_eq_ok_iff.mp moves
  obtain ⟨⟨⟩, named, moves⟩ := bind_eq_ok_iff.mp moves
  obtain ⟨-, -, moves⟩ := bind_eq_ok_iff.mp moves
  refine ⟨source, target, ?_⟩
  cases held : before.get? source.location with
  | none =>
      rw [held] at moves
      cases moves
  | some entry =>
      rw [held] at moves
      obtain ⟨⟨⟩, replaceable, moves⟩ := bind_eq_ok_iff.mp moves
      refine ⟨entry, found, onto, checkName_eq_ok_iff.mp named, rfl, replaceable, ?_⟩
      split at moves
      next same => rw [if_pos same, Except.ok.inj moves]
      next apart =>
        rw [if_neg apart]
        split at moves
        next directory => rw [if_pos directory, Except.ok.inj moves]
        next file => rw [if_neg file, Except.ok.inj moves]

/-- A file does not replace what is at the end of a path with a slash. -/
theorem unslashed_of_checkReplaceable {source target : Slot} {entry : Entry}
    (file : entry.isDirectory = false)
    (replaceable : before.checkReplaceable source target entry = .ok ()) :
    target.slash = false := by
  cases slashed : target.slash with
  | false => rfl
  | true => simp [checkReplaceable, file, slashed] at replaceable

/-- Moving a file puts it into the slot of its new path. -/
theorem move_eq_ok (sets : before.Sets filled source.location content)
    (atMost : before.FileAtMost source.location) {temporary : String}
    (standing : before.slot? temporary = .ok (some source))
    (moves : filled.move temporary path = .ok after) :
    ∃ target, before.slot? path = .ok (some target) ∧ target.slash = false ∧
      target.name.utf8ByteSize ≤ nameLimit ∧ before.Replaces after source target content := by
  obtain ⟨mode, held⟩ := sets.held
  have found := slot?_of_keepsWays (sets.keepsWays atMost) standing
  obtain ⟨source', target, entry, same, reached, short, moved, replaceable, rfl⟩ :=
    slots_of_move moves
  obtain rfl : source = source' := by simpa [found] using same
  obtain rfl : entry = .file content mode := by simpa [held] using moved.symm
  have unslashed := unslashed_of_checkReplaceable rfl replaceable
  refine ⟨target, slot?_of_keepsWays (sets.keepsWays_back atMost) reached, unslashed, short, ?_⟩
  have files (other : Location) (shared : before.shares source.location other = true) :
      before.FileAtMost other ∧ filled.FileAtMost other := by
    by_cases same : source.location = other
    · exact same ▸ ⟨atMost, sets.fileAtMost⟩
    · exact sets.fileAtMost_of_shares same shared
  rw [sets.shared]
  split
  next alike =>
    refine ⟨sets.here, sets.refusals, ?_, fun single => by simp [alike] at single,
      fun first second _ shared => .inl (sets.joined first second shared),
      fun other shared _ => files other shared, fun other single _ => sets.rest other single⟩
    by_cases same : source.location = target.location
    · exact ⟨mode, same ▸ held⟩
    · exact (sets.twins target.location same alike).2
  next alike =>
    have apart : source.location ≠ target.location := by
      rintro same
      simp [same] at alike
    rw [if_neg (by simp [Entry.isDirectory])]
    refine ⟨sets.here, sets.refusals, ⟨mode, get?_put_self _ _ target.location_ne_nil⟩, fun _ => ?_,
      fun first second left shared => ?_, fun other shared second => ⟨(files other shared).1, ?_⟩,
      fun other single second => ?_⟩
    · rw [get?_carry, get?_put_of_ne _ _ (Ne.symm apart), get?_erase_self _ source.location_ne_nil]
    · exact (shares_of_carry held target.location_ne_nil left shared).imp (sets.joined first second)
        (And.imp_right (sets.joined first source.location))
    · intro entry there
      rw [get?_carry, get?_put_of_ne _ _ second, get?_erase_eq_some source.location_ne_nil] at there
      exact (files other shared).2 entry there.2
    · have first : source.location ≠ other := by
        rintro rfl
        simp at single
      rw [get?_carry, get?_put_of_ne _ _ second, get?_erase_of_ne _ first, sets.rest other single]

/-- The steps of a replacement that succeeds. -/
theorem steps_of_replace (written : (tree.replace tag path content).result = .ok ()) :
    ∃ opened location filled,
      (tree.makeParent path).1.truncate (temporary tag path) = .ok (opened, location) ∧
      opened.fill location (temporary tag path) path content = (filled, .ok ()) ∧
      '\x00' ∉ path.toList ∧
      filled.move (temporary tag path) path = .ok (tree.replace tag path content).tree := by
  unfold replace at written ⊢
  rcases made : tree.makeParent path with ⟨base, _ | _⟩
  · simp [made] at written
  simp only [made] at written ⊢
  cases opens : guarded (temporary tag path) (base.truncate (temporary tag path)) with
  | error fault => simp [opens] at written
  | ok state =>
      obtain ⟨opened, location⟩ := state
      simp only [opens] at written ⊢
      rcases fills : opened.fill location (temporary tag path) path content with ⟨filled, _ | _⟩
      · simp only [fills, abandon] at written
        split at written <;> cases written
      · simp only [fills] at written ⊢
        cases moves : guarded path (filled.move (temporary tag path) path) with
        | error fault =>
            simp only [moves, abandon] at written
            split at written <;> cases written
        | ok after =>
            obtain ⟨noNul, moved⟩ := guarded_eq_ok_iff.mp moves
            exact ⟨opened, location, filled, (guarded_eq_ok_iff.mp opens).2, fills, noNul, moved⟩

/-- Where a replacement stops that fails: before it opened the temporary file, or after. -/
theorem stops_of_replace (failed : (tree.replace tag path content).result = .error failure) :
    tree.replace tag path content =
        { tree := (tree.makeParent path).1, result := .error failure, leftover := none } ∨
      ∃ opened location,
        (tree.makeParent path).1.truncate (temporary tag path) = .ok (opened, location) ∧
        '\x00' ∉ (temporary tag path).toList ∧
        ∃ cause, tree.replace tag path content =
          (opened.fill location (temporary tag path) path content).1.abandon (temporary tag path)
            cause := by
  unfold replace at failed ⊢
  rcases made : tree.makeParent path with ⟨base, _ | _⟩
  · simp only [made] at failed ⊢
    cases failed
    exact .inl rfl
  simp only [made] at failed ⊢
  cases opens : guarded (temporary tag path) (base.truncate (temporary tag path)) with
  | error fault =>
      simp only [opens] at failed ⊢
      cases failed
      exact .inl rfl
  | ok state =>
      obtain ⟨opened, location⟩ := state
      obtain ⟨noNul, truncated⟩ := guarded_eq_ok_iff.mp opens
      simp only [opens] at failed ⊢
      refine .inr ⟨opened, location, truncated, noNul, ?_⟩
      rcases fills : opened.fill location (temporary tag path) path content with ⟨filled, cause | _⟩
      · exact ⟨cause, rfl⟩
      · simp only [fills] at failed ⊢
        cases moves : guarded path (filled.move (temporary tag path) path) with
        | error fault => exact ⟨_, rfl⟩
        | ok after => simp [moves] at failed

/-- What a replacement that succeeds comes to, in a tree in which nothing but a file stands at the
temporary name once the directory of the path is made. -/
theorem replace_eq_ok
    (plain : ∀ entry, (tree.makeParent path).1.standing? (temporary tag path) = some entry →
      entry.isFile = true)
    (written : (tree.replace tag path content).result = .ok ()) :
    ∃ source target, (tree.makeParent path).1.slot? (temporary tag path) = .ok (some source) ∧
      (tree.makeParent path).1.slot? path = .ok (some target) ∧ target.slash = false ∧
      target.name.utf8ByteSize ≤ nameLimit ∧ '\x00' ∉ path.toList ∧
      (tree.makeParent path).1.Replaces (tree.replace tag path content).tree source target
        content := by
  obtain ⟨front, name, named⟩ := exists_named_temporary tag path
  obtain ⟨opened, location, filled, opens, fills, noNul, moves⟩ := steps_of_replace written
  obtain ⟨source, found, -, -, rfl, atMost, sets⟩ := truncate_eq_ok named plain opens
  have filledSets := fill_eq_ok source.location_ne_nil sets fills
  obtain ⟨target, reached, unslashed, short, replaces⟩ := move_eq_ok filledSets atMost found moves
  exact ⟨source, target, found, reached, unslashed, short, noNul, replaces⟩

/-- The temporary file stands beside the file that it is to replace. -/
theorem temporary_apart (plain : '/' ∉ tag.toList) (unslashed : target.slash = false)
    (reached : before.slot? path = .ok (some target))
    (standing : before.slot? (temporary tag path) = .ok (some source)) :
    source = ⟨target.directory, temporaryName tag target.name, false⟩ ∧
      source.location ≠ target.location := by
  have checked := (slot?_eq_some_iff.mp standing).1
  have sibling := Tree.slot?_temporary reached unslashed plain checked
  rw [standing, Except.ok.injEq, Option.some.injEq] at sibling
  refine ⟨sibling, ?_⟩
  rw [sibling]
  exact fun same => temporaryName_ne tag target.name (List.cons.inj same).1

namespace Replaces

variable (replaces : before.Replaces after source target content)

include replaces

/-- The ways that do not need the replaced entry stay. -/
theorem keepsWays : (before.erase target.location).KeepsWays after := by
  refine keepsWays_of_fileAtMost replaces.here fun other => ?_
  by_cases replaced : target.location = other
  · refine .inl fun entry held => absurd replaced ?_
    exact ((get?_erase_eq_some target.location_ne_nil).mp held).1
  rw [FileAtMost, get?_erase_of_ne _ replaced]
  cases shared : before.shares source.location other with
  | true => exact .inl (replaces.twins other shared replaced).1
  | false => exact .inr (replaces.rest other shared replaced)

/-- The path has the same slot afterwards. -/
theorem slot? (way : (before.erase target.location).slot? path = .ok (some target)) :
    after.slot? path = .ok (some target) :=
  slot?_of_keepsWays replaces.keepsWays way

omit replaces in
/-- The temporary name has the same slot afterwards. -/
theorem slot?_temporary (plain : '/' ∉ tag.toList) (unslashed : target.slash = false)
    (reached : before.slot? path = .ok (some target))
    (standing : before.slot? (temporary tag path) = .ok (some source))
    (stays : after.slot? path = .ok (some target)) :
    after.slot? (temporary tag path) = .ok (some source) := by
  obtain ⟨sibling, -⟩ := temporary_apart plain unslashed reached standing
  have checked := (slot?_eq_some_iff.mp standing).1
  rw [Tree.slot?_temporary stays unslashed plain checked, ← sibling]

/-- What is no more than a file without other names stays so if it does not stand in the slot that
is replaced. -/
theorem spare (sole : ∀ other, source.location ≠ other →
      before.shares source.location other = false)
    (removed : after.get? source.location = none)
    (stood : ∀ slot, after.slot? path = .ok (some slot) →
      before.slot? path = .ok (some slot) ∧ target.location ≠ slot.location)
    (spare : before.Spare path) : after.Spare path where
  file := by
    intro entry held
    obtain ⟨slot, found, there⟩ := standing?_eq_some_iff.mp held
    obtain ⟨before, elsewhere⟩ := stood slot found
    have aside : source.location ≠ slot.location := by
      intro same
      simp [← same, removed] at there
    rw [replaces.rest _ (sole _ aside) elsewhere] at there
    exact spare.file entry ((standing?_of_slot? before).trans there)
  sole := by
    intro slot other found shared
    obtain ⟨before, elsewhere⟩ := stood slot found
    rcases replaces.joined _ _ elsewhere shared with shared | ⟨-, moved⟩
    · exact spare.sole slot other before shared
    · -- the file that was moved had no other name
      rw [spare.sole slot _ before moved, shares_of_absent removed] at shared
      exact (spare.sole slot _ before moved).trans (of_decide_eq_true shared)

end Replaces

/-- A path reads the text that replaced its content. -/
theorem readText_replaceText (clear : (tree.makeParent path).1.Clear tag path)
    (written : (tree.replaceText tag path text).result = .ok ()) :
    (tree.replaceText tag path text).tree.readText path = .ok text := by
  obtain ⟨source, target, -, reached, unslashed, short, noNul, replaces⟩ :=
    replace_eq_ok clear.temporary written
  obtain ⟨mode, held⟩ := replaces.held
  exact readText_of_slot? (replaces.slot? (clear.way target reached)) unslashed short noNul
    held

/-- A path that reads a text reads the text that replaced it. -/
theorem readText_replaceText_of_readText {old : String} (read : tree.readText path = .ok old)
    (plain : ∀ entry, tree.standing? (temporary tag path) = some entry → entry.isFile = true)
    (written : (tree.replaceText tag path text).result = .ok ()) :
    (tree.replaceText tag path text).tree.readText path = .ok text := by
  obtain ⟨location, placed, -⟩ := place_of_readText read
  refine readText_replaceText ?_ written
  rw [makeParent_of_place placed]
  exact clear_of_readText read plain

/-- What a replacement that fails may leave of its temporary file, in terms of the tree with the
directory of the path made. -/
inductive Leaves (base : Tree) (temporary : String) (replacement : Replacement) : Prop where
  /-- It was not opened. -/
  | unopened (tree : replacement.tree = base) (leftover : replacement.leftover = none)
  /-- It was removed. -/
  | removed {slot : Slot} {written : ByteArray} {left : Tree}
      (found : base.slot? temporary = .ok (some slot)) (atMost : base.FileAtMost slot.location)
      (sets : base.Sets left slot.location written)
      (tree : replacement.tree = left.erase slot.location) (leftover : replacement.leftover = none)
  /-- Its removal was refused. -/
  | kept {slot : Slot} {written : ByteArray} {denial : Denial}
      (found : base.slot? temporary = .ok (some slot)) (atMost : base.FileAtMost slot.location)
      (sets : base.Sets replacement.tree slot.location written)
      (refused : base.refusals.calls .unlink slot.location = some denial)
      (leftover : replacement.leftover = some ⟨temporary, .system (.denied denial)⟩)

/-- A replacement that fails leaves no more than a file at the temporary name, if nothing but a file
was there. -/
theorem leaves_of_error
    (plain : ∀ entry, (tree.makeParent path).1.standing? (temporary tag path) = some entry →
      entry.isFile = true)
    (failed : (tree.replace tag path content).result = .error failure) :
    (tree.makeParent path).1.Leaves (temporary tag path) (tree.replace tag path content) := by
  obtain ⟨front, name, named⟩ := exists_named_temporary tag path
  rcases stops_of_replace failed with stopped | ⟨opened, location, opens, noNul, cause, stopped⟩
  · exact .unopened (congrArg Replacement.tree stopped) (congrArg Replacement.leftover stopped)
  obtain ⟨slot, found, unslashed, short, rfl, atMost, sets⟩ := truncate_eq_ok named plain opens
  obtain ⟨written, sets, -⟩ :=
    sets_of_fill (temporary tag path) path content slot.location_ne_nil sets
  generalize (opened.fill slot.location (temporary tag path) path content).1 = left at sets stopped
  obtain ⟨mode, held⟩ := sets.held
  have still := slot?_of_keepsWays (sets.keepsWays atMost) found
  rcases allow_eq_ok_or left .unlink slot.location with allowed | ⟨denial, refused⟩
  · have removes : left.removeFile (temporary tag path) = .ok (left.erase slot.location) := by
      simp [removeFile, still, allowed, checkName, Nat.not_lt.mpr short, held, unslashed, bind,
        Except.bind]
    rw [abandon, guarded_eq_ok_iff.mpr ⟨noNul, removes⟩] at stopped
    exact .removed found atMost sets (congrArg Replacement.tree stopped)
      (congrArg Replacement.leftover stopped)
  · have fails : guarded (temporary tag path) (left.removeFile (temporary tag path)) =
        .error (.system (.denied denial)) := by
      have noNul : (temporary tag path).toList.contains '\x00' = false := by simpa using noNul
      rw [guarded, noNul, if_neg Bool.false_ne_true]
      simp [removeFile, still, refused, checkName, Nat.not_lt.mpr short, bind, Except.bind,
        Except.mapError]
    rw [abandon, fails] at stopped
    have refusal : left.refusals.calls .unlink slot.location = some denial := by
      unfold allow at refused
      split at refused
      next other denied =>
        cases refused
        exact denied
      next => cases refused
    have same : (tree.replace tag path content).tree = left := congrArg Replacement.tree stopped
    exact .kept found atMost (same.symm ▸ sets) (sets.refusals ▸ refusal)
      (congrArg Replacement.leftover stopped)

namespace Leaves

variable {base : Tree} {temporary : String} {replacement : Replacement}
  (leaves : base.Leaves temporary replacement)

include leaves

theorem here : replacement.tree.here = base.here := by
  cases leaves with
  | unopened tree => rw [tree]
  | removed _ _ sets tree => rw [tree]; exact sets.here
  | kept _ _ sets => exact sets.here

/-- Each location holds what it held, or is a name of the temporary file. -/
theorem fileAtMost_or_same (other : Location) :
    base.FileAtMost other ∧ replacement.tree.FileAtMost other ∨
      replacement.tree.get? other = base.get? other := by
  cases leaves with
  | unopened tree => exact .inr (by rw [tree])
  | @removed slot written left _ atMost sets tree =>
      rw [tree]
      by_cases gone : slot.location = other
      · subst gone
        refine .inl ⟨atMost, fun entry held => ?_⟩
        simp [get?_erase_self _ slot.location_ne_nil] at held
      · rw [FileAtMost, FileAtMost, get?_erase_of_ne _ gone]
        exact sets.fileAtMost_or_same atMost other
  | kept _ atMost sets => exact sets.fileAtMost_or_same atMost other

theorem keepsWays : base.KeepsWays replacement.tree :=
  keepsWays_of_fileAtMost leaves.here fun other =>
    (leaves.fileAtMost_or_same other).imp_left And.left

theorem keepsWays_back : replacement.tree.KeepsWays base :=
  keepsWays_of_fileAtMost leaves.here.symm fun other =>
    (leaves.fileAtMost_or_same other).imp And.right Eq.symm

theorem joined {first second : Location} (shared : replacement.tree.shares first second = true) :
    base.shares first second = true := by
  cases leaves with
  | unopened tree => exact tree ▸ shared
  | removed _ _ sets tree => exact sets.joined first second (shares_of_erase (tree ▸ shared))
  | kept _ _ sets => exact sets.joined first second shared

/-- What is no more than a file without other names stays so. -/
theorem spare (spare : base.Spare path) : replacement.tree.Spare path where
  file := by
    intro entry held
    obtain ⟨slot, found, there⟩ := standing?_eq_some_iff.mp held
    have before := slot?_of_keepsWays leaves.keepsWays_back found
    rcases leaves.fileAtMost_or_same slot.location with ⟨-, atMost⟩ | same
    · exact atMost entry there
    · exact spare.file entry ((standing?_of_slot? before).trans (same.symm.trans there))
  sole := fun slot other found shared =>
    spare.sole slot other (slot?_of_keepsWays leaves.keepsWays_back found) (leaves.joined shared)

/-- What is not under a name of the temporary file stays. -/
theorem get?_of_not_shares {other : Location}
    (apart : ∀ slot, base.slot? temporary = .ok (some slot) →
      base.shares slot.location other = false) :
    replacement.tree.get? other = base.get? other := by
  cases leaves with
  | unopened tree => rw [tree]
  | @removed slot _ _ found _ sets tree =>
      have elsewhere : slot.location ≠ other := by
        rintro rfl
        simpa using apart slot found
      rw [tree, get?_erase_of_ne _ elsewhere]
      exact sets.rest other (apart slot found)
  | @kept slot _ _ found _ sets => exact sets.rest other (apart slot found)

/-- A new temporary file that is removed leaves the tree as it was. -/
theorem same (absent : base.standing? temporary = none) (clean : replacement.leftover = none) :
    base.Same replacement.tree := by
  cases leaves with
  | unopened tree => exact tree ▸ .refl base
  | @removed slot _ _ found _ sets tree =>
      rw [tree]
      exact sets.same_erase slot.location_ne_nil ((standing?_of_slot? found).symm.trans absent)
  | kept _ _ _ _ leftover => simp [clean] at leftover

end Leaves

end ManifestPin.Tree
