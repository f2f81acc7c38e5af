import ManifestPin.Proofs.Files.Slot

/-! # Making directories

Making the directory of a path adds directories and nothing else, and adds none when the path has
a slot already.
-/

namespace ManifestPin.Tree

open ManifestPin.Path (Named)

variable {tree before after : Tree} {path : String} {location : Location} {slot : Slot}

theorem create_eq_ok {entry : Entry} (created : before.create path entry = .ok after) :
    ∃ slot, before.slot? path = .ok (some slot) ∧ before.get? slot.location = none ∧
      after = before.put slot.location entry := by
  obtain ⟨reached, found, created⟩ := bind_eq_ok_iff.mp created
  cases reached with
  | none => cases created
  | some slot =>
      obtain ⟨-, -, created⟩ := bind_eq_ok_iff.mp created
      cases held : before.get? slot.location with
      | some entry =>
          rw [held] at created
          cases created
      | none =>
          rw [held] at created
          cases created
          exact ⟨slot, found, held, rfl⟩

theorem create_of_makeDirectory (made : before.makeDirectory path = .ok after) :
    before.create path (.directory directoryMode) = .ok after := by
  obtain ⟨reached, -, made⟩ := bind_eq_ok_iff.mp made
  cases reached with
  | none => cases made
  | some slot =>
      obtain ⟨-, -, made⟩ := bind_eq_ok_iff.mp made
      exact made

/-- A tree in which another one has no more than new directories, each at the end of one of some
paths. -/
structure Makes (before after : Tree) (paths : List String) : Prop where
  here : after.here = before.here
  refusals : after.refusals = before.refusals
  get? : ∀ location, after.get? location = before.get? location ∨
    before.get? location = none ∧ after.get? location = some (.directory directoryMode) ∧
      ∃ path ∈ paths, ∃ slot, after.slot? path = .ok (some slot) ∧ slot.location = location

namespace Makes

variable {later : Tree} {paths more : List String}

theorem refl (tree : Tree) (paths : List String) : tree.Makes tree paths :=
  ⟨rfl, rfl, fun _ => .inl rfl⟩

theorem addsDirectories (makes : before.Makes after paths) : before.AddsDirectories after := by
  refine ⟨makes.here, fun location => ?_⟩
  rcases makes.get? location with same | ⟨absent, added, -⟩
  · exact .inl same
  · exact .inr ⟨absent, added⟩

theorem within (makes : before.Makes after paths) : before.Within after := by
  refine ⟨makes.here, fun location entry held => ?_⟩
  rcases makes.get? location with same | ⟨absent, -⟩
  · rw [same, held]
  · simp [absent] at held

theorem mono (makes : before.Makes after paths) (among : ∀ path ∈ paths, path ∈ more) :
    before.Makes after more := by
  refine ⟨makes.here, makes.refusals, fun location => ?_⟩
  rcases makes.get? location with same | ⟨absent, added, path, member, reached⟩
  · exact .inl same
  · exact .inr ⟨absent, added, path, among path member, reached⟩

theorem trans (first : before.Makes after paths) (second : after.Makes later paths) :
    before.Makes later paths := by
  refine ⟨second.here.trans first.here, second.refusals.trans first.refusals, fun location => ?_⟩
  rcases second.get? location with same | ⟨absent, added, reached⟩
  · rcases first.get? location with kept | ⟨absent, added, path, member, slot, found, stands⟩
    · exact .inl (same.trans kept)
    · have still := slot?_of_keepsWays second.within.keepsWays found
      exact .inr ⟨absent, same.trans added, path, member, slot, still, stands⟩
  · rcases first.get? location with kept | ⟨-, present, -⟩
    · exact .inr ⟨kept ▸ absent, added, reached⟩
    · simp [present] at absent

end Makes

/-- A new directory is all that making it adds. -/
theorem makes_makeDirectory {paths : List String} (member : path ∈ paths)
    (made : before.makeDirectory path = .ok after) : before.Makes after paths := by
  obtain ⟨slot, found, absent, rfl⟩ := create_eq_ok (create_of_makeDirectory made)
  have below := slot.location_ne_nil
  have keeps : before.KeepsWays (before.put slot.location (.directory directoryMode)) := by
    refine keepsWays_of_fileAtMost rfl fun other => ?_
    by_cases same : slot.location = other
    · exact .inl fun entry held => by simp [← same, absent] at held
    · exact .inr (get?_put_of_ne before _ same)
  refine ⟨rfl, rfl, fun location => ?_⟩
  by_cases same : slot.location = location
  · subst same
    have still := slot?_of_keepsWays keeps found
    exact .inr ⟨absent, get?_put_self before _ below, path, member, slot, still, rfl⟩
  · exact .inl (get?_put_of_ne before _ same)

theorem makes_makeDirectories (tree : Tree) (paths : List String) :
    tree.Makes (tree.makeDirectories paths).1 paths := by
  induction paths with
  | nil => exact .refl tree []
  | cons path above ih =>
      have first : path ∈ path :: above := List.mem_cons_self
      have enclosing := ih.mono fun other member => List.mem_cons_of_mem path member
      unfold makeDirectories
      split
      · exact .refl tree _
      split
      next made => exact makes_makeDirectory first (guarded_eq_ok_iff.mp made).2
      next =>
        split
        next refused => rwa [refused] at enclosing
        next completed =>
          rw [completed] at enclosing
          split
          next made =>
            exact enclosing.trans (makes_makeDirectory first (guarded_eq_ok_iff.mp made).2)
          next => exact enclosing
      next => exact .refl tree _

/-- The directories that contain a path, innermost first. -/
def enclosingDirectories (path : String) : List String :=
  match Path.parent? path with
  | none => []
  | some parent => Path.enclosing parent

/-- Making the directory of a path adds no more than directories that contain it. -/
theorem makes_makeParent (tree : Tree) (path : String) :
    tree.Makes (tree.makeParent path).1 (enclosingDirectories path) := by
  unfold makeParent enclosingDirectories
  cases Path.parent? path with
  | none => exact .refl tree []
  | some parent => exact makes_makeDirectories tree (Path.enclosing parent)

/-- A path that leads somewhere is refused for its length only, or has a slot whose entry is
there, or none at all. -/
theorem slot?_of_leads (nonempty : path ≠ "")
    (leads : tree.Leads linkLimit (tree.start path) (Path.pieces path) (.found location)) :
    tree.slot? path = .error .nameTooLong ∨ tree.slot? path = .ok none ∨
      ∃ slot entry, tree.slot? path = .ok (some slot) ∧
        tree.get? slot.location = some entry := by
  cases checked : checkPath path with
  | error fault =>
      left
      rw [checkPath, if_neg nonempty] at checked
      split at checked
      · cases checked
        rw [slot?, checkPath, if_neg nonempty, if_pos ‹_›]
        rfl
      · cases checked
  | ok =>
      right
      have cut := List.takeWhile_append_dropWhile (p := (· = "")) (l := (Path.pieces path).reverse)
      cases ending : (Path.pieces path).reverse.dropWhile (· = "") with
      | nil => exact .inl (by simp [slot?, checked, ending, bind, Except.bind])
      | cons last before =>
          generalize (Path.pieces path).reverse.takeWhile (· = "") = blanks at cut
          rw [ending, eq_comm, List.reverse_eq_iff, List.reverse_append, List.reverse_cons,
            List.append_assoc, List.singleton_append] at cut
          rw [cut] at leads
          obtain ⟨directory, fewer, first, holds, onward⟩ :=
            leads.append_inv (List.cons_ne_nil _ _)
          by_cases dots : last = "." ∨ last = ".."
          · exact .inl (by simp [slot?, checked, ending, first.walk, holds, dots, bind,
              Except.bind])
          obtain ⟨notHere, notUp⟩ := not_or.mp dots
          have stop := List.head?_dropWhile_not (· = "") (Path.pieces path).reverse
          rw [ending] at stop
          have named : last ≠ "" := by simpa using stop
          have found : tree.slot? path = .ok (some ⟨directory, last, Path.endsWithSlash path⟩) :=
            slot?_eq_some_iff.mpr ⟨checked, rfl, notHere, notUp, before.reverse, by simpa using ending,
              first, holds⟩
          generalize blanks.reverse = trailing at onward
          cases onward with
          | skip _ unnamed =>
              rcases Path.isNaming_eq_false.mp unnamed with empty | dot
              · exact absurd empty named
              · exact absurd dot notHere
          | up => exact absurd rfl notUp
          | follow _ _ held => exact .inr ⟨_, _, found, held⟩
          | down _ _ held => exact .inr ⟨_, _, found, held⟩

/-- Nothing is created where a path leads to something, and not because a directory is missing. -/
theorem makeDirectory_of_leads (nonempty : path ≠ "")
    (leads : tree.Leads linkLimit (tree.start path) (Path.pieces path) (.found location)) :
    ∃ fault, tree.makeDirectory path = .error fault ∧ fault ≠ .noEntry := by
  unfold makeDirectory create
  rcases slot?_of_leads nonempty leads with refused | none | ⟨slot, entry, found, held⟩
  · exact ⟨.nameTooLong, by rw [refused]; rfl, nofun⟩
  · exact ⟨.exists, by rw [none]; rfl, nofun⟩
  rcases allow_eq_ok_or tree .makeDirectory slot.location with allowed | ⟨denial, refused⟩
  · by_cases long : nameLimit < slot.name.utf8ByteSize
    · exact ⟨.nameTooLong, by simp [found, allowed, checkName, long, bind, Except.bind], nofun⟩
    · exact ⟨.exists, by simp [found, allowed, checkName, long, held, bind, Except.bind], nofun⟩
  · exact ⟨.denied denial, by simp [found, refused, bind, Except.bind], nofun⟩

theorem isDirectory_of_leads (checked : checkPath path = .ok ())
    (leads : tree.Leads linkLimit (tree.start path) (Path.pieces path) (.found location))
    (holds : tree.holdsDirectory location = true) : tree.isDirectory path = true := by
  obtain ⟨mode, held⟩ := holdsDirectory_iff.mp holds
  have found := entry_eq_ok_iff.mpr ⟨location, place_eq_ok_iff.mpr ⟨checked, leads⟩, held⟩
  rw [isDirectory, found]
  rfl

/-- The directory of a path is there already when the pieces in front of its last name lead to
one, and found to be there if its path is not too long. -/
theorem makeParent_of_leads {front trailing : List String} {name : String}
    (cut : Path.pieces path = front ++ name :: trailing) (naming : Path.isNaming name = true)
    (blank : ∀ piece ∈ trailing, Path.isNaming piece = false)
    (leads : tree.Leads linkLimit (tree.start path) front (.found location))
    (holds : tree.holdsDirectory location = true) :
    (tree.makeParent path).1 = tree ∧
      ((∀ parent, Path.parent? path = some parent → parent.utf8ByteSize < pathLimit) →
        (tree.makeParent path).2 = .ok ()) := by
  obtain ⟨parent, kept, dropped, rfl, unnamed, last, directory, -⟩ :=
    Path.lastComponent?_of_pieces cut naming blank
  unfold makeParent
  rw [Path.parent?, last]
  obtain ⟨above, innermost⟩ : ∃ above, Path.enclosing parent = parent :: above := by
    unfold Path.enclosing Path.enclosingUpTo
    split <;> exact ⟨_, rfl⟩
  simp only [Option.map_some, innermost, makeDirectories]
  split
  · exact ⟨rfl, fun _ => rfl⟩
  next nonempty =>
  obtain ⟨rooted, slashes, empty, whole⟩ := directory.resolve_left nonempty
  have leads : tree.Leads linkLimit (tree.start parent) (Path.pieces parent)
      (.found location) := by
    rw [whole, start, rooted]
    exact (leads.dropUnnamed unnamed).append fun fewer => .of_unnamed holds empty
  obtain ⟨fault, refused, present⟩ := makeDirectory_of_leads nonempty leads
  obtain ⟨cause, why, other⟩ : ∃ cause, guarded parent (tree.makeDirectory parent) = .error cause ∧
      cause ≠ .system .noEntry := by
    rw [guarded, refused]
    split
    · exact ⟨.nulInPath, rfl, by simp⟩
    · exact ⟨.system fault, rfl, by simpa using present⟩
  rw [why]
  split
  next same => cases same
  next same => exact absurd (Except.error.inj same) other
  next =>
    refine ⟨rfl, fun short => ?_⟩
    have checked : checkPath parent = .ok () := by
      rw [checkPath, if_neg nonempty, if_neg (Nat.not_le.mpr (short parent rfl))]
    rw [isDirectory_of_leads checked leads holds]
    rfl

/-- The directory of a path with a slot is there already. -/
theorem makeParent_of_slot? (found : tree.slot? path = .ok (some slot))
    (unslashed : slot.slash = false) : (tree.makeParent path).1 = tree := by
  obtain ⟨front, named, -, leads, holds⟩ := named_of_slot? found unslashed
  exact (makeParent_of_leads named.pieces named.naming nofun leads holds).1

/-- The directory of a path that leads somewhere is there already. -/
theorem makeParent_of_place (placed : tree.place path = .ok (.found location)) :
    (tree.makeParent path).1 = tree := by
  obtain ⟨-, leads⟩ := place_eq_ok_iff.mp placed
  cases cut : Path.pieces path with
  | nil => exact absurd cut (Path.pieces_ne_nil path)
  | cons first rest =>
      obtain ⟨trailing, whole, blank⟩ := Path.dropUnnamed_append rest
      rcases List.eq_nil_or_concat (Path.dropUnnamed rest) with none | ⟨middle, name, kept⟩
      · -- a single component has no directory to be made
        have alone : Path.enclosing "" = [""] := by decide +kernel
        by_cases root : first = "" <;>
          simp [makeParent, Path.parent?, Path.lastComponent?, cut, none, root, alone,
            makeDirectories]
      · rw [List.concat_eq_append] at kept
        have naming := Path.naming_of_dropUnnamed kept
        have pieces : Path.pieces path = (first :: middle) ++ name :: trailing := by
          rw [cut, whole, kept]
          simp
        rw [pieces] at leads
        obtain ⟨directory, -, onward, holds, -⟩ := leads.append_inv (List.cons_ne_nil _ _)
        exact (makeParent_of_leads pieces naming blank onward holds).1

end ManifestPin.Tree
