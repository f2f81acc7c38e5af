import ManifestPin.Proofs.Files.Replacement

/-! # Once the temporary file is open

Opening and filling a temporary file, whatever its name leads to, changes one file and nothing else,
so the way to a path that reads a file stays, and so does the temporary name. Where the file system
refuses nothing, nothing is then left that could stop the move.
-/

namespace ManifestPin

/-- A change of what is in files, which leaves other entries as they are. Directories may change. -/
structure Entry.Fills (change : Entry → Entry) : Prop extends Entry.KeepsKind change where
  file : ∀ content mode, (change (.file content mode)).isFile = true
  link : ∀ target, change (.link target) = .link target
  sink : change .sink = .sink

theorem Entry.fills_withContent (content : ByteArray) : Entry.Fills (·.withContent content) :=
  { Entry.keepsKind_withContent content with
    file := fun _ _ => rfl, link := fun _ => rfl, sink := rfl }

theorem Entry.fills_withMode (mode : Nat) : Entry.Fills (·.withMode mode) :=
  { Entry.keepsKind_withMode mode with
    file := fun _ _ => rfl, link := fun _ => rfl, sink := rfl }

namespace Tree

open ManifestPin.Path (Named)

variable {tree before after later opened filled : Tree} {tag path text : String}
  {content : ByteArray} {links : Nat} {pieces front : List String}
  {location directory destination other : Location} {name : String} {entry : Entry}
  {slot onto : Slot} {change : Entry → Entry}

/-- A tree in which each entry of another one stays, except that one file may have been written,
under all its names, or created. -/
structure Rewrites (before after : Tree) (location : Location) : Prop where
  here : after.here = before.here
  refusals : after.refusals = before.refusals
  plain : after.holdsDirectory location = false
  shared : ∀ other, after.shares location other = before.shares location other
  held : ∀ other entry, before.get? other = some entry →
    after.get? other = some entry ∨
      entry.isFile = true ∧ ∃ new, after.get? other = some new ∧ new.isFile = true
  rest : ∀ other, before.shares location other = false → after.get? other = before.get? other

namespace Rewrites

theorem refl (plain : tree.holdsDirectory location = false) : tree.Rewrites tree location :=
  ⟨rfl, rfl, plain, fun _ => rfl, fun _ _ held => .inl held, fun _ _ => rfl⟩

theorem trans (first : before.Rewrites after location) (second : after.Rewrites later location) :
    before.Rewrites later location where
  here := second.here.trans first.here
  refusals := second.refusals.trans first.refusals
  plain := second.plain
  shared := fun other => (second.shared other).trans (first.shared other)
  held := by
    intro other entry held
    rcases first.held other entry held with same | ⟨file, new, written, isFile⟩
    · exact second.held other entry same
    · rcases second.held other new written with same | ⟨-, again⟩
      · exact .inr ⟨file, new, same, isFile⟩
      · exact .inr ⟨file, again⟩
  rest := fun other single =>
    (second.rest other ((first.shared other).trans single)).trans (first.rest other single)

theorem keepsWays (rewrites : before.Rewrites after location) : before.KeepsWays after where
  here := rewrites.here
  directories := by
    intro other holds
    obtain ⟨mode, held⟩ := holdsDirectory_iff.mp holds
    rcases rewrites.held other _ held with same | ⟨file, -⟩
    · exact holdsDirectory_iff.mpr ⟨mode, same⟩
    · cases file
  links := by
    intro other target held
    rcases rewrites.held other _ held with same | ⟨file, -⟩
    · exact same
    · cases file

/-- What is no directory stays so. -/
theorem exists_held (rewrites : before.Rewrites after location)
    (held : before.get? other = some entry) (noDirectory : entry.isDirectory = false) :
    ∃ new, after.get? other = some new ∧ new.isDirectory = false := by
  rcases rewrites.held other entry held with same | ⟨-, new, written, file⟩
  · exact ⟨entry, same, noDirectory⟩
  · refine ⟨new, written, ?_⟩
    cases new with
    | file => rfl
    | directory | link | sink => cases file

end Rewrites

/-- The names of what is no directory are those of no directory. -/
theorem holdsDirectory_of_shares (shared : tree.shares location other = true)
    (plain : tree.holdsDirectory location = false) : tree.holdsDirectory other = false := by
  by_cases same : location = other
  · exact same ▸ plain
  cases held : tree.get? location with
  | none =>
      rw [shares_of_absent held, decide_eq_true_iff] at shared
      exact absurd shared same
  | some entry =>
      obtain ⟨new, there, alike⟩ := isLike_of_shares shared same held
      simp only [holdsDirectory, there, Option.any_some]
      cases new with
      | directory => cases entry <;> cases alike
      | file | link | sink => rfl

/-- What is changed is still no directory. -/
theorem holdsDirectory_update (fills : Entry.Fills change)
    (plain : before.holdsDirectory location = false) :
    (before.update location change).holdsDirectory location = false := by
  have root : location ≠ [] := by
    rintro rfl
    cases plain
  rw [holdsDirectory, get?_update before root, if_pos (shares_self before location)]
  cases held : before.get? location with
  | none => rfl
  | some entry =>
      cases entry with
      | file content mode =>
          have file := fills.file content mode
          cases changed : change (.file content mode) with
          | file => simp [changed, Entry.isDirectory]
          | directory | link | sink => simp [changed, Entry.isFile] at file
      | directory => simp [holdsDirectory, held, Entry.isDirectory] at plain
      | link target => simp [fills.link, Entry.isDirectory]
      | sink => simp [fills.sink, Entry.isDirectory]

/-- A change of one file rewrites the tree. -/
theorem rewrites_update (fills : Entry.Fills change)
    (plain : before.holdsDirectory location = false) :
    before.Rewrites (before.update location change) location where
  here := rfl
  refusals := rfl
  plain := holdsDirectory_update fills plain
  shared := shares_update fills.toKeepsKind location
  held := by
    intro other entry held
    cases shared : before.shares location other with
    | false => exact .inl ((get?_update_of_not_shares shared change).trans held)
    | true =>
        have noDirectory := holdsDirectory_of_shares shared plain
        have root : other ≠ [] := by
          rintro rfl
          cases noDirectory
        have changed : (before.update location change).get? other = some (change entry) := by
          rw [get?_update before root, if_pos shared, held, Option.map_some]
        cases entry with
        | file content mode => exact .inr ⟨rfl, _, changed, fills.file content mode⟩
        | directory => simp [holdsDirectory, held, Entry.isDirectory] at noDirectory
        | link target => exact .inl (changed.trans (congrArg some (fills.link target)))
        | sink => exact .inl (changed.trans (congrArg some fills.sink))
  rest := fun other single => get?_update_of_not_shares single change

/-- A walk ends with a name in a directory only where that name has no entry. -/
theorem Leads.get?_vacant (leads : tree.Leads links location pieces (.vacant directory name)) :
    tree.get? (name :: directory) = none := by
  generalize ended : Place.vacant directory name = place at leads
  induction leads with
  | stop => cases ended
  | skip _ _ _ ih | up _ _ ih | follow _ _ _ _ ih | down _ _ _ _ _ ih => exact ih ended
  | vacant _ _ absent =>
      cases ended
      exact absent

/-- Opening a path to be written takes the content of the file that it leads to and changes no other
entry. -/
theorem get?_of_truncate (opens : before.truncate path = .ok (opened, location))
    (held : before.get? other = some entry) :
    before.shares location other = false ∧ opened.get? other = some entry ∨
      before.place path = .ok (.found location) ∧ before.shares location other = true ∧
        opened.get? other = some (entry.withContent ByteArray.empty) := by
  rcases cases_of_truncate opens with ⟨directory, name, placed, rfl, rfl⟩ | ⟨placed, plain, rfl⟩
  · have absent := (place_eq_ok_iff.mp placed).2.get?_vacant
    have apart : name :: directory ≠ other := by
      rintro rfl
      simp [absent] at held
    refine .inl ⟨?_, (get?_put_of_ne before _ apart).trans held⟩
    exact (shares_of_absent absent other).trans (decide_eq_false apart)
  · cases shared : before.shares location other with
    | false => exact .inl ⟨rfl, (get?_update_of_not_shares shared _).trans held⟩
    | true =>
        have root : other ≠ [] := by
          rintro rfl
          cases holdsDirectory_of_shares shared plain
        refine .inr ⟨placed, rfl, ?_⟩
        rw [get?_update before root, if_pos shared, held, Option.map_some]

/-- Opening a path to be written rewrites the tree. -/
theorem rewrites_of_truncate (opens : before.truncate path = .ok (opened, location)) :
    before.Rewrites opened location := by
  rcases cases_of_truncate opens with ⟨directory, name, placed, rfl, rfl⟩ | ⟨-, plain, rfl⟩
  · have absent := (place_eq_ok_iff.mp placed).2.get?_vacant
    have below := List.cons_ne_nil name directory
    have sets := sets_put below absent ByteArray.empty fileMode
    refine ⟨rfl, rfl, ?_, sets.shared, fun other entry held => ?_, sets.rest⟩
    · simp [holdsDirectory, get?_put_self before _ below, Entry.isDirectory]
    · exact .inl ((sets.within absent).held other entry held)
  · exact rewrites_update (Entry.fills_withContent ByteArray.empty) plain

/-- Filling a temporary file rewrites the tree. -/
theorem rewrites_of_fill {temporary : String} (plain : opened.holdsDirectory location = false)
    (fills : opened.fill location temporary path content = (filled, .ok ())) :
    opened.Rewrites filled location := by
  obtain ⟨locked, takes, rfl⟩ := steps_of_fill fills
  have first : opened.Rewrites locked location := by
    unfold takeMode at takes
    split at takes
    next entry _ =>
      split at takes
      · cases takes
        exact rewrites_update (Entry.fills_withMode entry.mode) plain
      · cases takes
    · cases takes
      exact .refl plain
    · cases takes
  exact first.trans (rewrites_update (Entry.fills_withContent content) first.plain)

/-- The temporary file for a path that ends with two dots is in the directory that the path leads
to. -/
theorem leads_of_truncate_up (cut : Path.pieces path = front ++ [".."])
    (opens : tree.truncate (temporary tag path) = .ok (opened, directory)) :
    ∃ reached, tree.Leads linkLimit (tree.start path) (Path.pieces path) (.found reached) ∧
      tree.holdsDirectory reached = true := by
  obtain ⟨parent, -, -, -, -, last, -⟩ :=
    Path.lastComponent?_of_pieces cut (show Path.isNaming ".." = true by decide) nofun
  have unslashed : Path.endsWithSlash path = false := by
    simp [Path.endsWithSlash_of_pieces cut]
  have nonempty : path ≠ "" := by
    rintro rfl
    have blank : Path.pieces "" = [] ++ [""] := Path.pieces_of_not_mem (by simp)
    exact absurd (List.append_inj' (blank.symm.trans cut) rfl).2 (by decide)
  have inside : temporary tag path = path ++ "/" ++ (".." ++ tag ++ ".tmp") := by
    simp [temporary, Path.withFileName, Path.fileName?, last, Path.join, Path.isRooted, nonempty,
      unslashed]
  obtain ⟨place, placed, -⟩ := bind_eq_ok_iff.mp opens
  obtain ⟨-, leads⟩ := place_eq_ok_iff.mp placed
  have rooted : Path.isRooted (temporary tag path) = Path.isRooted path := by
    rw [inside, Path.isRooted, Path.isRooted, String.toList_append, String.toList_append]
    cases characters : path.toList with
    | nil => exact absurd (String.toList_eq_nil_iff.mp characters) nonempty
    | cons => rfl
  rw [start, rooted, inside, Path.pieces_append_slash] at leads
  obtain ⟨reached, -, first, holds, -⟩ := leads.append_inv (Path.pieces_ne_nil _)
  exact ⟨reached, first, holds⟩

/-- A path that leads to something other than a directory ends with a name, if its temporary file
can be opened. -/
theorem named_of_truncate (placed : tree.place path = .ok (.found location))
    (noDirectory : tree.holdsDirectory location ≠ true)
    (opens : tree.truncate (temporary tag path) = .ok (opened, directory)) :
    ∃ front name, Named path front name := by
  obtain ⟨-, leads⟩ := place_eq_ok_iff.mp placed
  obtain ⟨front, last, cut⟩ := Path.exists_last_piece path
  by_cases up : last = ".."
  · -- the temporary file would be in what the path leads to, which is no directory
    subst up
    obtain ⟨reached, onto, holds⟩ := leads_of_truncate_up cut opens
    cases onto.unique leads
    exact absurd holds noDirectory
  refine ⟨front, last, cut, ?_, up⟩
  rw [cut] at leads
  obtain ⟨directory, fewer, -, holds, onward⟩ := leads.append_inv (List.cons_ne_nil _ _)
  by_contra unnamed
  cases onward.stays (by simpa using unnamed)
  exact noDirectory holds

/-- A path that ends with the name of an entry that is no directory. -/
structure Names (tree : Tree) (path : String) (slot : Slot) : Prop where
  found : tree.slot? path = .ok (some slot)
  unslashed : slot.slash = false
  short : slot.name.utf8ByteSize ≤ nameLimit
  held : ∃ entry, tree.get? slot.location = some entry ∧ entry.isDirectory = false

theorem Names.of_rewrites (names : before.Names path slot)
    (rewrites : before.Rewrites after location) : after.Names path slot where
  found := slot?_of_keepsWays rewrites.keepsWays names.found
  unslashed := names.unslashed
  short := names.short
  held := by
    obtain ⟨entry, held, noDirectory⟩ := names.held
    exact rewrites.exists_held held noDirectory

/-- A path that ends with a name and leads to something other than a directory. -/
theorem exists_names (named : Named path front name)
    (placed : tree.place path = .ok (.found location))
    (noDirectory : tree.holdsDirectory location ≠ true) : ∃ slot, tree.Names path slot := by
  obtain ⟨directory, fewer, found, -, last⟩ := leads_of_place named placed
  obtain ⟨short, step⟩ := last.lastStep named.naming named.notUp
  refine ⟨_, found, rfl, short, ?_⟩
  rcases step with ⟨-, ended⟩ | ⟨target, _, held, -⟩ | ⟨entry, held, -, ended⟩
  · cases ended
  · exact ⟨_, held, rfl⟩
  · cases ended
    exact ⟨entry, held, by simpa [holdsDirectory, held] using noDirectory⟩

/-- What was opened to be written stands at the end of its path. -/
theorem names_of_truncate (named : Named path front name)
    (opens : tree.truncate path = .ok (opened, location)) : ∃ slot, opened.Names path slot := by
  have rewrites := rewrites_of_truncate opens
  rcases cases_of_truncate opens with ⟨above, missing, placed, rfl, rfl⟩ | ⟨placed, noDirectory, rfl⟩
  · obtain ⟨directory, fewer, found, -, last⟩ := leads_of_place named placed
    obtain ⟨short, step⟩ := last.lastStep named.naming named.notUp
    refine ⟨_, slot?_of_keepsWays rewrites.keepsWays found, rfl, short, ?_⟩
    rcases step with ⟨-, ended⟩ | ⟨target, _, held, -⟩ | ⟨entry, -, -, ended⟩
    · cases ended
      exact ⟨_, get?_put_self tree _ (List.cons_ne_nil _ _), rfl⟩
    · exact rewrites.exists_held held rfl
    · cases ended
  · obtain ⟨slot, names⟩ := exists_names named placed (by simp [noDirectory])
    exact ⟨slot, names.of_rewrites rewrites⟩

/-- Moving what is no directory changes no other entry. -/
theorem get?_move_of_ne {first second : String} (source : before.Names first slot)
    (target : before.Names second onto) (moves : before.move first second = .ok after)
    (apart : slot.location ≠ other) (elsewhere : onto.location ≠ other) :
    after.get? other = before.get? other := by
  obtain ⟨origin, goal, moved, found, reached, -, held, -, rfl⟩ := slots_of_move moves
  obtain rfl : slot = origin := by simpa [source.found] using found
  obtain rfl : onto = goal := by simpa [target.found] using reached
  obtain ⟨entry, standing, noDirectory⟩ := source.held
  obtain rfl : entry = moved := by simpa [standing] using held
  split
  · rfl
  · rw [noDirectory, if_neg (by decide), get?_carry, get?_put_of_ne _ _ elsewhere,
      get?_erase_of_ne _ apart]

/-- Once the temporary file of a path that leads to a file is open and filled, both paths end with
names of entries that are no directories. -/
theorem names_of_fill (placed : tree.place path = .ok (.found destination))
    (noDirectory : tree.holdsDirectory destination ≠ true)
    (opens : tree.truncate (temporary tag path) = .ok (opened, location))
    (fills : opened.fill location (temporary tag path) path content = (filled, .ok ())) :
    ∃ source target, filled.Names (temporary tag path) source ∧ tree.Names path target ∧
      filled.Names path target := by
  have opening := rewrites_of_truncate opens
  have filling := rewrites_of_fill opening.plain fills
  obtain ⟨_, _, sibling⟩ := exists_named_temporary tag path
  obtain ⟨source, standing⟩ := names_of_truncate sibling opens
  obtain ⟨_, _, named⟩ := named_of_truncate placed noDirectory opens
  obtain ⟨target, replaced⟩ := exists_names named placed noDirectory
  -- both names are still those of the same slots, since neither write touched a directory or a link
  exact ⟨source, target, standing.of_rewrites filling, replaced,
    replaced.of_rewrites (opening.trans filling)⟩

theorem refusals_fill (opened : Tree) (location : Location) (temporary path : String)
    (content : ByteArray) :
    (opened.fill location temporary path content).1.refusals = opened.refusals := by
  unfold fill
  split
  · rfl
  split
  · rfl
  next locked takes =>
  have taken : locked.refusals = opened.refusals := by
    unfold takeMode at takes
    repeat' split at takes
    all_goals cases takes <;> rfl
  obtain ⟨some, wrote, -⟩ := exists_writeAll locked location content
  have kept : (locked.writeAll location content).1.refusals = opened.refusals := by
    rw [wrote, refusals_update, taken]
  split
  next writes => rwa [writes] at kept
  next writes =>
    rw [writes] at kept
    repeat' split
    all_goals exact kept

theorem removeFile_eq_ok (removes : before.removeFile path = .ok after) :
    ∃ location, after = before.erase location := by
  obtain ⟨_ | slot, -, removes⟩ := bind_eq_ok_iff.mp removes
  · cases removes
  obtain ⟨-, -, removes⟩ := bind_eq_ok_iff.mp removes
  obtain ⟨-, -, removes⟩ := bind_eq_ok_iff.mp removes
  repeat' split at removes
  all_goals cases removes
  exact ⟨_, rfl⟩

theorem refusals_abandon (filled : Tree) (temporary : String) (failure : FileFailure) :
    (filled.abandon temporary failure).tree.refusals = filled.refusals := by
  unfold abandon
  split
  next removes =>
    obtain ⟨location, rfl⟩ := removeFile_eq_ok (guarded_eq_ok_iff.mp removes).2
    rfl
  next => rfl

/-- Replacing a file does not change what is refused. -/
theorem refusals_replace (tree : Tree) (tag path : String) (content : ByteArray) :
    (tree.replace tag path content).tree.refusals = tree.refusals := by
  have directory := (makes_makeParent tree path).refusals
  unfold replace
  split
  next made => rwa [made] at directory
  next base made =>
  rw [made] at directory
  simp only
  split
  · exact directory
  next opened location opens =>
  have opening := (rewrites_of_truncate (guarded_eq_ok_iff.mp opens).2).refusals.trans directory
  have filling := refusals_fill opened location (temporary tag path) path content
  split
  next fills =>
    rw [fills] at filling
    exact (refusals_abandon _ _ _).trans (filling.trans opening)
  next filled fills =>
    rw [fills] at filling
    split
    next moves =>
      obtain ⟨_, _, _, -, -, -, -, -, rfl⟩ := slots_of_move (guarded_eq_ok_iff.mp moves).2
      have kept := filling.trans opening
      split
      · exact kept
      split <;> exact kept
    next => exact (refusals_abandon _ _ _).trans (filling.trans opening)

section Granted

variable (granted : tree.refusals = .none)

include granted

omit granted in
/-- A name that the file system takes for a temporary file. -/
structure Admits (tag path : String) : Prop where
  checked : checkPath (temporary tag path) = .ok ()
  noNul : '\x00' ∉ (temporary tag path).toList
  named : ∀ name, Path.fileName? (temporary tag path) = some name → name.utf8ByteSize ≤ nameLimit

end Granted

end Tree

end ManifestPin
