import ManifestPin.Files.Tree

/-! # What two trees share

Trees are compared by what their locations hold. Two trees that hold the same are not told apart
by any path; a tree that holds at least what another does, or at least its directories and links,
can be walked in the same ways. -/

namespace ManifestPin

/-- A change after which entries are still of the kinds that they were. -/
structure Entry.KeepsKind (change : Entry → Entry) : Prop where
  left : ∀ entry other : Entry, (change entry).isLike other = entry.isLike other
  right : ∀ entry other : Entry, other.isLike (change entry) = other.isLike entry

theorem Entry.keepsKind_withContent (content : ByteArray) :
    Entry.KeepsKind (·.withContent content) := by
  constructor <;> intro entry other <;> cases entry <;> cases other <;> rfl

theorem Entry.keepsKind_withMode (mode : Nat) : Entry.KeepsKind (·.withMode mode) := by
  constructor <;> intro entry other <;> cases entry <;> cases other <;> rfl

theorem Entry.isFile_of_isLike {content : ByteArray} {mode : Nat} {entry : Entry}
    (alike : (Entry.file content mode).isLike entry = true) :
    ∃ content mode, entry = .file content mode := by
  cases entry with
  | file content mode => exact ⟨content, mode, rfl⟩
  | directory | link | sink => cases alike

namespace Tree

variable {tree before after later : Tree} {location other : Location} {change : Entry → Entry}

@[simp] theorem refusals_update (tree : Tree) (location : Location) (change : Entry → Entry) :
    (tree.update location change).refusals = tree.refusals :=
  rfl

theorem get?_update (tree : Tree) (below : other ≠ []) (change : Entry → Entry) :
    (tree.update location change).get? other =
      if tree.shares location other then (tree.get? other).map change else tree.get? other := by
  have named : ((fun held : Location × Entry => decide (held.1 = other)) ∘ fun held =>
      if tree.shares location held.1 then (held.1, change held.2) else held) =
        fun held => decide (held.1 = other) := by
    funext held
    by_cases shared : tree.shares location held.1 <;> simp [shared]
  simp only [update, get?, below, ↓reduceIte, List.find?_map, named, Option.map_map]
  cases found : tree.entries.find? fun held => decide (held.1 = other) with
  | none => simp
  | some held =>
      have same : held.1 = other := by simpa using List.find?_some found
      by_cases shared : tree.shares location other <;> simp [same, shared]

@[simp] theorem shares_self (tree : Tree) (location : Location) :
    tree.shares location location = true := by
  simp [shares]

/-- Updating an entry changes it. -/
theorem get?_update_self (below : location ≠ []) {entry : Entry}
    (held : tree.get? location = some entry) (change : Entry → Entry) :
    (tree.update location change).get? location = some (change entry) := by
  rw [get?_update tree below, if_pos (shares_self tree location), held, Option.map_some]

/-- Updating an entry changes no other file. -/
theorem get?_update_of_not_shares (apart : tree.shares location other = false)
    (change : Entry → Entry) : (tree.update location change).get? other = tree.get? other := by
  by_cases root : other = []
  · simp [get?, root]
  · rw [get?_update tree root, apart, if_neg Bool.false_ne_true]

theorem node?_erase_self (tree : Tree) (location : Location) :
    (tree.erase location).node? location = none := by
  simp [node?, erase]

theorem node?_erase_of_ne (tree : Tree) (apart : location ≠ other) :
    (tree.erase location).node? other = tree.node? other :=
  congrArg _ (find?_filter_ne tree.nodes apart)

/-- Two locations are names of one file when the file has a number there. -/
theorem shares_eq_true_iff :
    tree.shares location other = true ↔
      location = other ∨ ∃ node first second, tree.node? location = some node ∧
        tree.node? other = some node ∧ tree.get? location = some first ∧
        tree.get? other = some second ∧ first.isLike second = true := by
  simp only [shares, Bool.or_eq_true, Bool.and_eq_true, decide_eq_true_iff, Option.any_eq_true,
    Option.isSome_iff_exists]
  refine or_congr_right ⟨?_, ?_⟩
  · rintro ⟨⟨⟨node, numbered⟩, same⟩, first, held, second, there, alike⟩
    exact ⟨node, first, second, numbered, same ▸ numbered, held, there, alike⟩
  · rintro ⟨node, first, second, numbered, same, held, there, alike⟩
    exact ⟨⟨⟨node, numbered⟩, numbered.trans same.symm⟩, first, held, second, there, alike⟩

/-- A location that holds nothing shares no file. -/
theorem shares_of_absent (absent : tree.get? location = none) (other : Location) :
    tree.shares location other = decide (location = other) := by
  simp [shares, absent]

/-- Where each numbered entry comes from one with the same number, those that share a file come from
such as shared it. -/
theorem shares_of_back {first second : Location} (back : Location → Location)
    (kept : ∀ place node, after.node? place = some node →
      before.node? (back place) = some node ∧ before.get? (back place) = after.get? place)
    (shared : after.shares first second = true) :
    before.shares (back first) (back second) = true := by
  rcases shares_eq_true_iff.mp shared with rfl | ⟨node, entry, new, numbered, again, held, there,
    alike⟩
  · exact shares_eq_true_iff.mpr (.inl rfl)
  · obtain ⟨one, same⟩ := kept first node numbered
    obtain ⟨two, equal⟩ := kept second node again
    exact shares_eq_true_iff.mpr
      (.inr ⟨node, entry, new, one, two, same.trans held, equal.trans there, alike⟩)

theorem ne_of_node?_erase {node : Nat} (numbered : (tree.erase location).node? other = some node) :
    location ≠ other := by
  rintro rfl
  simp [node?_erase_self] at numbered

/-- Erasing an entry joins no files. -/
theorem shares_of_erase {first second : Location}
    (shared : (tree.erase location).shares first second = true) :
    tree.shares first second = true := by
  refine shares_of_back id (fun place node numbered => ?_) shared
  have apart := ne_of_node?_erase numbered
  rw [node?_erase_of_ne tree apart] at numbered
  exact ⟨numbered, (get?_erase_of_ne tree apart).symm⟩

/-- Nor does putting a new one. -/
theorem shares_of_put {entry : Entry} {first second : Location}
    (shared : (tree.put location entry).shares first second = true) :
    tree.shares first second = true := by
  refine shares_of_back id (fun place node numbered => ?_) shared
  have left : (tree.erase location).node? place = some node := numbered
  have apart := ne_of_node?_erase left
  rw [node?_erase_of_ne tree apart] at left
  exact ⟨left, (get?_put_of_ne tree entry apart).symm⟩

theorem get?_carry (tree : Tree) (source target : Location) (entry : Entry) (other : Location) :
    (tree.carry source target entry).get? other =
      ((tree.erase source).put target entry).get? other :=
  rfl

theorem node?_carry (tree : Tree) (source target : Location) (entry : Entry) (other : Location) :
    (tree.carry source target entry).node? other =
      if target = other then tree.node? source
      else ((tree.erase source).erase target).node? other := by
  have nodes : (tree.carry source target entry).nodes =
      ((tree.node? source).map (target, ·)).toList ++ ((tree.erase source).erase target).nodes :=
    rfl
  rw [node?, nodes]
  cases tree.node? source with
  | none =>
      split
      next same => exact same ▸ node?_erase_self _ target
      next => rfl
  | some node =>
      by_cases same : target = other
      · simp [same]
      · simp [same, node?]

/-- An entry that is carried away shares a file under its new name as it did. -/
theorem shares_of_carry {source target first second : Location} {entry : Entry}
    (held : tree.get? source = some entry) (below : target ≠ []) (apart : target ≠ first)
    (shared : (tree.carry source target entry).shares first second = true) :
    tree.shares first second = true ∨ target = second ∧ tree.shares first source = true := by
  let back (place : Location) : Location := if target = place then source else place
  have shared : tree.shares (back first) (back second) = true := by
    refine shares_of_back back (fun place node numbered => ?_) shared
    by_cases carried : target = place
    · subst carried
      rw [node?_carry, if_pos rfl] at numbered
      rw [show back target = source from if_pos rfl, get?_carry, get?_put_self _ _ below]
      exact ⟨numbered, held⟩
    · rw [node?_carry, if_neg carried, node?_erase_of_ne _ carried] at numbered
      have left := ne_of_node?_erase numbered
      rw [node?_erase_of_ne tree left] at numbered
      rw [show back place = place from if_neg carried, get?_carry, get?_put_of_ne _ _ carried,
        get?_erase_of_ne tree left]
      exact ⟨numbered, rfl⟩
  rw [show back first = first from if_neg apart] at shared
  by_cases carried : target = second
  · exact .inr ⟨carried, by simpa [back, carried] using shared⟩
  · exact .inl (by simpa [back, carried] using shared)

/-- A new entry is that of no other location. -/
theorem shares_put (tree : Tree) (location other : Location) (entry : Entry) :
    (tree.put location entry).shares location other = decide (location = other) := by
  have single : (tree.put location entry).node? location = none := node?_erase_self tree location
  simp [shares, single]

/-- Locations that share a file hold entries of one kind. -/
theorem isLike_of_shares {entry : Entry} (shared : tree.shares location other = true)
    (apart : location ≠ other) (held : tree.get? location = some entry) :
    ∃ new, tree.get? other = some new ∧ entry.isLike new = true := by
  simp only [shares, apart, held, decide_false, Bool.false_or, Bool.and_eq_true,
    Option.any_some] at shared
  simpa [Option.any_eq_true] using shared.2

/-- A file has the same names after a change that keeps the kinds of entries. -/
theorem shares_update (kinds : Entry.KeepsKind change) (first second : Location) :
    (tree.update location change).shares first second = tree.shares first second := by
  have looks (place : Location) (check : Entry → Bool)
      (alike : ∀ entry, check (change entry) = check entry) :
      ((tree.update location change).get? place).any check = (tree.get? place).any check := by
    by_cases root : place = []
    · simp [get?, root]
    · rw [get?_update tree root]
      split
      · simp [Option.any_map, alike]
      · rfl
  have same (place : Location) : (tree.update location change).node? place = tree.node? place := rfl
  have second := fun entry : Entry => looks second entry.isLike (kinds.right · entry)
  simp only [shares, same, second]
  rw [looks first]
  intro entry
  rw [funext (kinds.left entry)]

/-- What is left after an erasure was held before it, at another location. -/
theorem get?_erase_eq_some (below : location ≠ []) {entry : Entry} :
    (tree.erase location).get? other = some entry ↔
      location ≠ other ∧ tree.get? other = some entry := by
  by_cases same : location = other
  · subst same
    simp [get?_erase_self tree below]
  · simp [get?_erase_of_ne tree same, same]

theorem holdsDirectory_iff :
    tree.holdsDirectory location = true ↔
      ∃ mode, tree.get? location = some (.directory mode) := by
  unfold holdsDirectory
  cases tree.get? location with
  | none => simp
  | some entry => cases entry <;> simp [Entry.isDirectory]

theorem not_holdsDirectory_of_file {content : ByteArray} {mode : Nat}
    (held : tree.get? location = some (.file content mode)) :
    tree.holdsDirectory location ≠ true := by
  simp [holdsDirectory, held, Entry.isDirectory]

/-- Two trees that hold the same at each location, have the same current directory and refuse the
same. -/
structure Same (before after : Tree) : Prop where
  here : after.here = before.here
  refusals : after.refusals = before.refusals
  get? : ∀ location, after.get? location = before.get? location

/-- A tree whose entries are all in another one. -/
structure Within (before after : Tree) : Prop where
  here : after.here = before.here
  held : ∀ location entry, before.get? location = some entry →
    after.get? location = some entry

/-- A tree whose directories and links are all in another one. The permission bits of a directory
may differ. -/
structure KeepsWays (before after : Tree) : Prop where
  here : after.here = before.here
  directories : ∀ location, before.holdsDirectory location = true →
    after.holdsDirectory location = true
  links : ∀ location target, before.get? location = some (.link target) →
    after.get? location = some (.link target)

/-- A tree in which another one has no more than new directories. -/
structure AddsDirectories (before after : Tree) : Prop where
  here : after.here = before.here
  get? : ∀ location, after.get? location = before.get? location ∨
    before.get? location = none ∧ after.get? location = some (.directory directoryMode)

/-- A location that holds a file or nothing. -/
def FileAtMost (tree : Tree) (location : Location) : Prop :=
  ∀ entry, tree.get? location = some entry → entry.isFile = true

/-- A tree in which another one has a file with a content, under all names that the file has. -/
structure Sets (before after : Tree) (location : Location) (content : ByteArray) : Prop where
  here : after.here = before.here
  refusals : after.refusals = before.refusals
  held : ∃ mode, after.get? location = some (.file content mode)
  shared : ∀ other, after.shares location other = before.shares location other
  /-- No files are joined. -/
  joined : ∀ first second, after.shares first second = true → before.shares first second = true
  /-- What another name of the file held was a file. -/
  twins : ∀ other, location ≠ other → before.shares location other = true →
    before.FileAtMost other ∧ ∃ mode, after.get? other = some (.file content mode)
  rest : ∀ other, before.shares location other = false → after.get? other = before.get? other

namespace Same

theorem refl (tree : Tree) : tree.Same tree :=
  ⟨rfl, rfl, fun _ => rfl⟩

theorem symm (same : before.Same after) : after.Same before :=
  ⟨same.here.symm, same.refusals.symm, fun location => (same.get? location).symm⟩

theorem within (same : before.Same after) : before.Within after :=
  ⟨same.here, fun location _ held => (same.get? location).trans held⟩

end Same

theorem Within.keepsWays (within : before.Within after) : before.KeepsWays after where
  here := within.here
  directories := by
    intro location directory
    obtain ⟨mode, held⟩ := holdsDirectory_iff.mp directory
    exact holdsDirectory_iff.mpr ⟨mode, within.held location _ held⟩
  links := fun location target held => within.held location _ held

/-- Where two trees differ in files only, the ways of one are ways of the other. -/
theorem keepsWays_of_fileAtMost (here : after.here = before.here)
    (agree : ∀ location, before.FileAtMost location ∨
      after.get? location = before.get? location) : before.KeepsWays after where
  here := here
  directories := by
    intro location directory
    obtain ⟨mode, held⟩ := holdsDirectory_iff.mp directory
    rcases agree location with atMost | same
    · exact absurd (atMost _ held) (by simp [Entry.isFile])
    · exact holdsDirectory_iff.mpr ⟨mode, same.trans held⟩
  links := by
    intro location target held
    rcases agree location with atMost | same
    · exact absurd (atMost _ held) (by simp [Entry.isFile])
    · exact same.trans held

namespace Sets

variable {content added : ByteArray}

theorem fileAtMost (sets : before.Sets after location content) : after.FileAtMost location := by
  obtain ⟨mode, held⟩ := sets.held
  intro entry found
  rw [held, Option.some.injEq] at found
  rw [← found]
  rfl

theorem trans (first : before.Sets after location content)
    (second : after.Sets later location added) : before.Sets later location added where
  here := second.here.trans first.here
  refusals := second.refusals.trans first.refusals
  held := second.held
  shared := fun other => (second.shared other).trans (first.shared other)
  joined := fun one two shared => first.joined one two (second.joined one two shared)
  twins := fun other apart shared =>
    ⟨(first.twins other apart shared).1,
      (second.twins other apart ((first.shared other).trans shared)).2⟩
  rest := fun other single =>
    (second.rest other ((first.shared other).trans single)).trans (first.rest other single)

theorem fileAtMost_of_shares (sets : before.Sets after location content) (apart : location ≠ other)
    (shared : before.shares location other = true) :
    before.FileAtMost other ∧ after.FileAtMost other := by
  obtain ⟨files, mode, held⟩ := sets.twins other apart shared
  refine ⟨files, fun entry found => ?_⟩
  rw [held, Option.some.injEq] at found
  rw [← found]
  rfl

/-- The names of the file hold files, and nothing else changes. -/
theorem fileAtMost_or_same (sets : before.Sets after location content)
    (atMost : before.FileAtMost location) (other : Location) :
    before.FileAtMost other ∧ after.FileAtMost other ∨ after.get? other = before.get? other := by
  cases shared : before.shares location other with
  | false => exact .inr (sets.rest other shared)
  | true =>
      by_cases same : location = other
      · exact .inl (same ▸ ⟨atMost, sets.fileAtMost⟩)
      · exact .inl (sets.fileAtMost_of_shares same shared)

theorem keepsWays (sets : before.Sets after location content)
    (atMost : before.FileAtMost location) : before.KeepsWays after :=
  keepsWays_of_fileAtMost sets.here fun other =>
    (sets.fileAtMost_or_same atMost other).imp_left And.left

theorem keepsWays_back (sets : before.Sets after location content)
    (atMost : before.FileAtMost location) : after.KeepsWays before :=
  keepsWays_of_fileAtMost sets.here.symm fun other =>
    (sets.fileAtMost_or_same atMost other).imp And.right Eq.symm

/-- Where nothing was, the new file has no other name. -/
theorem rest_of_absent (sets : before.Sets after location content)
    (absent : before.get? location = none) (apart : location ≠ other) :
    after.get? other = before.get? other :=
  sets.rest other ((shares_of_absent absent other).trans (decide_eq_false apart))

/-- What is set where nothing was is added to the rest. -/
theorem within (sets : before.Sets after location content) (absent : before.get? location = none) :
    before.Within after := by
  refine ⟨sets.here, fun other entry held => ?_⟩
  have apart : location ≠ other := by
    rintro rfl
    simp [absent] at held
  rw [sets.rest_of_absent absent apart, held]

/-- Erasing a file that was set where nothing was gives the tree back. -/
theorem same_erase (sets : before.Sets after location content) (below : location ≠ [])
    (absent : before.get? location = none) : before.Same (after.erase location) := by
  refine ⟨sets.here, sets.refusals, fun other => ?_⟩
  by_cases same : location = other
  · subst same
    rw [get?_erase_self after below, absent]
  · rw [get?_erase_of_ne after same, sets.rest_of_absent absent same]

end Sets

/-- Creating a file sets it. -/
theorem sets_put (below : location ≠ []) (absent : tree.get? location = none)
    (content : ByteArray) (mode : Nat) :
    tree.Sets (tree.put location (.file content mode)) location content where
  here := rfl
  refusals := rfl
  held := ⟨mode, get?_put_self tree _ below⟩
  shared := fun other => by rw [shares_put, shares_of_absent absent]
  joined := fun _ _ => shares_of_put
  twins := by
    intro other apart shared
    rw [shares_of_absent absent, decide_eq_true_iff] at shared
    exact absurd shared apart
  rest := by
    intro other single
    rw [shares_of_absent absent, decide_eq_false_iff_not] at single
    exact get?_put_of_ne tree _ single

/-- Writing the content of a file sets it. -/
theorem sets_update (below : location ≠ []) {old : ByteArray} {mode : Nat}
    (held : tree.get? location = some (.file old mode)) (content : ByteArray) :
    tree.Sets (tree.update location (·.withContent content)) location content where
  here := rfl
  refusals := rfl
  held := ⟨mode, get?_update_self below held _⟩
  shared := shares_update (Entry.keepsKind_withContent content) location
  joined := fun first second shared =>
    (shares_update (Entry.keepsKind_withContent content) first second).symm.trans shared
  twins := by
    intro other apart shared
    obtain ⟨entry, there, alike⟩ := isLike_of_shares shared apart held
    obtain ⟨left, bits, rfl⟩ := Entry.isFile_of_isLike alike
    have root : other ≠ [] := by
      rintro rfl
      cases there
    refine ⟨fun entry found => ?_, bits, ?_⟩
    · rw [there, Option.some.injEq] at found
      rw [← found]
      rfl
    · rw [get?_update tree root, if_pos shared, there]
      rfl
  rest := fun other single => get?_update_of_not_shares single _

/-- The permission bits of a file that was set may be changed. -/
theorem Sets.withMode {content : ByteArray} (sets : before.Sets after location content)
    (below : location ≠ []) (mode : Nat) :
    before.Sets (after.update location (·.withMode mode)) location content where
  here := sets.here
  refusals := sets.refusals
  held := by
    obtain ⟨old, held⟩ := sets.held
    exact ⟨mode, get?_update_self below held _⟩
  shared := fun other =>
    (shares_update (Entry.keepsKind_withMode mode) location other).trans (sets.shared other)
  joined := fun first second shared => sets.joined first second
    ((shares_update (Entry.keepsKind_withMode mode) first second).symm.trans shared)
  twins := by
    intro other apart shared
    obtain ⟨files, old, held⟩ := sets.twins other apart shared
    have root : other ≠ [] := by
      rintro rfl
      cases held
    refine ⟨files, mode, ?_⟩
    rw [get?_update after root, if_pos ((sets.shared other).trans shared), held]
    rfl
  rest := by
    intro other single
    rw [get?_update_of_not_shares ((sets.shared other).trans single), sets.rest other single]

/-- A tree without one of its entries is within it. -/
theorem within_erase (tree : Tree) (below : location ≠ []) : (tree.erase location).Within tree :=
  ⟨rfl, fun _ _ held => ((get?_erase_eq_some below).mp held).2⟩

theorem Within.trans (first : before.Within after) (second : after.Within later) :
    before.Within later :=
  ⟨second.here.trans first.here,
    fun location entry held => second.held location entry (first.held location entry held)⟩

section Without

variable {Out : Location → Prop}

open Classical in
/-- The tree without what some locations hold. -/
noncomputable def without (tree : Tree) (Out : Location → Prop) : Tree :=
  { tree with entries := tree.entries.filter fun held => ¬Out held.1 }

open Classical in
theorem get?_without_eq_some (below : location ≠ []) {entry : Entry} :
    (tree.without Out).get? location = some entry ↔
      ¬Out location ∧ tree.get? location = some entry := by
  have named : (fun held : Location × Entry => decide (decide (¬Out held.1) = true ∧
      decide (held.1 = location) = true)) =
        fun held => decide (¬Out location) && decide (held.1 = location) := by
    funext held
    by_cases same : held.1 = location <;> simp [same]
  rw [get?, get?, if_neg below, if_neg below, without, List.find?_filter, named]
  by_cases out : Out location
  · have none : tree.entries.find? (fun _ => false) = none := List.find?_eq_none.mpr (by simp)
    simp [out, none]
  · simp [out]

theorem within_without (tree : Tree) (Out : Location → Prop) : (tree.without Out).Within tree := by
  refine ⟨rfl, fun location entry held => ?_⟩
  by_cases root : location = []
  · simpa [get?, root] using held
  · exact ((get?_without_eq_some root).mp held).2

/-- A tree that holds nothing at some locations is within another one also without what these
locations hold. -/
theorem Within.without (within : before.Within after)
    (spared : ∀ location, location ≠ [] → Out location → before.get? location = none) :
    before.Within (after.without Out) := by
  refine ⟨within.here, fun location entry held => ?_⟩
  by_cases root : location = []
  · simpa [get?, root] using held
  refine (get?_without_eq_some root).mpr ⟨fun out => ?_, within.held location entry held⟩
  simp [spared location root out] at held

/-- A tree without more is within the one without less. -/
theorem within_without_of_imp (tree : Tree) {Gone : Location → Prop}
    (more : ∀ location, Out location → Gone location) :
    (tree.without Gone).Within (tree.without Out) := by
  refine (within_without tree Gone).without fun location root out => ?_
  refine Option.eq_none_iff_forall_ne_some.mpr fun entry held => ?_
  exact ((get?_without_eq_some root).mp held).1 (more location out)

/-- Trees that hold the same but at some locations are the same without these. -/
theorem within_without_of_agree (here : after.here = before.here)
    (agree : ∀ location, ¬Out location → after.get? location = before.get? location) :
    (before.without Out).Within (after.without Out) := by
  have within : (before.without Out).Within after := by
    refine ⟨here, fun location entry held => ?_⟩
    by_cases root : location = []
    · simpa [get?, root] using held
    · obtain ⟨kept, there⟩ := (get?_without_eq_some root).mp held
      exact (agree location kept).trans there
  refine within.without fun location root out => Option.eq_none_iff_forall_ne_some.mpr ?_
  exact fun entry held => ((get?_without_eq_some root).mp held).1 out

end Without

/-- The tree on a file system that has become full. -/
def filled (tree : Tree) : Tree :=
  { tree with
    refusals := { Refusals.none with room := fun _ => some (0, ⟨28, "No space left on device"⟩) } }

end Tree

end ManifestPin
