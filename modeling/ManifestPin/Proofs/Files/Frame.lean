import ManifestPin.Event
import ManifestPin.Proofs.Files.Replacement

/-! # What a replacement writes and what it leaves alone

A replacement that succeeds writes the slot of its path and no other location, but for the missing
directories of the path; one that fails writes nothing but these directories. The temporary file is
gone in both cases, provided that nothing was there before at the location of its name.
-/

namespace ManifestPin.Tree

open ManifestPin.Path (Named)

variable {tree before after opened filled : Tree} {tag path : String} {content : ByteArray}
  {location : Location} {source target slot : Slot} {entry : Entry} {failure : FileFailure}

/-- What a replacement that succeeds comes to, in terms of the tree with the directory of the path
made. -/
structure Wrote (tree : Tree) (tag path : String) (content : ByteArray) (after : Tree)
    (slot : Slot) : Prop where
  here : after.here = tree.here
  /-- The slot is that of the path. -/
  reached : (tree.makeParent path).1.slot? path = .ok (some slot)
  /-- It holds a regular file with the content, and with the permission bits of what the path led
  to before, if it led anywhere. -/
  held : ∃ mode, after.get? slot.location = some (.file content mode) ∧
    ∀ entry, tree.entry path = .ok entry → mode = entry.mode
  /-- Nothing is at the temporary name. -/
  clean : after.standing? (temporary tag path) = none
  /-- No other location changed. -/
  rest : ∀ other, slot.location ≠ other →
    after.get? other = (tree.makeParent path).1.get? other
  /-- The path reads the content, if its slot is found without what stood in it. -/
  reads : ((tree.makeParent path).1.erase slot.location).slot? path = .ok (some slot) →
    ∀ text, content = text.toUTF8 → after.readText path = .ok text

/-- What a replacement that fails comes to, in terms of the tree with the directory of the path
made. -/
structure Kept (tree : Tree) (tag path : String) (replacement : Replacement) : Prop where
  here : replacement.tree.here = tree.here
  /-- Every entry stays as it was. -/
  held : ∀ location entry, (tree.makeParent path).1.get? location = some entry →
    replacement.tree.get? location = some entry
  /-- If the temporary file was removed, no location changed. -/
  same : replacement.leftover = none →
    ∀ location, replacement.tree.get? location = (tree.makeParent path).1.get? location
  /-- Nothing is then at the temporary name, unless it is the name of a directory that was made. -/
  clean : replacement.leftover = none →
    ∀ slot entry, replacement.tree.slot? (temporary tag path) = .ok (some slot) →
      replacement.tree.get? slot.location = some entry →
      tree.get? slot.location = none ∧ entry = .directory directoryMode
  /-- If it was not, the file system refused that, which is told, and nothing else was added. -/
  left : replacement.leftover ≠ none →
    ∃ slot denial, (tree.makeParent path).1.slot? (temporary tag path) = .ok (some slot) ∧
      tree.refusals.calls .unlink slot.location = some denial ∧
      replacement.events = [.temporaryLeft ⟨temporary tag path, .system (.denied denial)⟩] ∧
      ∀ location, slot.location ≠ location →
        replacement.tree.get? location = (tree.makeParent path).1.get? location

/-- What is opened to be written is no directory. -/
theorem holdsDirectory_of_truncate {front : List String} {name : String}
    (named : Named path front name) (opens : before.truncate path = .ok (opened, location))
    (found : before.slot? path = .ok (some slot)) :
    before.holdsDirectory slot.location = false := by
  obtain ⟨place, placed, -⟩ := bind_eq_ok_iff.mp opens
  have unslashed := (slot?_eq_some_iff.mp found).2.1.trans named.endsWithSlash
  rcases lastStep_of_slot? found unslashed placed with ⟨absent, -⟩ | ⟨target, _, link, -⟩ |
    ⟨entry, -, -, rfl⟩
  · simp [holdsDirectory, absent]
  · simp [holdsDirectory, link, Entry.isDirectory]
  · rcases cases_of_truncate opens with ⟨_, _, same, -⟩ | ⟨same, noDirectory, -⟩
    · cases placed.symm.trans same
    · cases placed.symm.trans same
      exact noDirectory

/-- A temporary file that can be opened is new when nothing was at its location before the
directories of its path were made. -/
theorem standing?_of_truncate (adds : tree.AddsDirectories before)
    (absent : ∀ slot, before.slot? (temporary tag path) = .ok (some slot) →
      tree.get? slot.location = none)
    (opens : before.truncate (temporary tag path) = .ok (opened, location)) :
    before.standing? (temporary tag path) = none := by
  obtain ⟨front, name, named⟩ := exists_named_temporary tag path
  refine standing?_eq_none_iff.mpr fun slot found => ?_
  have noDirectory := holdsDirectory_of_truncate named opens found
  rcases adds.get? slot.location with same | ⟨-, added⟩
  · rw [same, absent slot found]
  · simp [holdsDirectory, added, Entry.isDirectory] at noDirectory

/-- The temporary file takes over the permission bits of what its path leads to. -/
theorem get?_of_fill {temporary : String} (below : location ≠ []) {old : ByteArray} {mode : Nat}
    (held : opened.get? location = some (.file old mode)) (found : opened.entry path = .ok entry)
    (fills : opened.fill location temporary path content = (filled, .ok ())) :
    filled.get? location = some (.file content entry.mode) := by
  obtain ⟨locked, takes, rfl⟩ := steps_of_fill fills
  unfold takeMode at takes
  split at takes
  next other looked =>
    obtain rfl : entry = other :=
      Except.ok.inj (found.symm.trans (entry_of_status (guarded_eq_ok_iff.mp looked).2))
    split at takes
    · cases takes
      have changed := get?_update_self below held (·.withMode entry.mode)
      exact get?_update_self below changed (·.withContent content)
    · cases takes
  next refused =>
    rcases status_of_entry found with looked | ⟨denial, denied⟩
    · rw [looked, guarded] at refused
      split at refused <;> cases refused
    · rw [denied, guarded] at refused
      split at refused <;> cases refused
  next => cases takes

/-- A file that is moved is held at the slot of its new path, which shared it or lost another one. -/
theorem get?_of_move {first second : String} {mode : Nat}
    (found : before.slot? first = .ok (some source))
    (held : before.get? source.location = some (.file content mode))
    (moves : before.move first second = .ok after) :
    ∃ target, before.slot? second = .ok (some target) ∧
      (before.shares source.location target.location = false →
        after.get? target.location = some (.file content mode)) := by
  obtain ⟨source', target, entry, same, reached, -, moved, -, rfl⟩ := slots_of_move moves
  obtain rfl : source = source' := by simpa [found] using same
  obtain rfl : entry = .file content mode := by simpa [held] using moved.symm
  refine ⟨target, reached, fun apart => ?_⟩
  rw [if_neg (by simp [apart]), if_neg (by simp [Entry.isDirectory])]
  exact get?_put_self _ _ target.location_ne_nil

/-- A replaced file gets the permission bits of what its path leads to once the temporary file is
open. -/
theorem bits_of_replace (plain : '/' ∉ tag.toList)
    (spare : (tree.makeParent path).1.Spare (temporary tag path))
    (written : (tree.replace tag path content).result = .ok ())
    (reached : (tree.makeParent path).1.slot? path = .ok (some target))
    (unslashed : target.slash = false) :
    ∃ opened location,
      (tree.makeParent path).1.truncate (temporary tag path) = .ok (opened, location) ∧
      (tree.makeParent path).1.get? location =
        (tree.makeParent path).1.standing? (temporary tag path) ∧
      (tree.makeParent path).1.Sets opened location ByteArray.empty ∧
      ∀ entry, opened.entry path = .ok entry →
        (tree.replace tag path content).tree.get? target.location =
          some (.file content entry.mode) := by
  obtain ⟨front, name, named⟩ := exists_named_temporary tag path
  obtain ⟨opened, location, filled, opens, fills, -, moves⟩ := steps_of_replace written
  obtain ⟨source, standing, -, -, rfl, atMost, sets⟩ := truncate_eq_ok named spare.file opens
  refine ⟨opened, _, opens, (standing?_of_slot? standing).symm, sets, fun entry found => ?_⟩
  have below := source.location_ne_nil
  obtain ⟨mode, held⟩ := sets.held
  have bits := get?_of_fill below held found fills
  have filledSets := fill_eq_ok below sets fills
  have keeps := filledSets.keepsWays atMost
  obtain ⟨other, onto, placed⟩ := get?_of_move (slot?_of_keepsWays keeps standing) bits moves
  obtain rfl : target = other := by
    simpa [slot?_of_keepsWays keeps reached] using onto
  refine placed ((filledSets.shared target.location).trans ?_)
  exact spare.not_shares standing (temporary_apart plain unslashed reached standing).2

/-- A replacement that succeeds writes the slot of its path and nothing else. -/
theorem wrote_of_replace (plain : '/' ∉ tag.toList)
    (absent : (tree.makeParent path).1.standing? (temporary tag path) = none)
    (written : (tree.replace tag path content).result = .ok ()) :
    ∃ slot, tree.Wrote tag path content (tree.replace tag path content).tree slot := by
  have spare := spare_of_absent absent
  obtain ⟨source, target, standing, reached, unslashed, short, noNul, replaces⟩ :=
    replace_eq_ok spare.file written
  have bits {entry : Entry} (found : (tree.makeParent path).1.entry path = .ok entry) :
      (tree.replace tag path content).tree.get? target.location =
        some (.file content entry.mode) := by
    obtain ⟨opened, location, -, there, sets, bits⟩ :=
      bits_of_replace plain spare written reached unslashed
    exact bits entry (entry_of_within (sets.within (there.trans absent)) found)
  have empty := (standing?_of_slot? standing).symm.trans absent
  have apart := (temporary_apart plain unslashed reached standing).2
  have gone := replaces.removed (spare.not_shares standing apart)
  have here := replaces.here.trans (makes_makeParent tree path).here
  generalize (tree.replace tag path content).tree = after at replaces bits gone here
  have rest (other : Location) (elsewhere : target.location ≠ other) :
      after.get? other = (tree.makeParent path).1.get? other := by
    by_cases moved : source.location = other
    · rw [← moved, gone, empty]
    · exact replaces.rest other (spare.not_shares standing moved) elsewhere
  obtain ⟨mode, held⟩ := replaces.held
  refine ⟨target, here, reached, ⟨mode, held, fun entry found => ?_⟩, ?_, rest, fun way text same => ?_⟩
  · obtain ⟨location, placed, -⟩ := entry_eq_ok_iff.mp found
    rw [← makeParent_of_place placed] at found
    simpa [held] using bits found
  · -- what is left leads nowhere that the tree did not lead to before
    have back : after.KeepsWays (tree.makeParent path).1 := by
      refine keepsWays_of_fileAtMost replaces.here.symm fun other => ?_
      by_cases replaced : target.location = other
      · subst replaced
        exact .inl fun entry found => by simp_all [Entry.isFile]
      · exact .inr (rest other replaced).symm
    refine standing?_eq_none_iff.mpr fun slot found => ?_
    obtain rfl : source = slot := by simpa [standing] using slot?_of_keepsWays back found
    exact gone
  · rw [same] at held
    exact readText_of_slot? (replaces.slot? way) unslashed short noNul held

/-- A replacement that fails and finds nothing at the temporary name changes nothing, or leaves the
temporary file, if the file system refuses to remove it. -/
theorem kept_of_replace
    (absent : ∀ slot, (tree.makeParent path).1.slot? (temporary tag path) = .ok (some slot) →
      tree.get? slot.location = none)
    (failed : (tree.replace tag path content).result = .error failure) :
    tree.Kept tag path (tree.replace tag path content) := by
  have makes := makes_makeParent tree path
  have clean (same : (tree.makeParent path).1.Same (tree.replace tag path content).tree)
      (slot : Slot) (entry : Entry)
      (found : (tree.replace tag path content).tree.slot? (temporary tag path) = .ok (some slot))
      (held : (tree.replace tag path content).tree.get? slot.location = some entry) :
      tree.get? slot.location = none ∧ entry = .directory directoryMode := by
    have none := absent slot (slot?_of_keepsWays same.symm.within.keepsWays found)
    rw [same.get?] at held
    rcases makes.get? slot.location with kept | ⟨-, added, -⟩
    · simp [kept, none] at held
    · exact ⟨none, by simpa [added] using held.symm⟩
  rcases stops_of_replace failed with stopped | ⟨opened, location, opens, -⟩
  · have same : (tree.replace tag path content).tree = (tree.makeParent path).1 :=
      congrArg Replacement.tree stopped
    refine ⟨same ▸ makes.here, fun _ _ held => same ▸ held, fun _ _ => same ▸ rfl,
      fun _ => clean (same.symm ▸ .refl _), fun leftover => ?_⟩
    rw [stopped] at leftover
    exact absurd rfl leftover
  · have none := standing?_of_truncate makes.addsDirectories absent opens
    have spare := spare_of_absent none
    have leaves := leaves_of_error spare.file failed
    refine ⟨leaves.here.trans makes.here, fun location entry held => ?_,
      fun clean => (leaves.same none clean).get?, fun removed => clean (leaves.same none removed),
      fun leftover => ?_⟩
    · rw [leaves.get?_of_not_shares fun slot found => ?_, held]
      refine spare.not_shares found ?_
      rintro rfl
      simp [(standing?_of_slot? found).symm.trans none] at held
    · cases leaves with
      | unopened _ clean | removed _ _ _ _ clean => exact absurd clean leftover
      | @kept slot _ denial found _ sets refused left =>
          refine ⟨slot, denial, found, makes.refusals ▸ refused, by rw [Replacement.events, left]; rfl,
            fun location apart => ?_⟩
          exact sets.rest location (spare.not_shares found apart)

/-- Replacing a file makes the missing directories of its path. It writes the file and nothing
else, or fails and writes nothing. -/
theorem writes_or_keeps (plain : '/' ∉ tag.toList)
    (absent : ∀ slot, (tree.makeParent path).1.slot? (temporary tag path) = .ok (some slot) →
      tree.get? slot.location = none) :
    tree.Makes (tree.makeParent path).1 (enclosingDirectories path) ∧
      ((tree.replace tag path content).result = .ok () →
        ∃ slot, tree.Wrote tag path content (tree.replace tag path content).tree slot) ∧
      ∀ failure, (tree.replace tag path content).result = .error failure →
        tree.Kept tag path (tree.replace tag path content) := by
  have makes := makes_makeParent tree path
  refine ⟨makes, fun written => ?_, fun failure failed => kept_of_replace absent failed⟩
  obtain ⟨opened, location, filled, opens, -⟩ := steps_of_replace written
  exact wrote_of_replace plain (standing?_of_truncate makes.addsDirectories absent opens) written

namespace Sample

/-- A file and a link to it. -/
def linked : Tree where
  entries := [(["f"], .file "old".toUTF8 0o600), (["m"], .link "f")]
  here := []

/-- A directory and a link to it. -/
def crossed : Tree where
  entries := [(["sub"], .directory directoryMode), (["m"], .link "sub")]
  here := []

/-- A file left at the name of a temporary file. -/
def littered : Tree where
  entries := [([".m.7.tmp"], .file "left".toUTF8 fileMode)]
  here := []

end Sample

/-- The link is replaced by a file with the permission bits of the file that it led to, which stays
as it is. -/
theorem writes_or_keeps_linked :
    (Sample.linked.replaceText "7" "m" "new").tree.get? ["m"] =
        some (.file "new".toUTF8 0o600) ∧
      (Sample.linked.replaceText "7" "m" "new").tree.get? ["f"] =
        some (.file "old".toUTF8 0o600) ∧
      (Sample.linked.replaceText "7" "m" "new").tree.readText "m" = .ok "new" := by
  have found : Sample.linked.slot? "m" = .ok (some ⟨[], "m", false⟩) :=
    eq_ok_of_toOption (by decide +kernel)
  have directory : (Sample.linked.makeParent "m").1 = Sample.linked :=
    makeParent_of_slot? found rfl
  have sibling : Sample.linked.slot? (temporary "7" "m") = .ok (some ⟨[], ".m.7.tmp", false⟩) :=
    eq_ok_of_toOption (by decide +kernel)
  obtain ⟨-, writes, -⟩ := @writes_or_keeps Sample.linked "7" "m" "new".toUTF8 (by decide) (by
    intro slot reached
    rw [directory, sibling] at reached
    cases reached
    rfl)
  obtain ⟨slot, wrote⟩ := writes (eq_ok_of_toOption (by decide +kernel))
  have reached := wrote.reached
  rw [directory, found] at reached
  cases reached
  obtain ⟨mode, held, bits⟩ := wrote.held
  have led : Sample.linked.entry "m" = .ok (.file "old".toUTF8 0o600) := rfl
  obtain rfl : mode = 0o600 := bits _ led
  refine ⟨held, ?_, ?_⟩
  · have stays := wrote.rest ["f"] (by decide)
    rw [directory] at stays
    exact stays
  · refine wrote.reads ?_ "new" rfl
    rw [directory]
    exact eq_ok_of_toOption (by decide +kernel)

/-- A path through the entry that it ends at reads nothing once the entry is replaced. Where the way
to the temporary name is only made by the replacement, its last directory may have that name, and
a file of that name is lost. -/
theorem writes_or_keeps_crossed :
    (Sample.crossed.standing? (temporary "7" "m/../m") = none ∧
      (Sample.crossed.replaceText "7" "m/../m" "new").result = .ok () ∧
      (Sample.crossed.replaceText "7" "m/../m" "new").tree.readText "m/../m" ≠ .ok "new") ∧
    (Sample.littered.standing? (temporary "8" "x/.m.8.tmp/../m") = none ∧
      (∃ failure, (Sample.littered.replaceText "8" "x/.m.8.tmp/../m" "new").result =
        .error failure) ∧
      (Sample.littered.replaceText "8" "x/.m.8.tmp/../m" "new").tree.standing?
        (temporary "8" "x/.m.8.tmp/../m") ≠ none) ∧
    (Sample.littered.standing? (temporary "7" "x/../m") = none ∧
      (Sample.littered.replaceText "7" "x/../m" "new").result = .ok () ∧
      Sample.littered.get? [".m.7.tmp"] ≠ none ∧
      (Sample.littered.replaceText "7" "x/../m" "new").tree.get? [".m.7.tmp"] = none) := by
  refine ⟨⟨?_, ?_, ?_⟩, ⟨?_, ?_, ?_⟩, ?_, ?_, ?_, ?_⟩
  · exact Option.isNone_iff_eq_none.mp (by decide +kernel)
  · exact eq_ok_of_toOption (by decide +kernel)
  · exact ne_ok_of_toOption (by decide +kernel)
  · exact Option.isNone_iff_eq_none.mp (by decide +kernel)
  · cases refused : (Sample.littered.replaceText "8" "x/.m.8.tmp/../m" "new").result with
    | error failure => exact ⟨failure, rfl⟩
    | ok =>
        have none : (Sample.littered.replaceText "8" "x/.m.8.tmp/../m" "new").result.toOption =
            none := by decide +kernel
        rw [refused] at none
        cases none
  · exact fun absent => absurd (Option.isNone_iff_eq_none.mpr absent) (by decide +kernel)
  · exact Option.isNone_iff_eq_none.mp (by decide +kernel)
  · exact eq_ok_of_toOption (by decide +kernel)
  · exact fun absent => absurd (Option.isNone_iff_eq_none.mpr absent) (by decide +kernel)
  · exact Option.isNone_iff_eq_none.mp (by decide +kernel)

end ManifestPin.Tree
