import ManifestPin.Files.Walk
import ManifestPin.Proofs.Files.Tree

/-! # Derivations of walks

A walk that comes to a place is a chain of steps, one for each piece that it takes. What a walk
needs of its tree is read off the chain: the directories and links that it passes. -/

namespace ManifestPin

variable {tree before after : Tree} {links more : Nat}
  {location directory destination : Location}
  {piece : String} {pieces rest : List String} {place : Place}

/-- A piece that can be looked up in a directory. -/
structure Path.IsEntryName (piece : String) : Prop where
  nonempty : piece ≠ ""
  notHere : piece ≠ "."
  notUp : piece ≠ ".."
  short : piece.utf8ByteSize ≤ Tree.nameLimit

theorem Path.isNaming_eq_false : Path.isNaming piece = false ↔ piece = "" ∨ piece = "." := by
  by_cases piece = "" <;> simp [isNaming, *]

namespace Tree

/-- The location at which the target of a link starts. -/
def linkStart (target : String) (directory : Location) : Location :=
  if Path.isRooted target then [] else directory

/-- The steps of a walk to a place. -/
inductive Leads (tree : Tree) : Nat → Location → List String → Place → Prop where
  /-- No piece is left. -/
  | stop {links : Nat} {location : Location} : Leads tree links location [] (.found location)
  /-- A piece that names nothing. -/
  | skip {links : Nat} {location : Location} {piece : String} {rest : List String} {place : Place}
      (directory : tree.holdsDirectory location = true) (unnamed : Path.isNaming piece = false)
      (onward : Leads tree links location rest place) :
      Leads tree links location (piece :: rest) place
  /-- Two dots. -/
  | up {links : Nat} {location : Location} {rest : List String} {place : Place}
      (directory : tree.holdsDirectory location = true)
      (onward : Leads tree links location.tail rest place) :
      Leads tree links location (".." :: rest) place
  /-- A last name without an entry. -/
  | vacant {links : Nat} {location : Location} {piece : String}
      (directory : tree.holdsDirectory location = true) (name : Path.IsEntryName piece)
      (absent : tree.get? (piece :: location) = none) :
      Leads tree links location [piece] (.vacant location piece)
  /-- A name of a link. -/
  | follow {links : Nat} {location : Location} {piece : String} {rest : List String}
      {place : Place} {target : String}
      (directory : tree.holdsDirectory location = true) (name : Path.IsEntryName piece)
      (held : tree.get? (piece :: location) = some (.link target))
      (onward : Leads tree links (linkStart target location) (Path.pieces target ++ rest) place) :
      Leads tree (links + 1) location (piece :: rest) place
  /-- A name of anything else. -/
  | down {links : Nat} {location : Location} {piece : String} {rest : List String} {place : Place}
      {entry : Entry}
      (directory : tree.holdsDirectory location = true) (name : Path.IsEntryName piece)
      (held : tree.get? (piece :: location) = some entry)
      (noLink : ∀ target, entry ≠ .link target)
      (onward : Leads tree links (piece :: location) rest place) :
      Leads tree links location (piece :: rest) place

/-- What a walk does at a link, by the number of links that it may follow. -/
def onLink (tree : Tree) : Nat → Location → List String → Except SystemFault Place
  | 0 => fun _ _ => .error .tooManyLinks
  | links + 1 => tree.walk links

theorem walk_eq_descend (tree : Tree) (links : Nat) :
    tree.walk links = tree.descend (tree.onLink links) := by
  cases links <;> rfl

/-- A derivation gives the walk. -/
theorem Leads.walk (leads : tree.Leads links location pieces place) :
    tree.walk links location pieces = .ok place := by
  induction leads with
  | stop => rw [walk_eq_descend]; rfl
  | skip directory unnamed _ ih =>
      rw [walk_eq_descend] at ih ⊢
      simp [descend, directory, Path.isNaming_eq_false.mp unnamed, ih]
  | up directory _ ih =>
      rw [walk_eq_descend] at ih ⊢
      simp [descend, directory, ih]
  | vacant directory name absent =>
      rw [walk_eq_descend]
      simp [descend, directory, name.nonempty, name.notHere, name.notUp,
        Nat.not_lt.mpr name.short, absent]
  | follow directory name held _ ih =>
      rw [walk_eq_descend]
      simp only [descend, directory, name.nonempty, name.notHere, name.notUp,
        Nat.not_lt.mpr name.short, held, onLink]
      exact ih
  | @down _ _ _ _ _ entry directory name held noLink _ ih =>
      rw [walk_eq_descend] at ih ⊢
      cases entry with
      | link target => exact absurd rfl (noLink target)
      | _ =>
          simp [descend, directory, name.nonempty, name.notHere, name.notUp,
            Nat.not_lt.mpr name.short, held, ih]

/-- A descent to a place has a derivation, if what it does at links has. -/
theorem leads_of_descend
    (onward : ∀ location pieces place, tree.onLink links location pieces = .ok place →
      ∃ fewer, links = fewer + 1 ∧ tree.Leads fewer location pieces place)
    (descends : tree.descend (tree.onLink links) location pieces = .ok place) :
    tree.Leads links location pieces place := by
  induction pieces generalizing location with
  | nil =>
      cases descends
      exact .stop
  | cons piece rest ih =>
      unfold descend at descends
      split at descends
      · cases descends
      next directory =>
      have directory : tree.holdsDirectory location = true := by simpa using directory
      split at descends
      next unnamed =>
        have unnamed : Path.isNaming piece = false :=
          Path.isNaming_eq_false.mpr (by simpa using unnamed)
        exact .skip directory unnamed (ih descends)
      next named =>
      obtain ⟨nonempty, notHere⟩ : piece ≠ "" ∧ piece ≠ "." := by simpa using named
      split at descends
      next up =>
        subst up
        exact .up directory (ih descends)
      next notUp =>
      split at descends
      · cases descends
      next short =>
      have name : Path.IsEntryName piece := ⟨nonempty, notHere, notUp, Nat.not_lt.mp short⟩
      split at descends
      next absent =>
        split at descends
        next last =>
          obtain rfl := List.isEmpty_iff.mp last
          cases descends
          exact .vacant directory name absent
        · cases descends
      next target held =>
        obtain ⟨fewer, rfl, leads⟩ := onward _ _ _ descends
        exact .follow directory name held leads
      next entry noLink held =>
        exact .down directory name held noLink (ih descends)

/-- A walk comes to a place exactly when there is a derivation of it. -/
theorem walk_eq_ok_iff :
    tree.walk links location pieces = .ok place ↔ tree.Leads links location pieces place := by
  refine ⟨fun walked => ?_, Leads.walk⟩
  induction links generalizing location pieces place with
  | zero =>
      rw [walk_eq_descend] at walked
      exact leads_of_descend (fun _ _ _ refused => nomatch refused) walked
  | succ links ih =>
      rw [walk_eq_descend] at walked
      exact leads_of_descend (fun _ _ _ onward => ⟨links, rfl, ih onward⟩) walked

namespace Leads

/-- A derivation determines its place. -/
theorem unique {other : Place} (leads : tree.Leads links location pieces place)
    (alike : tree.Leads links location pieces other) : place = other :=
  Except.ok.inj (leads.walk.symm.trans alike.walk)

/-- A walk may be allowed more links than it follows. -/
theorem mono (leads : tree.Leads links location pieces place) (enough : links ≤ more) :
    tree.Leads more location pieces place := by
  induction leads generalizing more with
  | stop => exact .stop
  | skip directory unnamed _ ih => exact .skip directory unnamed (ih enough)
  | up directory _ ih => exact .up directory (ih enough)
  | vacant directory name absent => exact .vacant directory name absent
  | follow directory name held _ ih =>
      cases more with
      | zero => exact absurd enough (Nat.not_succ_le_zero _)
      | succ more => exact .follow directory name held (ih (Nat.le_of_succ_le_succ enough))
  | down directory name held noLink _ ih => exact .down directory name held noLink (ih enough)

/-- A walk goes on from where its first pieces lead, if the rest needs no links. -/
theorem append (leads : tree.Leads links location pieces (.found directory))
    (onward : ∀ fewer, tree.Leads fewer directory rest place) :
    tree.Leads links location (pieces ++ rest) place := by
  generalize found : Place.found directory = middle at leads
  induction leads with
  | stop =>
      cases found
      exact onward _
  | skip directory unnamed _ ih => exact .skip directory unnamed (ih found)
  | up directory _ ih => exact .up directory (ih found)
  | vacant => cases found
  | follow directory name held _ ih =>
      refine .follow directory name held ?_
      exact List.append_assoc .. ▸ ih found
  | down directory name held noLink _ ih => exact .down directory name held noLink (ih found)

/-- A walk that takes a piece starts at a directory. -/
theorem fromDirectory (leads : tree.Leads links location pieces place) (goesOn : pieces ≠ []) :
    tree.holdsDirectory location = true := by
  cases leads with
  | stop => exact absurd rfl goesOn
  | skip directory => exact directory
  | up directory => exact directory
  | vacant directory => exact directory
  | follow directory => exact directory
  | down directory => exact directory

/-- A walk to a directory starts at one. -/
theorem fromDirectory_of_found (leads : tree.Leads links location pieces (.found directory))
    (holds : tree.holdsDirectory directory = true) : tree.holdsDirectory location = true := by
  cases pieces with
  | nil =>
      cases leads
      exact holds
  | cons => exact leads.fromDirectory (List.cons_ne_nil _ _)

/-- The first pieces of a walk that goes on lead to a directory. -/
theorem append_inv (leads : tree.Leads links location (pieces ++ rest) place)
    (goesOn : rest ≠ []) :
    ∃ directory fewer, tree.Leads links location pieces (.found directory) ∧
      tree.holdsDirectory directory = true ∧ tree.Leads fewer directory rest place := by
  induction links using Nat.strongRecOn generalizing location pieces with
  | ind links fewerLinks =>
      induction pieces generalizing location with
      | nil => exact ⟨location, links, .stop, leads.fromDirectory goesOn, leads⟩
      | cons piece kept ih =>
          rw [List.cons_append] at leads
          generalize whole : kept ++ rest = others at leads
          cases leads with
          | skip holds unnamed onward =>
              obtain ⟨directory, fewer, first, last⟩ := ih (whole ▸ onward)
              exact ⟨directory, fewer, .skip holds unnamed first, last⟩
          | up holds onward =>
              obtain ⟨directory, fewer, first, last⟩ := ih (whole ▸ onward)
              exact ⟨directory, fewer, .up holds first, last⟩
          | vacant => exact absurd (List.append_eq_nil_iff.mp whole).2 goesOn
          | @follow links _ _ _ _ target holds name held onward =>
              rw [← whole, ← List.append_assoc] at onward
              obtain ⟨directory, fewer, first, last⟩ :=
                fewerLinks links (Nat.lt_succ_self _) onward
              exact ⟨directory, fewer, .follow holds name held first, last⟩
          | down holds name held noLink onward =>
              obtain ⟨directory, fewer, first, last⟩ := ih (whole ▸ onward)
              exact ⟨directory, fewer, .down holds name held noLink first, last⟩

/-- Pieces that name nothing lead nowhere else. -/
theorem stays (leads : tree.Leads links location pieces place)
    (unnamed : ∀ piece ∈ pieces, Path.isNaming piece = false) : place = .found location := by
  induction leads with
  | stop => rfl
  | skip _ _ _ ih => exact ih fun piece member => unnamed piece (List.mem_cons_of_mem _ member)
  | up => exact absurd (unnamed ".." List.mem_cons_self) (by decide)
  | vacant _ name | follow _ name | down _ name =>
      rcases Path.isNaming_eq_false.mp (unnamed _ List.mem_cons_self) with empty | dot
      · exact absurd empty name.nonempty
      · exact absurd dot name.notHere

/-- Pieces that name nothing can be taken in a directory. -/
theorem of_unnamed (holds : tree.holdsDirectory location = true)
    (unnamed : ∀ piece ∈ pieces, Path.isNaming piece = false) :
    tree.Leads links location pieces (.found location) := by
  induction pieces with
  | nil => exact .stop
  | cons piece rest ih =>
      exact .skip holds (unnamed piece List.mem_cons_self)
        (ih fun piece member => unnamed piece (List.mem_cons_of_mem _ member))

/-- Pieces that name nothing may be left out at the end of a walk. -/
theorem dropUnnamed (leads : tree.Leads links location (pieces ++ rest) (.found directory))
    (unnamed : ∀ piece ∈ rest, Path.isNaming piece = false) :
    tree.Leads links location pieces (.found directory) := by
  by_cases none : rest = []
  · simpa [none] using leads
  · obtain ⟨reached, fewer, first, -, last⟩ := leads.append_inv none
    cases last.stays unnamed
    exact first

/-- The last step of a walk finds no entry, follows a link or comes to an entry. -/
theorem lastStep (leads : tree.Leads links location [piece] place)
    (naming : Path.isNaming piece = true) (notUp : piece ≠ "..") :
    piece.utf8ByteSize ≤ nameLimit ∧
      ((tree.get? (piece :: location) = none ∧ place = .vacant location piece) ∨
        (∃ target fewer, tree.get? (piece :: location) = some (.link target) ∧
          tree.Leads fewer (linkStart target location) (Path.pieces target) place) ∨
        ∃ entry, tree.get? (piece :: location) = some entry ∧
          (∀ target, entry ≠ .link target) ∧ place = .found (piece :: location)) := by
  cases leads with
  | skip _ unnamed => exact absurd (naming.symm.trans unnamed) (by decide)
  | up => exact absurd rfl notUp
  | vacant _ name absent => exact ⟨name.short, .inl ⟨absent, rfl⟩⟩
  | follow _ name held onward =>
      rw [List.append_nil] at onward
      exact ⟨name.short, .inr (.inl ⟨_, _, held, onward⟩)⟩
  | down _ name held noLink onward =>
      cases onward
      exact ⟨name.short, .inr (.inr ⟨_, held, noLink, rfl⟩)⟩

/-- A walk passes directories and links only, before the entry that it comes to. -/
theorem of_keepsWays (keeps : before.KeepsWays after)
    (leads : before.Leads links location pieces (.found destination)) {entry : Entry}
    (held : after.get? destination = some entry) (noLink : ∀ target, entry ≠ .link target) :
    after.Leads links location pieces (.found destination) := by
  generalize found : Place.found destination = place at leads ⊢
  induction leads with
  | stop => exact .stop
  | skip passed unnamed _ ih => exact .skip (keeps.directories _ passed) unnamed (ih found)
  | up passed _ ih => exact .up (keeps.directories _ passed) (ih found)
  | vacant => cases found
  | follow passed name link _ ih =>
      exact .follow (keeps.directories _ passed) name (keeps.links _ _ link) (ih found)
  | @down _ _ _ rest _ _ passed name _ _ onward ih =>
      subst found
      cases rest with
      | nil =>
          cases onward
          exact .down (keeps.directories _ passed) name held noLink .stop
      | cons =>
          obtain ⟨mode, kept⟩ := holdsDirectory_iff.mp
            (keeps.directories _ (onward.fromDirectory (List.cons_ne_nil _ _)))
          exact .down (keeps.directories _ passed) name kept (fun _ => nofun) (ih rfl)

/-- A walk to an entry goes the same way in a tree that holds more. -/
theorem of_within (within : before.Within after)
    (leads : before.Leads links location pieces (.found destination)) :
    after.Leads links location pieces (.found destination) := by
  have passes {passed : Location} (holds : before.holdsDirectory passed = true) :
      after.holdsDirectory passed = true := within.keepsWays.directories passed holds
  generalize found : Place.found destination = place at leads ⊢
  induction leads with
  | stop => exact .stop
  | skip passed unnamed _ ih => exact .skip (passes passed) unnamed (ih found)
  | up passed _ ih => exact .up (passes passed) (ih found)
  | vacant => cases found
  | follow passed name link _ ih => exact .follow (passes passed) name (within.held _ _ link) (ih found)
  | down passed name held noLink _ ih =>
      exact .down (passes passed) name (within.held _ _ held) noLink (ih found)

/-- A walk to a directory that is lost with an entry finds a directory there, or a link whose
target leads to a directory. -/
theorem erase (leads : tree.Leads links location pieces (.found directory))
    (holds : tree.holdsDirectory directory = true) {removed : Location} (below : removed ≠ []) :
    (tree.erase removed).Leads links location pieces (.found directory) ∨
      tree.holdsDirectory removed = true ∨
      ∃ target fewer reached, tree.get? removed = some (.link target) ∧
        tree.Leads fewer (linkStart target removed.tail) (Path.pieces target) (.found reached) ∧
        tree.holdsDirectory reached = true := by
  by_cases needed : tree.holdsDirectory removed = true
  · exact .inr (.inl needed)
  have kept {other : Location} {entry : Entry} (apart : removed ≠ other)
      (held : tree.get? other = some entry) : (tree.erase removed).get? other = some entry :=
    (get?_erase_eq_some below).mpr ⟨apart, held⟩
  have keptDirectory {other : Location} (passed : tree.holdsDirectory other = true) :
      (tree.erase removed).holdsDirectory other = true := by
    obtain ⟨mode, held⟩ := holdsDirectory_iff.mp passed
    refine holdsDirectory_iff.mpr ⟨mode, kept ?_ held⟩
    exact fun same => needed (same ▸ passed)
  generalize found : Place.found directory = place at leads ⊢
  induction leads with
  | stop => exact .inl .stop
  | skip passed unnamed _ ih => exact (ih found).imp_left (.skip (keptDirectory passed) unnamed)
  | up passed _ ih => exact (ih found).imp_left (.up (keptDirectory passed))
  | vacant => cases found
  | @follow fewer location piece rest _ target passed name held onward ih =>
      by_cases same : removed = piece :: location
      · -- the entry is this link: what is left of its target's walk starts at a directory
        subst same found
        refine .inr (.inr ⟨target, fewer, ?_⟩)
        cases rest with
        | nil =>
            rw [List.append_nil] at onward
            exact ⟨directory, held, onward, holds⟩
        | cons =>
            obtain ⟨reached, _, first, reaches, _⟩ := onward.append_inv (List.cons_ne_nil _ _)
            exact ⟨reached, held, first, reaches⟩
      · exact (ih found).imp_left (.follow (keptDirectory passed) name (kept same held))
  | @down _ location piece _ _ _ passed name held noLink onward ih =>
      have apart : removed ≠ piece :: location := by
        subst found
        exact fun same => needed (same ▸ onward.fromDirectory_of_found holds)
      exact (ih found).imp_left (.down (keptDirectory passed) name (kept apart held) noLink)

end Leads

end Tree

end ManifestPin
