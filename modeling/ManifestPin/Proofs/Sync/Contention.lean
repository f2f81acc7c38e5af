import ManifestPin.Proofs.Sync.Sharing

/-! # Updates among other runs

A run that fails after another one has reported an update writes back what it found before, and so
takes the update back. It cannot do so unless it was under way when the final manifest was written:
a run that comes later finds nothing to do.
-/

namespace ManifestPin

namespace Sharing

variable {sharing : Sharing} {member : Member} {index other : Nat}
  {result : Except Failure Outcome} {schedule : List Nat}

theorem stage?_of_member (found : sharing.members[index]? = some member) :
    sharing.stage? index = some member.run.stage := by
  rw [stage?, found, Option.map_some]

theorem stage?_turn (found : sharing.members[index]? = some member) :
    (sharing.turn index).stage? index = some (member.turn sharing.tree).run.stage := by
  obtain ⟨inside, -⟩ := List.getElem?_eq_some_iff.mp found
  rw [turn_of_member found]
  exact stage?_of_member (List.getElem?_set_self inside)

theorem stage?_turn_of_ne (apart : other ≠ index) :
    (sharing.turn other).stage? index = sharing.stage? index := by
  cases found : sharing.members[other]? with
  | none => rw [turn_of_absent found]
  | some member =>
      rw [turn_of_member found]
      simp only [stage?, List.getElem?_set_ne apart]

theorem stage?_turn_of_done (done : sharing.stage? index = some (.done result)) (other : Nat) :
    (sharing.turn other).stage? index = some (.done result) := by
  by_cases same : other = index
  · subst same
    obtain ⟨member, found, done⟩ := Option.map_eq_some_iff.mp done
    rw [stage?_turn found, stage_turn_of_done done]
  · rw [stage?_turn_of_ne same, done]

theorem stage?_turns_of_done (done : sharing.stage? index = some (.done result))
    (schedule : List Nat) : (sharing.turns schedule).stage? index = some (.done result) :=
  turns_induction (·.stage? index = some (.done result)) done
    (fun _ other done => stage?_turn_of_done done other) schedule

theorem inspecting_of_start {tree : Tree} {syncs : List Sync} {stage : Stage}
    (at_start : (start tree syncs).stage? index = some stage) : stage = .inspecting := by
  obtain ⟨member, at_index, rfl⟩ := Option.map_eq_some_iff.mp at_start
  obtain ⟨sync, -, rfl⟩ := List.mem_map.mp (List.mem_of_getElem? at_index)
  rfl

/-- The turn at which a run comes to its result. -/
structure Comes (sharing : Sharing) (first : List Nat) (index : Nat)
    (result : Except Failure Outcome) : Prop where
  awaited : ∀ earlier, (sharing.turns first).stage? index ≠ some (.done earlier)
  done : ((sharing.turns first).turn index).stage? index = some (.done result)

/-- A run that is done came to its result at one of its turns. -/
theorem exists_comes (awaited : ∀ earlier, sharing.stage? index ≠ some (.done earlier))
    (done : (sharing.turns schedule).stage? index = some (.done result)) :
    ∃ first last, schedule = first ++ index :: last ∧ sharing.Comes first index result := by
  induction schedule generalizing sharing with
  | nil => exact absurd done (awaited result)
  | cons next schedule ih =>
      by_cases came : ∃ earlier, (sharing.turn next).stage? index = some (.done earlier)
      · obtain ⟨earlier, came⟩ := came
        have same : next = index := by
          by_contra apart
          rw [stage?_turn_of_ne apart] at came
          exact awaited earlier came
        subst same
        refine ⟨[], schedule, rfl, awaited, came.trans ?_⟩
        exact (stage?_turns_of_done came schedule).symm.trans done
      · obtain ⟨first, last, rfl, comes⟩ :=
          ih (fun earlier done => came ⟨earlier, done⟩) done
        exact ⟨next :: first, last, rfl, comes.awaited, comes.done⟩

end Sharing

/-- Whether a run that is at a stage has written nothing. -/
def Stage.idle : Stage → Bool
  | .inspecting | .done (.error _) | .done (.ok (.notNeeded _)) => true
  | _ => false

/-- A run that has written nothing goes on so where nothing is to be done. -/
theorem Run.Stands.idles {run : Run} {stage : Stage} {tree : Tree} {calls : List BuildCall}
    (sync : Sync) (stands : run.Stands stage tree calls)
    (nothing : ∀ found, (sync.inspect tree).2 = .ok found → found.isUpToDate = true)
    (idle : stage.idle = true) :
    ∃ next calls, (run.step sync).Stands next tree calls ∧ next.idle = true := by
  cases stage with
  | inspecting =>
      cases inspected : (sync.inspect tree).2 with
      | error failure => exact ⟨_, _, stands.inspect_of_error inspected, rfl⟩
      | ok inspection =>
          have next := stands.inspect inspected
          rw [Inspection.next, if_pos (nothing inspection inspected)] at next
          exact ⟨_, _, next, rfl⟩
  | done result => exact ⟨_, _, stands.done sync, idle⟩
  | _ => cases idle

namespace Sharing

variable {base : Sync} {tags : String → Prop} {declaration content pinned current hash : String}
  {found : Inspection} {tree : Tree} {syncs : List Sync} {sharing : Sharing} {index : Nat}
  {schedule : List Nat}

/-- Runs that leave the files alone, having found nothing to do. -/
structure Idles (base : Sync) (tree : Tree) (sharing : Sharing) : Prop where
  left : sharing.tree = tree
  alike : ∀ member ∈ sharing.members, (member.sync.inspect tree).2 = (base.inspect tree).2
  idle : ∀ member ∈ sharing.members, member.run.stage.idle = true

theorem Idles.turn
    (nothing : ∀ found, (base.inspect tree).2 = .ok found → found.isUpToDate = true)
    (idles : sharing.Idles base tree) (index : Nat) : (sharing.turn index).Idles base tree := by
  cases at_index : sharing.members[index]? with
  | none => rwa [turn_of_absent at_index]
  | some member =>
      have listed : member ∈ sharing.members := List.mem_of_getElem? at_index
      have alike := idles.alike member listed
      have stands : ({ member.run with tree := sharing.tree } : Run).Stands member.run.stage tree
          member.run.calls := ⟨rfl, idles.left, rfl⟩
      obtain ⟨next, calls, stands, idle⟩ := stands.idles member.sync
        (fun found inspected => nothing found (alike.symm.trans inspected)) (idles.idle member listed)
      rw [turn_of_member at_index]
      refine ⟨stands.tree, forall_mem_set idles.alike alike, forall_mem_set idles.idle ?_⟩
      rw [← stands.stage] at idle
      exact idle

/-- A run reports an update only if there was something to do. -/
theorem outdated_of_updated (joins : ∀ sync ∈ syncs, sync.Joins base tags declaration)
    (updated : ((start tree syncs).turns schedule).stage? index =
      some (.done (.ok (.updated pinned current hash)))) :
    ∃ found, (base.inspect tree).2 = .ok found ∧ found.isUpToDate = false := by
  by_contra none
  have nothing (found : Inspection) (inspected : (base.inspect tree).2 = .ok found) :
      found.isUpToDate = true := by
    by_contra outdated
    exact none ⟨found, inspected, Bool.eq_false_iff.mpr outdated⟩
  have begins : (start tree syncs).Idles base tree := by
    refine ⟨rfl, ?_, ?_⟩
    all_goals
      intro member listed
      obtain ⟨sync, included, rfl⟩ := List.mem_map.mp listed
    · have alike := (joins sync included).toAlike
      exact congrArg Prod.snd
        (Sync.inspect_congr alike.parameters alike.manifest alike.key tree)
    · rfl
  have idles := turns_induction (·.Idles base tree) begins
    (fun _ index idles => idles.turn nothing index) schedule
  obtain ⟨member, at_index, done⟩ := Option.map_eq_some_iff.mp updated
  have idle := idles.idle member (List.mem_of_getElem? at_index)
  rw [done] at idle
  cases idle

end Sharing

section

variable {base : Sync} {tags : String → Prop} {declaration hash : String} {found : Inspection}
  {Told : String → Prop} {before after : Edition} {stage next : Stage}

/-- A run that reports an update puts the final edition on file. -/
theorem Advances.final {pinned current : String}
    (advances : Advances found hash Told before stage after
      (.done (.ok (.updated pinned current hash))))
    (awaited : ∀ earlier, stage ≠ .done earlier) : after = .final ∧ current = found.current := by
  cases advances with
  | finishes => exact ⟨rfl, rfl⟩
  | stays => exact absurd rfl (awaited _)

/-- With the final edition on file, a run that is not under way leaves it there. -/
theorem Advances.rest (advances : Advances found hash Told .final stage after next)
    (rests : stage.underWay = false) : after = .final ∧ next.underWay = false := by
  cases advances with
  | settles | stays => exact ⟨rfl, rfl⟩
  | resumes _ unfinished => exact absurd rfl unfinished
  | refused underWay =>
      rw [rests] at underWay
      cases underWay
  | writes | told | untold | restores | finishes => cases rests

end

/-- A manifest that pins a hash, and a version equal to the declared one. -/
structure Sync.Pins (sync : Sync) (tree : Tree) (current hash : String) : Prop where
  hash : tree.pinnedValue sync.manifest .hash = .ok hash
  version : ∃ version, tree.pinnedValue sync.manifest .version = .ok version ∧
    Version.agreement version current = .ok .equal

namespace Sharing

variable {base : Sync} {tags : String → Prop} {declaration content pinned current hash : String}
  {found : Inspection} {Told : String → Prop} {tree : Tree} {syncs : List Sync} {sharing : Sharing}
  {index : Nat} {schedule : List Nat} {before after : Edition} {members : List Member}
  {member next : Member}

/-- The final edition is on file and no run is under way. -/
structure Rests (edition : Edition) (members : List Member) : Prop where
  final : edition = .final
  rest : ∀ member ∈ members, member.run.stage.underWay = false

theorem Rests.advance (rests : Rests before members) (at_index : members[index]? = some member)
    (advances : Advances found hash Told before member.run.stage after next.run.stage) :
    Rests after (members.set index next) := by
  obtain ⟨rfl, rest⟩ := rests
  obtain ⟨final, idle⟩ := advances.rest (rest member (List.mem_of_getElem? at_index))
  exact ⟨final, forall_mem_set rest idle⟩

theorem Works.pins (works : sharing.Works base tags declaration found hash Told .final)
    (outstanding : Outstanding base declaration found) (unquoted : '"' ∉ hash.toList) :
    base.Pins sharing.tree found.current hash := by
  obtain ⟨single, -⟩ := works.pinnable rfl
  have read := works.held.readText_manifest
  have path : (found.final hash).path = base.manifest :=
    (found.path_final hash).trans outstanding.path
  rw [Edition.manifest, ← path] at read
  have pinned := Manifest.value_overwrite_of_unquoted outstanding.sound.hash_provisional single
    unquoted
  obtain ⟨version, held, equal⟩ := outstanding.sound.version_final single
  constructor
  · rw [← path]
    exact Tree.pinnedValue_of_value read pinned
  · rw [← path]
    exact ⟨version, Tree.pinnedValue_of_value read held, equal⟩

theorem Strayed.turns (strayed : sharing.Strayed hash Told) (schedule : List Nat) :
    (sharing.turns schedule).Strayed hash Told :=
  turns_induction (·.Strayed hash Told) strayed (fun _ index strayed => strayed.turn index) schedule

/-- The turn at which a run comes to report an update puts the final edition on file. -/
theorem Works.comes (works : sharing.Works base tags declaration found hash Told before)
    (outstanding : Outstanding base declaration found)
    (plain : ∀ tag, tags tag → '/' ∉ tag.toList) (unquoted : '"' ∉ hash.toList)
    (awaited : ∀ earlier, sharing.stage? index ≠ some (.done earlier))
    (done : (sharing.turn index).stage? index = some (.done (.ok (.updated pinned current hash)))) :
    ((sharing.turn index).Works base tags declaration found hash Told .final ∧
      current = found.current) ∨
    (sharing.turn index).Strayed hash Told := by
  cases at_index : sharing.members[index]? with
  | none =>
      rw [turn_of_absent at_index] at done
      exact absurd done (awaited _)
  | some member =>
      rcases works.turn outstanding plain unquoted at_index with ⟨after, advances, works⟩ | strayed
      · rw [stage?_turn at_index] at done
        rw [Option.some.inj done] at advances
        rw [stage?_of_member at_index] at awaited
        obtain ⟨rfl, same⟩ := advances.final fun earlier stage => awaited earlier (by rw [stage])
        exact .inl ⟨works, same⟩
      · exact .inr strayed

/-- The runs rest once a run has come to its result while no other was under way. -/
theorem rests_turn (done : (sharing.turn index).stage? index = some (.done result))
    (others : ∀ other stage, other ≠ index → sharing.stage? other = some stage →
      stage.underWay = false) : Rests .final (sharing.turn index).members := by
  refine ⟨rfl, fun member listed => ?_⟩
  obtain ⟨place, at_place⟩ := List.mem_iff_getElem?.mp listed
  have stage := stage?_of_member at_place
  by_cases same : place = index
  · rw [same, done] at stage
    rw [← Option.some.inj stage]
    rfl
  · rw [stage?_turn_of_ne (Ne.symm same)] at stage
    exact others place _ same stage

/-- Runs on the same two files may take turns in any order: when one of them reports an update and
none reports another hash, the manifest holds what was found, the provisional or the final content
in the end. It pins the reported hash if all runs succeed, and also if no other run was under way at
the turn that put the final content on file. -/
theorem pins_of_updated (plain : ∀ tag, tags tag → '/' ∉ tag.toList)
    (held : base.Keeps tags declaration content tree)
    (joins : ∀ sync ∈ syncs, sync.Joins base tags declaration)
    (updated : ((start tree syncs).turns schedule).stage? index =
      some (.done (.ok (.updated pinned current hash))))
    (unquoted : '"' ∉ hash.toList)
    (agreed : ∀ member ∈ ((start tree syncs).turns schedule).members, ∀ pinned current told,
      member.run.stage = .done (.ok (.updated pinned current told)) → told = hash) :
    ∃ found first last, (base.inspect tree).2 = .ok found ∧ found.manifest.content = content ∧
      schedule = first ++ index :: last ∧
      (start tree syncs).Comes first index (.ok (.updated pinned current hash)) ∧
      (((start tree syncs).turns schedule).tree.readText base.manifest = .ok content ∨
        ((start tree syncs).turns schedule).tree.readText base.manifest =
          .ok found.provisional.content ∨
        ((start tree syncs).turns schedule).tree.readText base.manifest =
          .ok (found.final hash).content) ∧
      ((∀ member ∈ ((start tree syncs).turns schedule).members,
          ∃ outcome, member.run.stage = .done (.ok outcome)) ∨
        (∀ other stage, other ≠ index →
          ((start tree syncs).turns first).stage? other = some stage → stage.underWay = false) →
        base.Pins ((start tree syncs).turns schedule).tree current hash) := by
  obtain ⟨found, inspected, outdated⟩ := outdated_of_updated joins updated
  have outstanding := Outstanding.of_inspect inspected outdated held.readText_parameters
  have content : found.manifest.content = content := by
    have read := (Inspection.sound_of_inspect inspected).2.2
    exact Except.ok.inj (read.symm.trans held.readText_manifest)
  subst content
  have works : (start tree syncs).Works base tags declaration found hash (fun _ => True) .found :=
    works_start joins (fun _ _ _ _ _ _ _ => trivial) held
  obtain ⟨first, last, rfl, comes⟩ :=
    exists_comes (fun _ done => by cases inspecting_of_start done) updated
  have reached : (start tree syncs).turns (first ++ index :: last) =
      (((start tree syncs).turns first).turn index).turns last := turns_append _ _ _
  rw [reached] at agreed ⊢
  have straight : ¬((((start tree syncs).turns first).turn index).turns last).Strayed hash
      fun _ => True := by
    rintro ⟨member, listed, pinned, current, told, done, -, other⟩
    exact other (agreed member listed pinned current told done)
  have final : (((start tree syncs).turns first).turn index).Works base tags declaration found hash
      (fun _ => True) .final ∧ current = found.current := by
    rcases works.turns outstanding plain unquoted (fun _ _ => True) (fun _ _ _ => trivial) trivial
      first with ⟨before, works, -⟩ | strayed
    · rcases works.comes outstanding plain unquoted comes.awaited comes.done with ended | strayed
      · exact ended
      · exact absurd (strayed.turns last) straight
    · exact absurd ((strayed.turn index).turns last) straight
  obtain ⟨works, rfl⟩ := final
  refine ⟨found, first, last, inspected, rfl, rfl, comes, ?_, ?_⟩
  · rcases works.turns outstanding plain unquoted (fun _ _ => True) (fun _ _ _ => trivial) trivial
      last with ⟨edition, works, -⟩ | strayed
    · exact works.readText
    · exact absurd strayed straight
  · rintro (succeeded | others)
    · rcases works.turns outstanding plain unquoted Unfinished Unfinished.advance trivial last with
        ⟨edition, works, unfinished⟩ | strayed
      · obtain rfl := unfinished.final_of_succeeded succeeded
        exact works.pins outstanding unquoted
      · exact absurd strayed straight
    · rcases works.turns outstanding plain unquoted Rests Rests.advance
        (rests_turn comes.done others) last with ⟨edition, works, rests⟩ | strayed
      · obtain rfl := rests.final
        exact works.pins outstanding unquoted
      · exact absurd strayed straight

/-- The update is not taken back by a run that is told the same hash. -/
theorem pins_of_updated_twins :
    (Sample.tagged "7" "").Pins
      ((start Sample.tree Sample.twins).turns [0, 1, 0, 1, 0, 0, 1, 1]).tree "2" "def" := by
  have updated : ((start Sample.tree Sample.twins).turns [0, 1, 0, 1, 0, 0, 1, 1]).stage? 0 =
      some (.done (.ok (.updated "1" "2" "def"))) := stage?_eq_done (by decide +kernel)
  obtain ⟨found, first, last, -, -, -, -, -, pins⟩ :=
    pins_of_updated Sample.plain_tags (Sample.serves _ Sample.plain_tags) Sample.joins_twins
      updated (by decide) fun member listed pinned current told done => by
        rw [Sample.done_twins member listed] at done
        cases done
        rfl
  exact pins (.inl fun member listed => ⟨_, Sample.done_twins member listed⟩)

end Sharing

namespace Sample

/-- A run that is told a hash, and one that is told none. -/
def rivals : List Sync :=
  [tagged "7" "got: def\n", tagged "8" "error\n"]

end Sample

/-- A run that fails takes back an update that was reported after its inspection. -/
theorem Sharing.pins_of_updated_rivals :
    ((start Sample.tree Sample.rivals).turns [1, 0, 0, 0, 0, 1, 1, 1]).stage? 0 =
        some (.done (.ok (.updated "1" "2" "def"))) ∧
      ((start Sample.tree Sample.rivals).turns [1, 0, 0, 0, 0, 1, 1, 1]).stage? 1 =
        some (.done (.error (.undiscovered "build" (.unreported "error")))) ∧
      ((start Sample.tree Sample.rivals).turns [1, 0, 0, 0, 0, 1, 1, 1]).tree.readText "p" =
        Sample.tree.readText "p" ∧
      ((start Sample.tree Sample.rivals).turns [1, 0, 0, 0, 0, 1, 1, 1]).tree.readText "a/m" =
        .ok "version = \"1\"\nsha256 = \"abc\"\n" ∧
      ¬(Sample.tagged "7" "").Pins
        ((start Sample.tree Sample.rivals).turns [1, 0, 0, 0, 0, 1, 1, 1]).tree "2" "def" := by
  have pinned : ((start Sample.tree Sample.rivals).turns
      [1, 0, 0, 0, 0, 1, 1, 1]).tree.pinnedValue "a/m" .hash = .ok "abc" :=
    eq_ok_of_toOption (by decide +kernel)
  refine ⟨stage?_eq_done (by decide +kernel), stage?_eq_done (by decide +kernel), ?_,
    eq_ok_of_toOption (by decide +kernel), fun pins => ?_⟩
  · rw [Sample.declaration]
    exact eq_ok_of_toOption (by decide +kernel)
  · exact absurd (Except.ok.inj (pinned.symm.trans pins.hash)) (by decide)

end ManifestPin
