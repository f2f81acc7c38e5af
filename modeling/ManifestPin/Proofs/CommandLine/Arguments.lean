import Mathlib.Data.List.TakeWhile
import ManifestPin.CommandLine.Options

/-! # Arguments without a switch

A command line that is accepted is accepted without `--dry-run` too, and then asks for the same run,
only not for a dry one. The reading that does not meet the switch may apply the setting before it
later than the one that does.
-/

namespace ManifestPin.CommandLine

theorem Flag.name_of_ofName? {name : String} {flag : Flag} (found : Flag.ofName? name = some flag) :
    flag.name = name := by
  simpa using List.find?_some found

theorem Flag.letter?_of_ofLetter? {letter : Char} {flag : Flag}
    (found : Flag.ofLetter? letter = some flag) : flag.letter? = some letter := by
  simpa using List.find?_some found

namespace Reading

variable {dry : Bool} {full full' short short' : Reading} {options : Options} {setting : Setting}
  {switch : Switch} {value : Option String} {argument : String}

/-- Two readings that differ in nothing but what `--dry-run` did to the first. -/
structure Alike (dry : Bool) (full short : Reading) : Prop where
  options : full.options = { short.options with dryRun := dry }
  wet : short.options.dryRun = false
  given : ∀ flag, flag ≠ .switch .dryRun → (flag ∈ full.given ↔ flag ∈ short.given)
  pending : full.pending = short.pending

/-- Two readings that are alike, at the latest when the second applies its last setting. -/
inductive Near (dry : Bool) (full short : Reading) : Prop where
  | alike (alike : Alike dry full short)
  | behind (settled : Reading) (idle : full.pending = none)
      (settles : short.settle = (settled, none)) (alike : Alike dry full settled)

theorem mem_mark {reading : Reading} {flag other : Flag} :
    other ∈ (reading.mark flag).given ↔ other = flag ∨ other ∈ reading.given := by
  unfold mark
  split
  next given =>
    have member := List.contains_iff_mem.mp given
    exact ⟨.inr, fun either => either.elim (· ▸ member) id⟩
  next => simp [or_comm]

theorem options_mark (reading : Reading) (flag : Flag) :
    (reading.mark flag).options = reading.options := by
  unfold mark
  split <;> rfl

theorem pending_mark (reading : Reading) (flag : Flag) :
    (reading.mark flag).pending = reading.pending := by
  unfold mark
  split <;> rfl

theorem put_dryRun (options : Options) (value : String) (setting : Setting) (dry : Bool) :
    put { options with dryRun := dry } value setting =
      { put options value setting with dryRun := dry } := by
  cases setting <;> rfl

theorem dryRun_put (options : Options) (value : String) (setting : Setting) :
    (put options value setting).dryRun = options.dryRun := by
  cases setting <;> rfl

theorem settled_of_settle {next : Reading → Reading ⊕ Request}
    (settles : short.settle = (short', none)) : short.settled next = next short' := by
  rw [settled, settles]

theorem settle_of_settled {next : Reading → Reading ⊕ Request}
    (reads : full.settled next = .inl full') :
    ∃ reading, full.settle = (reading, none) ∧ next reading = .inl full' := by
  unfold settled at reads
  split at reads
  next reading settles => exact ⟨reading, settles, reads⟩
  next => cases reads

namespace Alike

variable (alike : Alike dry full short)

include alike

theorem pend (pending : Option (Setting × Option String)) :
    Alike dry { full with pending } { short with pending } :=
  ⟨alike.options, alike.wet, alike.given, rfl⟩

theorem mark (flag : Flag) : Alike dry (full.mark flag) (short.mark flag) where
  options := by rw [options_mark, options_mark, alike.options]
  wet := by rw [options_mark, alike.wet]
  given := fun other apart => by rw [mem_mark, mem_mark, alike.given other apart]
  pending := by rw [pending_mark, pending_mark, alike.pending]

/-- Readings with other options that differ in nothing but dryness are alike as well. -/
theorem choose {dry : Bool} {first second : Options}
    (options : first = { second with dryRun := dry }) (wet : second.dryRun = false) :
    Alike dry { full with options := first } { short with options := second } :=
  ⟨options, wet, alike.given, alike.pending⟩

/-- A setting is applied alike. -/
theorem settle (settles : full.settle = (full', none)) :
    ∃ short', short.settle = (short', none) ∧ Alike dry full' short' ∧ full'.pending = none := by
  unfold Reading.settle at settles ⊢
  rw [← alike.pending]
  cases pending : full.pending with
  | none =>
      rw [pending] at settles
      cases settles
      exact ⟨short, rfl, alike, pending⟩
  | some waiting =>
      obtain ⟨setting, _ | value⟩ := waiting
      · rw [pending] at settles
        cases settles
      · have same := alike.given (.setting setting) (by simp)
        rw [pending] at settles
        simp only [List.contains_iff_mem, ← same] at settles ⊢
        split at settles
        · cases settles
        · split at settles
          · cases settles
          next fresh proper =>
            cases settles
            rw [if_neg fresh, if_neg proper]
            have marked := (alike.pend none).mark (.setting setting)
            refine ⟨_, rfl, marked.choose ?_ ?_, pending_mark _ _⟩
            · rw [alike.options, put_dryRun]
            · rw [dryRun_put, alike.wet]

end Alike

namespace Near

variable (near : Near dry full short)

include near

theorem settle (settles : full.settle = (full', none)) :
    ∃ short', short.settle = (short', none) ∧ Alike dry full' short' ∧ full'.pending = none := by
  cases near with
  | alike alike => exact alike.settle settles
  | behind settled idle behind alike =>
      unfold Reading.settle at settles
      rw [idle] at settles
      cases settles
      exact ⟨settled, behind, alike, idle⟩

theorem take (reads : full.take setting value = .inl full') :
    ∃ short', short.take setting value = .inl short' ∧ Near dry full' short' := by
  unfold Reading.take at reads ⊢
  obtain ⟨first, settles, reads⟩ := settle_of_settled reads
  obtain ⟨second, settled, alike, -⟩ := near.settle settles
  rw [settled_of_settle settled]
  cases value with
  | none =>
      cases reads
      exact ⟨_, rfl, .alike (alike.pend _)⟩
  | some value =>
      obtain ⟨last, settles, reads⟩ := settle_of_settled reads
      obtain ⟨short', settled, alike, -⟩ :=
        (alike.pend (some (setting, some value))).settle settles
      cases reads
      exact ⟨short', settled_of_settle settled, .alike alike⟩

/-- Each other switch is applied alike. -/
theorem turn (apart : switch ≠ .dryRun) (reads : full.turn switch = .inl full') :
    ∃ short', short.turn switch = .inl short' ∧ Near dry full' short' := by
  unfold Reading.turn at reads ⊢
  obtain ⟨first, settles, reads⟩ := settle_of_settled reads
  obtain ⟨second, settled, alike, -⟩ := near.settle settles
  rw [settled_of_settle settled]
  cases switch with
  | dryRun => exact absurd rfl apart
  | help | version => cases reads
  | verbose =>
      have same := alike.given (.switch .verbose) (by simp)
      simp only [List.contains_iff_mem, ← same] at reads ⊢
      split at reads
      · cases reads
      next fresh =>
        cases reads
        rw [if_neg fresh]
        refine ⟨_, rfl, .alike ((alike.mark _).choose ?_ alike.wet)⟩
        rw [alike.options]

/-- The switch that the second reading does not meet. -/
theorem turn_dryRun (reads : full.turn .dryRun = .inl full') : Near true full' short := by
  unfold Reading.turn at reads
  obtain ⟨first, settles, reads⟩ := settle_of_settled reads
  obtain ⟨second, settled, alike, idle⟩ := near.settle settles
  simp only at reads
  split at reads
  · cases reads
  · cases reads
    refine .behind second (by rw [← idle, pending_mark]) settled ⟨?_, alike.wet, ?_, ?_⟩
    · rw [alike.options]
    · intro flag apart
      rw [mem_mark, alike.given flag apart]
      simp [apart]
    · rw [pending_mark, alike.pending]

theorem readLetters (letters : List Char) (reads : full.readLetters letters = .inl full') :
    ∃ short', short.readLetters letters = .inl short' ∧ Near dry full' short' := by
  induction letters generalizing full short with
  | nil =>
      cases reads
      exact ⟨short, rfl, near⟩
  | cons letter rest ih =>
      unfold Reading.readLetters at reads ⊢
      cases found : Flag.ofLetter? letter with
      | none =>
          rw [found] at reads
          cases reads
      | some flag =>
          rw [found] at reads
          cases flag with
          | setting setting =>
              simp only at reads ⊢
              split at reads
              · exact near.take reads
              · exact near.take reads
              · exact near.take reads
          | switch switch =>
              have apart : switch ≠ .dryRun := by
                rintro rfl
                cases Flag.letter?_of_ofLetter? found
              simp only at reads ⊢
              split at reads
              next turned =>
                obtain ⟨short', turns, near⟩ := near.turn apart turned
                rw [turns]
                exact ih near reads
              next => cases reads

theorem readNamed {text : List Char} (apart : text ≠ "dry-run".toList)
    (reads : full.readNamed text = .inl full') :
    ∃ short', short.readNamed text = .inl short' ∧ Near dry full' short' := by
  unfold Reading.readNamed at reads ⊢
  simp only at reads ⊢
  cases found : Flag.ofName? (String.ofList (text.takeWhile (· ≠ '='))) with
  | none =>
      rw [found] at reads
      cases reads
  | some flag =>
      rw [found] at reads
      cases flag with
      | setting setting => exact near.take reads
      | switch switch =>
          cases behind : text.dropWhile (· ≠ '=') with
          | cons equals value =>
              rw [behind] at reads
              cases reads
          | nil =>
              rw [behind] at reads
              refine near.turn ?_ reads
              rintro rfl
              -- Without a value the name is the whole text.
              have whole := List.takeWhile_append_dropWhile (p := (· ≠ '=')) (l := text)
              rw [behind, List.append_nil] at whole
              rw [whole] at found
              have name : "dry-run" = String.ofList text := Flag.name_of_ofName? found
              exact apart (by rw [name, String.toList_ofList])

/-- Each other argument is read alike. -/
theorem readArgument (apart : argument ≠ "--dry-run")
    (reads : full.readArgument argument = .inl full') :
    ∃ short', short.readArgument argument = .inl short' ∧ Near dry full' short' := by
  unfold Reading.readArgument at reads ⊢
  split at reads
  next text named =>
    simp only [named]
    refine near.readNamed ?_ reads
    rintro rfl
    exact apart (String.toList_injective named)
  next letter letters single text =>
    simp only [text]
    exact near.readLetters _ reads
  next setting waits unnamed unlettered =>
    cases reads
    cases near with
    | behind settled idle => simp [idle] at waits
    | alike alike =>
        have same : short.pending = some (setting, none) := alike.pending.symm.trans waits
        simp only [same]
        exact ⟨_, rfl, .alike (alike.pend _)⟩
  next => cases reads

end Near

theorem settled_ne_run {next : Reading → Reading ⊕ Request}
    (goes : ∀ reading options, next reading ≠ .inr (.run options)) :
    full.settled next ≠ .inr (.run options) := by
  unfold settled
  split
  · exact goes _ _
  · simp

theorem take_ne_run : full.take setting value ≠ .inr (.run options) := by
  unfold take
  refine settled_ne_run fun reading options => ?_
  cases value with
  | none => simp
  | some value => exact settled_ne_run fun _ _ => by simp

theorem turn_ne_run : full.turn switch ≠ .inr (.run options) := by
  unfold turn
  refine settled_ne_run fun reading options => ?_
  cases switch
  all_goals
    simp only
    try split
    all_goals simp

theorem readLetters_ne_run (letters : List Char) :
    full.readLetters letters ≠ .inr (.run options) := by
  induction letters generalizing full with
  | nil => simp [readLetters]
  | cons letter rest ih =>
      unfold readLetters
      split
      · simp [unexpected]
      · split <;> exact take_ne_run
      next switch _ =>
        split
        · exact ih
        next request turned =>
          intro same
          rw [Sum.inr.inj same] at turned
          exact turn_ne_run turned

/-- An argument does not end the reading with a run. -/
theorem readArgument_ne_run : full.readArgument argument ≠ .inr (.run options) := by
  unfold readArgument
  split
  · unfold readNamed
    simp only
    split
    · exact take_ne_run
    · exact turn_ne_run
    · simp
    · simp
  · exact readLetters_ne_run _
  · simp
  · simp [unexpected]

theorem readArgument_dryRun (reading : Reading) :
    reading.readArgument "--dry-run" = reading.turn .dryRun := by
  rfl

theorem readArguments_of_inl (apart : argument ≠ "--")
    (reads : full.readArgument argument = .inl full') (more : List String) :
    full.readArguments (argument :: more) = full'.readArguments more := by
  cases more <;> simp [readArguments, apart, reads]

theorem readArguments_of_inr (apart : argument ≠ "--") {request : Request}
    (reads : full.readArgument argument = .inr request) (more : List String) :
    full.readArguments (argument :: more) = request := by
  cases more <;> simp [readArguments, apart, reads]

theorem Near.finish (near : Near dry full short) (accepted : full.finish = .run options) :
    short.finish = .run { options with dryRun := false } ∧ options.dryRun = dry := by
  unfold Reading.finish at accepted ⊢
  split at accepted
  next settles =>
    obtain ⟨settled, behind, alike, -⟩ := near.settle settles
    cases accepted
    rw [behind, alike.options, ← alike.wet]
    exact ⟨rfl, rfl⟩
  next => cases accepted

/-- What is accepted with the switch is accepted without it. -/
theorem Near.readArguments (near : Near dry full short) {arguments : List String}
    (accepted : full.readArguments arguments = .run options) :
    short.readArguments (arguments.filter (· ≠ "--dry-run")) =
        .run { options with dryRun := false } ∧
      (options.dryRun = true ↔ dry = true ∨ "--dry-run" ∈ arguments) := by
  induction arguments generalizing dry full short with
  | nil =>
      obtain ⟨wet, same⟩ := near.finish accepted
      exact ⟨wet, by simp [same]⟩
  | cons argument more ih =>
      by_cases last : argument = "--"
      · subst last
        cases more with
        | nil =>
            obtain ⟨wet, same⟩ := near.finish accepted
            exact ⟨wet, by simp [same]⟩
        | cons => cases accepted
      -- From here on no argument is two hyphens, so each is read by itself.
      cases reads : full.readArgument argument with
      | inr request =>
          rw [readArguments_of_inr last reads] at accepted
          exact absurd (accepted ▸ reads) readArgument_ne_run
      | inl next =>
          rw [readArguments_of_inl last reads] at accepted
          by_cases switch : argument = "--dry-run"
          · subst switch
            rw [readArgument_dryRun] at reads
            obtain ⟨wet, dry⟩ := ih (near.turn_dryRun reads) accepted
            rw [List.filter_cons_of_neg (by simp)]
            exact ⟨wet, by simpa using dry⟩
          · obtain ⟨short', follows, near⟩ := near.readArgument switch reads
            obtain ⟨wet, dry⟩ := ih near accepted
            rw [List.filter_cons_of_pos (by simpa using switch),
              readArguments_of_inl last follows]
            exact ⟨wet, by simpa [Ne.symm switch] using dry⟩

end Reading

/-- An accepted command line asks for the same run without `--dry-run`, and for a dry one exactly if
it has that switch. -/
theorem Request.ofArguments_filter {arguments : List String} {options : Options}
    (accepted : Request.ofArguments arguments = .run options) :
    Request.ofArguments (arguments.filter (· ≠ "--dry-run")) =
        .run { options with dryRun := false } ∧
      (options.dryRun = true ↔ "--dry-run" ∈ arguments) := by
  have alike : Reading.Alike false Reading.start Reading.start :=
    ⟨rfl, rfl, fun _ _ => Iff.rfl, rfl⟩
  obtain ⟨wet, dry⟩ := (Reading.Near.alike alike).readArguments accepted
  exact ⟨wet, by simpa using dry⟩

end ManifestPin.CommandLine
