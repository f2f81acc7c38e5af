import ManifestPin.Config.Decode
import ManifestPin.Proofs.Results
import ManifestPin.Proofs.Toml.Keys

/-! # Settings of a document

A document states a setting under the setting's own key, for the build command also at its position
in a sequence. As no table has a key twice, every setting is what the document states for it, or
else its default, whatever other keys there are and in whatever order (`ofEntries_congr`).
-/

namespace ManifestPin

open Toml (Value Entries)

namespace Toml.Value

variable {value : Value} {expected : Expected} {text : String} {texts : List String}

theorem asText_eq_ok_iff : value.asText expected = .ok text ↔ value = .text text := by
  cases value <;> simp [asText]

theorem asTexts_eq_ok_iff :
    value.asTexts = .ok texts ↔ value.elements? = some (texts.map .text) := by
  have each (elements : List Value) :
      elements.mapM (asText .text) = .ok texts ↔ elements = texts.map .text := by
    induction elements generalizing texts with
    | nil => cases texts <;> simp [pure, Except.pure]
    | cons element elements ih =>
        rw [List.mapM_cons, bind_eq_ok_iff]
        constructor
        · rintro ⟨first, read, more⟩
          obtain ⟨others, further, done⟩ := bind_eq_ok_iff.mp more
          cases done
          rw [asText_eq_ok_iff.mp read, ih.mp further, List.map_cons]
        · intro same
          cases texts with
          | nil => cases same
          | cons first others =>
              obtain ⟨rfl, rfl⟩ := List.cons.inj same
              exact ⟨first, rfl, bind_eq_ok_iff.mpr ⟨others, ih.mpr rfl, rfl⟩⟩
  unfold asTexts
  cases value.elements? with
  | none => simp
  | some elements => simp [each]

/-- A map is no sequence. -/
theorem elements?_of_entries? {entries : Entries} (map : value.entries? = some entries) :
    value.elements? = none := by
  cases value <;> first | rfl | cases map

/-- A part of a value: what a map holds under a key, or a sequence at a position. -/
inductive Part (value : Value) (key : String) (position : Nat) (part : Value) : Prop where
  | keyed (entries : Entries) (map : value.entries? = some entries)
      (member : (key, part) ∈ entries)
  | placed (elements : List Value) (sequence : value.elements? = some elements)
      (element : elements[position]? = some part)

variable {key : String} {position : Nat} {part other : Value}

theorem part_iff_mem {entries : Entries} (map : value.entries? = some entries) :
    value.Part key position part ↔ (key, part) ∈ entries := by
  refine ⟨fun given => ?_, .keyed entries map⟩
  cases given with
  | keyed others same member =>
      obtain rfl := Option.some.inj (map.symm.trans same)
      exact member
  | placed elements sequence =>
      rw [elements?_of_entries? map] at sequence
      cases sequence

theorem part_iff_getElem? {elements : List Value} (sequence : value.elements? = some elements) :
    value.Part key position part ↔ elements[position]? = some part := by
  refine ⟨fun given => ?_, .placed elements sequence⟩
  cases given with
  | keyed entries map =>
      rw [elements?_of_entries? map] at sequence
      cases sequence
  | placed others same element =>
      obtain rfl := Option.some.inj (sequence.symm.trans same)
      exact element

theorem Distinct.entries? {entries : Entries} (distinct : value.Distinct)
    (map : value.entries? = some entries) : entries.Distinct := by
  cases distinct with
  | table origin inner keys each =>
      cases map
      exact ⟨keys, each⟩
  | moment =>
      cases map
      exact .nil
  | _ => cases map

theorem Part.unique (given : value.Part key position part) (distinct : value.Distinct)
    (again : value.Part key position other) : part = other := by
  cases given with
  | keyed entries map member =>
      exact (distinct.entries? map).eq_of_mem member ((part_iff_mem map).mp again)
  | placed elements sequence element =>
      exact Option.some.inj (element.symm.trans ((part_iff_getElem? sequence).mp again))

end Toml.Value

namespace Toml.Entries

variable {σ ε α : Type} {set : σ → String × Value → Except ε σ} {entries : Entries}
  {start final : σ} {key : String}

/-- What is read from the value that is given, or a fallback where none is given. -/
def Taken (given : Value → Prop) (read : Value → Except ε α) (fallback taken : α) : Prop :=
  (∃ value, given value ∧ read value = .ok taken) ∨ (∀ value, ¬given value) ∧ taken = fallback

/-- When the entries of a table are applied one after the other, a field that one key alone changes
is read from the value of that key. -/
theorem taken_of_foldlM {field : σ → α} {read : Value → Except ε α}
    (step : ∀ state entry after, set state entry = .ok after →
      (entry.1 = key → read entry.2 = .ok (field after)) ∧
      (entry.1 ≠ key → field after = field state))
    (keys : (entries.map Prod.fst).Nodup) (run : entries.foldlM set start = .ok final) :
    Taken (fun value => (key, value) ∈ entries) read (field start) (field final) := by
  induction entries generalizing start with
  | nil =>
      cases run
      exact .inr ⟨fun _ => List.not_mem_nil, rfl⟩
  | cons entry rest ih =>
      rw [List.foldlM_cons] at run
      obtain ⟨between, first, run⟩ := bind_eq_ok_iff.mp run
      obtain ⟨fresh, keys⟩ := List.nodup_cons.mp keys
      obtain ⟨reads, keeps⟩ := step start entry between first
      by_cases same : entry.1 = key
      · subst same
        -- no later entry has the key
        rcases ih keys run with ⟨value, member, -⟩ | ⟨-, kept⟩
        · exact absurd (List.mem_map_of_mem member) fresh
        · exact .inl ⟨entry.2, List.mem_cons_self, kept ▸ reads rfl⟩
      · rcases ih keys run with ⟨value, member, read⟩ | ⟨none, kept⟩
        · exact .inl ⟨value, List.mem_cons_of_mem _ member, read⟩
        · refine .inr ⟨fun value member => ?_, kept.trans (keeps same)⟩
          rcases List.mem_cons.mp member with rfl | member
          · exact same rfl
          · exact none value member

/-- Entries can be applied where each of them can. -/
theorem exists_foldlM_iff {fits : String × Value → Prop}
    (step : ∀ state entry, (∃ after, set state entry = .ok after) ↔ fits entry) (start : σ) :
    (∃ final, entries.foldlM set start = .ok final) ↔ ∀ entry ∈ entries, fits entry := by
  induction entries generalizing start with
  | nil => simp [pure, Except.pure]
  | cons entry rest ih =>
      rw [List.foldlM_cons, List.forall_mem_cons, ← step start entry]
      constructor
      · rintro ⟨final, run⟩
        obtain ⟨between, first, run⟩ := bind_eq_ok_iff.mp run
        exact ⟨⟨between, first⟩, (ih between).mp ⟨final, run⟩⟩
      · rintro ⟨⟨between, first⟩, more⟩
        obtain ⟨final, run⟩ := (ih between).mpr more
        exact ⟨final, bind_eq_ok_iff.mpr ⟨between, first, run⟩⟩

end Toml.Entries

namespace BuildCommand

open Toml.Entries (Taken)

variable {build after : BuildCommand} {entry : String × Value} {value other : Value}

/-- What an entry does to a command. -/
inductive Sets (build : BuildCommand) (entry : String × Value) : BuildCommand → Prop where
  | program (key : entry.1 = "program") (text : String) (value : entry.2 = .text text) :
      Sets build entry { build with program := text }
  | arguments (key : entry.1 = "args") (texts : List String)
      (value : entry.2.elements? = some (texts.map .text)) :
      Sets build entry { build with arguments := texts }
  | unknown (key : entry.1 ≠ "program" ∧ entry.1 ≠ "args") : Sets build entry build

theorem setEntry_eq_ok_iff : build.setEntry entry = .ok after ↔ build.Sets entry after := by
  unfold setEntry
  constructor
  · intro set
    split at set
    next key =>
      obtain ⟨text, read, done⟩ := bind_eq_ok_iff.mp set
      cases done
      exact .program key text (Value.asText_eq_ok_iff.mp read)
    next apart =>
      split at set
      next key =>
        obtain ⟨texts, read, done⟩ := bind_eq_ok_iff.mp set
        cases done
        exact .arguments key texts (Value.asTexts_eq_ok_iff.mp read)
      next further =>
        cases set
        exact .unknown ⟨apart, further⟩
  · intro sets
    cases sets with
    | program key text value =>
        rw [if_pos key]
        exact bind_eq_ok_iff.mpr ⟨text, Value.asText_eq_ok_iff.mpr value, rfl⟩
    | arguments key texts value =>
        rw [if_neg (by simp [key]), if_pos key]
        exact bind_eq_ok_iff.mpr ⟨texts, Value.asTexts_eq_ok_iff.mpr value, rfl⟩
    | unknown key =>
        rw [if_neg key.1, if_neg key.2]
        rfl

/-- An entry that can be applied: what a known key holds is of its kind. -/
structure Fits (entry : String × Value) : Prop where
  program : entry.1 = "program" → ∃ text, entry.2 = .text text
  arguments : entry.1 = "args" → ∃ texts : List String, entry.2.elements? = some (texts.map .text)

theorem exists_setEntry_iff (build : BuildCommand) (entry : String × Value) :
    (∃ after, build.setEntry entry = .ok after) ↔ Fits entry := by
  simp only [setEntry_eq_ok_iff]
  constructor
  · rintro ⟨after, sets⟩
    cases sets with
    | program key text value => exact ⟨fun _ => ⟨text, value⟩, by simp [key]⟩
    | arguments key texts value => exact ⟨by simp [key], fun _ => ⟨texts, value⟩⟩
    | unknown key =>
        exact ⟨fun same => absurd same key.1, fun same => absurd same key.2⟩
  · intro fits
    by_cases program : entry.1 = "program"
    · obtain ⟨text, value⟩ := fits.program program
      exact ⟨_, .program program text value⟩
    by_cases arguments : entry.1 = "args"
    · obtain ⟨texts, value⟩ := fits.arguments arguments
      exact ⟨_, .arguments arguments texts value⟩
    exact ⟨build, .unknown ⟨program, arguments⟩⟩

theorem program_of_setEntry (build : BuildCommand) (entry : String × Value)
    (after : BuildCommand) (set : build.setEntry entry = .ok after) :
    (entry.1 = "program" → entry.2.asText .text = .ok after.program) ∧
      (entry.1 ≠ "program" → after.program = build.program) := by
  cases setEntry_eq_ok_iff.mp set with
  | program key text value =>
      exact ⟨fun _ => Value.asText_eq_ok_iff.mpr value, fun apart => absurd key apart⟩
  | arguments key => exact ⟨by simp [key], fun _ => rfl⟩
  | unknown key => exact ⟨fun same => absurd same key.1, fun _ => rfl⟩

theorem arguments_of_setEntry (build : BuildCommand) (entry : String × Value)
    (after : BuildCommand) (set : build.setEntry entry = .ok after) :
    (entry.1 = "args" → entry.2.asTexts = .ok after.arguments) ∧
      (entry.1 ≠ "args" → after.arguments = build.arguments) := by
  cases setEntry_eq_ok_iff.mp set with
  | program key => exact ⟨by simp [key], fun _ => rfl⟩
  | arguments key texts value =>
      exact ⟨fun _ => Value.asTexts_eq_ok_iff.mpr value, fun apart => absurd key apart⟩
  | unknown key => exact ⟨fun same => absurd same key.2, fun _ => rfl⟩

/-- The parts of a command that a value gives, and the defaults of those that it does not. -/
structure Stated (value : Value) (build : BuildCommand) : Prop where
  program : Taken (value.Part "program" 0) (Value.asText .text) BuildCommand.default.program
    build.program
  arguments : Taken (value.Part "args" 1) Value.asTexts BuildCommand.default.arguments
    build.arguments

theorem stated_of_ofElements {elements : List Value}
    (sequence : value.elements? = some elements) (read : ofElements elements = .ok build) :
    Stated value build := by
  have parts (key : String) (position : Nat) :
      value.Part key position = fun part => elements[position]? = some part := by
    funext part
    exact propext (Value.part_iff_getElem? sequence)
  unfold ofElements at read
  split at read
  · cases read
    refine ⟨?_, ?_⟩ <;> rw [parts] <;> exact .inr ⟨by simp, rfl⟩
  next program =>
    obtain ⟨text, given, done⟩ := bind_eq_ok_iff.mp read
    cases done
    constructor
    · rw [parts]
      exact .inl ⟨program, rfl, given⟩
    · rw [parts]
      exact .inr ⟨by simp, rfl⟩
  next program arguments _ =>
    obtain ⟨text, given, read⟩ := bind_eq_ok_iff.mp read
    obtain ⟨texts, further, done⟩ := bind_eq_ok_iff.mp read
    cases done
    constructor
    · rw [parts]
      exact .inl ⟨program, rfl, given⟩
    · rw [parts]
      exact .inl ⟨arguments, rfl, further⟩

theorem ofValue_of_entries? {entries : Entries} (map : value.entries? = some entries) :
    ofValue value = entries.foldlM setEntry default := by
  simp only [ofValue, map]

theorem ofValue_of_elements? {elements : List Value} (sequence : value.elements? = some elements) :
    ofValue value = ofElements elements := by
  cases map : value.entries? with
  | some entries =>
      rw [Value.elements?_of_entries? map] at sequence
      cases sequence
  | none => simp only [ofValue, map, sequence]

theorem stated_of_ofValue (distinct : value.Distinct) (read : ofValue value = .ok build) :
    Stated value build := by
  cases map : value.entries? with
  | some entries =>
      have keys := (distinct.entries? map).keys
      have parts (key : String) (position : Nat) :
          value.Part key position = fun part => (key, part) ∈ entries := by
        funext part
        exact propext (Value.part_iff_mem map)
      rw [ofValue_of_entries? map] at read
      constructor
      · rw [parts]
        exact Toml.Entries.taken_of_foldlM program_of_setEntry keys read
      · rw [parts]
        exact Toml.Entries.taken_of_foldlM arguments_of_setEntry keys read
  | none =>
      cases sequence : value.elements? with
      | some elements =>
          rw [ofValue_of_elements? sequence] at read
          exact stated_of_ofElements sequence read
      | none => simp [ofValue, map, sequence] at read

/-- Surplus elements are ignored. -/
theorem ofElements_take (elements : List Value) :
    ofElements (elements.take 2) = ofElements elements := by
  rcases elements with _ | ⟨program, _ | ⟨arguments, rest⟩⟩ <;> rfl

/-- Values that give the same parts of a command: maps that hold the same under the known keys, or
sequences that start with the same elements. -/
inductive Alike (value other : Value) : Prop where
  | maps (entries others : Entries) (map : value.entries? = some entries)
      (mapped : other.entries? = some others)
      (same : ∀ key ∈ ["program", "args"], ∀ part, (key, part) ∈ entries ↔ (key, part) ∈ others)
  | sequences (elements others : List Value) (sequence : value.elements? = some elements)
      (sequenced : other.elements? = some others) (same : elements.take 2 = others.take 2)

theorem Alike.part_iff (alike : Alike value other) {key : String}
    (known : key ∈ ["program", "args"]) {position : Nat} (early : position < 2) (part : Value) :
    value.Part key position part ↔ other.Part key position part := by
  cases alike with
  | maps entries others map mapped same =>
      rw [Value.part_iff_mem map, Value.part_iff_mem mapped]
      exact same key known part
  | sequences elements others sequence sequenced same =>
      rw [Value.part_iff_getElem? sequence, Value.part_iff_getElem? sequenced,
        ← List.getElem?_take_of_lt early, same, List.getElem?_take_of_lt early]

/-- A value that is alike to a command is one. -/
theorem Alike.exists_ofValue (alike : Alike value other) (read : ofValue value = .ok build) :
    ∃ command, ofValue other = .ok command := by
  cases alike with
  | maps entries others map mapped same =>
      rw [ofValue_of_entries? map] at read
      have fits := (Toml.Entries.exists_foldlM_iff exists_setEntry_iff default).mp ⟨build, read⟩
      rw [ofValue_of_entries? mapped]
      refine (Toml.Entries.exists_foldlM_iff exists_setEntry_iff default).mpr ?_
      rintro ⟨key, part⟩ member
      constructor
      · rintro rfl
        exact (fits _ ((same _ (by simp) part).mpr member)).program rfl
      · rintro rfl
        exact (fits _ ((same _ (by simp) part).mpr member)).arguments rfl
  | sequences elements others sequence sequenced same =>
      rw [ofValue_of_elements? sequence, ← ofElements_take, same, ofElements_take] at read
      exact ⟨build, (ofValue_of_elements? sequenced).trans read⟩

end BuildCommand

namespace Config

open Toml.Entries (Taken)

variable {config after : Config} {entry : String × Value} {entries others : Entries}

/-- A setting of a run. -/
inductive Setting where
  | parameters
  | manifest
  | versionKey
  | program
  | arguments
  deriving DecidableEq, Repr

/-- The texts of a setting: one, except for the arguments of the build. -/
def texts (config : Config) : Setting → List String
  | .parameters => [config.parameters]
  | .manifest => [config.manifest]
  | .versionKey => [config.versionKey]
  | .program => [config.build.program]
  | .arguments => config.build.arguments

theorem eq_of_texts (same : ∀ setting, config.texts setting = after.texts setting) :
    config = after := by
  obtain ⟨parameters, manifest, versionKey, program, arguments⟩ := config
  obtain ⟨_, _, _, _, _⟩ := after
  obtain rfl := List.singleton_inj.mp (same .parameters)
  obtain rfl := List.singleton_inj.mp (same .manifest)
  obtain rfl := List.singleton_inj.mp (same .versionKey)
  obtain rfl := List.singleton_inj.mp (same .program)
  obtain rfl : arguments = _ := same .arguments
  rfl

/-- What an entry does to a configuration. -/
inductive Sets (config : Config) (entry : String × Value) : Config → Prop where
  | parameters (key : entry.1 = "params_file") (text : String) (value : entry.2 = .text text) :
      Sets config entry { config with parameters := text }
  | manifest (key : entry.1 = "manifest_file") (text : String) (value : entry.2 = .text text) :
      Sets config entry { config with manifest := text }
  | versionKey (key : entry.1 = "version_key") (text : String) (value : entry.2 = .text text) :
      Sets config entry { config with versionKey := text }
  | build (key : entry.1 = "build") (build : BuildCommand)
      (value : BuildCommand.ofValue entry.2 = .ok build) :
      Sets config entry { config with build }
  | unknown (key : entry.1 ∉ ["params_file", "manifest_file", "version_key", "build"]) :
      Sets config entry config

theorem setEntry_eq_ok_iff : config.setEntry entry = .ok after ↔ config.Sets entry after := by
  unfold setEntry
  constructor
  · intro set
    split at set
    next key =>
      obtain ⟨text, read, done⟩ := bind_eq_ok_iff.mp set
      cases done
      exact .parameters key text (Value.asText_eq_ok_iff.mp read)
    split at set
    next key =>
      obtain ⟨text, read, done⟩ := bind_eq_ok_iff.mp set
      cases done
      exact .manifest key text (Value.asText_eq_ok_iff.mp read)
    split at set
    next key =>
      obtain ⟨text, read, done⟩ := bind_eq_ok_iff.mp set
      cases done
      exact .versionKey key text (Value.asText_eq_ok_iff.mp read)
    split at set
    next key =>
      obtain ⟨build, read, done⟩ := bind_eq_ok_iff.mp set
      cases done
      exact .build key build read
    cases set
    exact .unknown (by simp [*])
  · intro sets
    cases sets with
    | parameters key text value =>
        rw [if_pos key]
        exact bind_eq_ok_iff.mpr ⟨text, Value.asText_eq_ok_iff.mpr value, rfl⟩
    | manifest key text value =>
        rw [if_neg (by simp [key]), if_pos key]
        exact bind_eq_ok_iff.mpr ⟨text, Value.asText_eq_ok_iff.mpr value, rfl⟩
    | versionKey key text value =>
        rw [if_neg (by simp [key]), if_neg (by simp [key]), if_pos key]
        exact bind_eq_ok_iff.mpr ⟨text, Value.asText_eq_ok_iff.mpr value, rfl⟩
    | build key build value =>
        rw [if_neg (by simp [key]), if_neg (by simp [key]), if_neg (by simp [key]), if_pos key]
        exact bind_eq_ok_iff.mpr ⟨build, value, rfl⟩
    | unknown key =>
        simp only [List.mem_cons, List.not_mem_nil, or_false, not_or] at key
        rw [if_neg key.1, if_neg key.2.1, if_neg key.2.2.1, if_neg key.2.2.2]
        rfl

/-- An entry that can be applied: what a known key holds is of its kind. -/
structure Fits (entry : String × Value) : Prop where
  text : entry.1 ∈ ["params_file", "manifest_file", "version_key"] → ∃ text, entry.2 = .text text
  build : entry.1 = "build" → ∃ build, BuildCommand.ofValue entry.2 = .ok build

theorem exists_setEntry_iff (config : Config) (entry : String × Value) :
    (∃ after, config.setEntry entry = .ok after) ↔ Fits entry := by
  simp only [setEntry_eq_ok_iff]
  constructor
  · rintro ⟨after, sets⟩
    cases sets with
    | parameters key text value => exact ⟨fun _ => ⟨text, value⟩, by simp [key]⟩
    | manifest key text value => exact ⟨fun _ => ⟨text, value⟩, by simp [key]⟩
    | versionKey key text value => exact ⟨fun _ => ⟨text, value⟩, by simp [key]⟩
    | build key build value => exact ⟨by simp [key], fun _ => ⟨build, value⟩⟩
    | unknown key =>
        refine ⟨fun known => absurd ?_ key, fun known => absurd ?_ key⟩
        · exact List.mem_append_left ["build"] known
        · simp [known]
  · intro fits
    by_cases parameters : entry.1 = "params_file"
    · obtain ⟨text, value⟩ := fits.text (by simp [parameters])
      exact ⟨_, .parameters parameters text value⟩
    by_cases manifest : entry.1 = "manifest_file"
    · obtain ⟨text, value⟩ := fits.text (by simp [manifest])
      exact ⟨_, .manifest manifest text value⟩
    by_cases versionKey : entry.1 = "version_key"
    · obtain ⟨text, value⟩ := fits.text (by simp [versionKey])
      exact ⟨_, .versionKey versionKey text value⟩
    by_cases build : entry.1 = "build"
    · obtain ⟨command, value⟩ := fits.build build
      exact ⟨_, .build build command value⟩
    exact ⟨config, .unknown (by simp [*])⟩

section

variable (config : Config) (entry : String × Value) (after : Config)
  (set : config.setEntry entry = .ok after)

include set

theorem parameters_of_setEntry :
    (entry.1 = "params_file" → entry.2.asText .path = .ok after.parameters) ∧
      (entry.1 ≠ "params_file" → after.parameters = config.parameters) := by
  cases setEntry_eq_ok_iff.mp set <;> simp_all [Value.asText_eq_ok_iff]

theorem manifest_of_setEntry :
    (entry.1 = "manifest_file" → entry.2.asText .path = .ok after.manifest) ∧
      (entry.1 ≠ "manifest_file" → after.manifest = config.manifest) := by
  cases setEntry_eq_ok_iff.mp set <;> simp_all [Value.asText_eq_ok_iff]

theorem versionKey_of_setEntry :
    (entry.1 = "version_key" → entry.2.asText .text = .ok after.versionKey) ∧
      (entry.1 ≠ "version_key" → after.versionKey = config.versionKey) := by
  cases setEntry_eq_ok_iff.mp set <;> simp_all [Value.asText_eq_ok_iff]

theorem build_of_setEntry :
    (entry.1 = "build" → BuildCommand.ofValue entry.2 = .ok after.build) ∧
      (entry.1 ≠ "build" → after.build = config.build) := by
  cases setEntry_eq_ok_iff.mp set <;> simp_all

end

/-- Where a document gives a setting: its key, for a part of the build command also the key and the
position of the part. -/
def Setting.place : Setting → String × Option (String × Nat)
  | .parameters => ("params_file", none)
  | .manifest => ("manifest_file", none)
  | .versionKey => ("version_key", none)
  | .program => ("build", some ("program", 0))
  | .arguments => ("build", some ("args", 1))

/-- The value that entries give at a place. -/
inductive Gives (entries : Entries) : String × Option (String × Nat) → Value → Prop where
  | whole (key : String) (value : Value) (member : (key, value) ∈ entries) :
      Gives entries (key, none) value
  | part (key partKey : String) (position : Nat) (whole value : Value)
      (member : (key, whole) ∈ entries) (part : whole.Part partKey position value) :
      Gives entries (key, some (partKey, position)) value

/-- The texts that a value spells: a text, or for the arguments of the build a sequence of texts. -/
inductive Spells : Setting → Value → List String → Prop where
  | text (setting : Setting) (single : setting ≠ .arguments) (text : String) :
      Spells setting (.text text) [text]
  | texts (value : Value) (texts : List String)
      (elements : value.elements? = some (texts.map .text)) : Spells .arguments value texts

/-- A setting comes from the first of its sources that has it: a flag, the document, the default. -/
inductive Layered (flag : Option (List String)) (entries : Entries) (setting : Setting) :
    List String → Prop where
  | flag (texts : List String) (given : flag = some texts) : Layered flag entries setting texts
  | document (value : Value) (texts : List String) (unset : flag = none)
      (given : Gives entries setting.place value) (spells : Spells setting value texts) :
      Layered flag entries setting texts
  | fallback (unset : flag = none) (absent : ∀ value, ¬Gives entries setting.place value) :
      Layered flag entries setting (default.texts setting)

variable {setting : Setting} {value other : Value} {texts more : List String}
  {flag : Option (List String)} {key partKey : String} {position : Nat}
  {place : String × Option (String × Nat)}

theorem gives_whole_iff : Gives entries (key, none) value ↔ (key, value) ∈ entries := by
  refine ⟨fun gives => ?_, .whole key value⟩
  cases gives with
  | whole _ _ member => exact member

theorem gives_part_iff :
    Gives entries (key, some (partKey, position)) value ↔
      ∃ whole, (key, whole) ∈ entries ∧ whole.Part partKey position value := by
  constructor
  · intro gives
    cases gives with
    | part _ _ _ whole _ member part => exact ⟨whole, member, part⟩
  · rintro ⟨whole, member, part⟩
    exact .part key partKey position whole value member part

theorem Gives.unique (distinct : entries.Distinct) (first : Gives entries place value)
    (second : Gives entries place other) : value = other := by
  cases first with
  | whole key _ member => exact distinct.eq_of_mem member (gives_whole_iff.mp second)
  | part key _ _ whole _ member part =>
      obtain ⟨further, again, apart⟩ := gives_part_iff.mp second
      obtain rfl := distinct.eq_of_mem member again
      exact part.unique (distinct.values _ member) apart

theorem Spells.unique (first : Spells setting value texts) (second : Spells setting value more) :
    texts = more := by
  cases first with
  | text _ single text =>
      cases second with
      | text => rfl
      | texts => exact absurd rfl single
  | texts _ _ elements =>
      cases second with
      | text _ single => exact absurd rfl single
      | texts _ _ further =>
          have same := Option.some.inj (elements.symm.trans further)
          exact List.map_injective_iff.mpr (fun _ _ => Value.text.inj) same

/-- A setting depends on its own sources only. -/
theorem Layered.eq_of_alike (distinct : entries.Distinct)
    (same : flag = none →
      ∀ value, Gives entries setting.place value ↔ Gives others setting.place value)
    (first : Layered flag entries setting texts) (second : Layered flag others setting more) :
    texts = more := by
  cases first with
  | flag _ given =>
      cases second with
      | flag _ again => exact Option.some.inj (given.symm.trans again)
      | document _ _ unset => cases given.symm.trans unset
      | fallback unset => cases given.symm.trans unset
  | document value _ unset given spells =>
      cases second with
      | flag _ again => cases unset.symm.trans again
      | document other _ _ again further =>
          obtain rfl := given.unique distinct ((same unset other).mpr again)
          exact spells.unique further
      | fallback _ absent => exact absurd ((same unset value).mp given) (absent value)
  | fallback unset absent =>
      cases second with
      | flag _ again => cases unset.symm.trans again
      | document other _ _ again => exact absurd ((same unset other).mpr again) (absent other)
      | fallback => rfl

/-- What is taken from the value that a document gives is layered. -/
theorem layered_of_taken {α : Type} {read : Value → Except ConfigFault α} {fallback taken : α}
    (view : α → List String)
    (spells : ∀ value taken, read value = .ok taken → Spells setting value (view taken))
    (unstated : default.texts setting = view fallback)
    (take : Taken (Gives entries setting.place) read fallback taken) :
    Layered none entries setting (view taken) := by
  rcases take with ⟨value, given, read⟩ | ⟨absent, rfl⟩
  · exact .document value _ rfl given (spells value taken read)
  · rw [← unstated]
    exact .fallback rfl absent

theorem spells_of_asText {expected : Expected} (single : setting ≠ .arguments) (value : Value)
    (text : String) (read : value.asText expected = .ok text) : Spells setting value [text] := by
  obtain rfl := Value.asText_eq_ok_iff.mp read
  exact .text setting single text

theorem taken_whole {α : Type} {read : Value → Except ConfigFault α} {field : Config → α}
    (step : ∀ config entry after, setEntry config entry = .ok after →
      (entry.1 = key → read entry.2 = .ok (field after)) ∧
      (entry.1 ≠ key → field after = field config))
    (keys : (entries.map Prod.fst).Nodup) (run : ofEntries entries = .ok config) :
    Taken (Gives entries (key, none)) read (field default) (field config) := by
  have given : Gives entries (key, none) = fun value => (key, value) ∈ entries :=
    funext fun value => propext gives_whole_iff
  rw [given]
  exact Toml.Entries.taken_of_foldlM step keys run

/-- A part of the build command is taken from the part of its value, also where that is absent. -/
theorem taken_part {α : Type} {read : Value → Except ConfigFault α} {field : BuildCommand → α}
    (stated : ∀ value build, value.Distinct → BuildCommand.ofValue value = .ok build →
      Taken (value.Part partKey position) read (field .default) (field build))
    (distinct : entries.Distinct) (run : ofEntries entries = .ok config) :
    Taken (Gives entries ("build", some (partKey, position))) read (field .default)
      (field config.build) := by
  rcases taken_whole build_of_setEntry distinct.keys run with ⟨whole, given, done⟩ | ⟨absent, kept⟩
  · have member := gives_whole_iff.mp given
    rcases stated whole config.build (distinct.values _ member) done with
      ⟨value, part, taken⟩ | ⟨absent, kept⟩
    · exact .inl ⟨value, gives_part_iff.mpr ⟨whole, member, part⟩, taken⟩
    · refine .inr ⟨fun value gives => ?_, kept⟩
      obtain ⟨other, again, part⟩ := gives_part_iff.mp gives
      obtain rfl := distinct.eq_of_mem member again
      exact absent value part
  · refine .inr ⟨fun value gives => ?_, congrArg field kept⟩
    obtain ⟨whole, member, -⟩ := gives_part_iff.mp gives
    exact absent whole (gives_whole_iff.mpr member)

/-- Every setting of a document is what the document gives for it, or else its default. -/
theorem layered_of_ofEntries (distinct : entries.Distinct) (run : ofEntries entries = .ok config)
    (setting : Setting) : Layered none entries setting (config.texts setting) := by
  cases setting with
  | parameters =>
      exact layered_of_taken List.singleton (spells_of_asText (by decide)) rfl
        (taken_whole parameters_of_setEntry distinct.keys run)
  | manifest =>
      exact layered_of_taken List.singleton (spells_of_asText (by decide)) rfl
        (taken_whole manifest_of_setEntry distinct.keys run)
  | versionKey =>
      exact layered_of_taken List.singleton (spells_of_asText (by decide)) rfl
        (taken_whole versionKey_of_setEntry distinct.keys run)
  | program =>
      have take := taken_part (fun value build apart read =>
        (BuildCommand.stated_of_ofValue apart read).program) distinct run
      exact layered_of_taken List.singleton (spells_of_asText (by decide)) rfl take
  | arguments =>
      have take := taken_part (fun value build apart read =>
        (BuildCommand.stated_of_ofValue apart read).arguments) distinct run
      exact layered_of_taken id
        (fun value texts read => .texts value texts (Value.asTexts_eq_ok_iff.mp read)) rfl take

/-- Tables that give every setting alike: they differ in nothing but keys that name no setting, and
in the order of their entries. -/
structure Alike (entries others : Entries) : Prop where
  texts : ∀ key ∈ ["params_file", "manifest_file", "version_key"], ∀ value,
    (key, value) ∈ entries ↔ (key, value) ∈ others
  build : ∀ value, ("build", value) ∈ entries →
    ∃ other, ("build", other) ∈ others ∧ BuildCommand.Alike value other
  converse : ∀ other, ("build", other) ∈ others →
    ∃ value, ("build", value) ∈ entries ∧ BuildCommand.Alike value other

theorem Alike.gives_iff (alike : Alike entries others) (setting : Setting) (value : Value) :
    Gives entries setting.place value ↔ Gives others setting.place value := by
  have parts {partKey : String} {position : Nat} (known : partKey ∈ ["program", "args"])
      (early : position < 2) :
      Gives entries ("build", some (partKey, position)) value ↔
        Gives others ("build", some (partKey, position)) value := by
    rw [gives_part_iff, gives_part_iff]
    constructor
    · rintro ⟨whole, member, part⟩
      obtain ⟨other, again, same⟩ := alike.build whole member
      exact ⟨other, again, (same.part_iff known early value).mp part⟩
    · rintro ⟨other, again, part⟩
      obtain ⟨whole, member, same⟩ := alike.converse other again
      exact ⟨whole, member, (same.part_iff known early value).mpr part⟩
  have wholes {key : String} (known : key ∈ ["params_file", "manifest_file", "version_key"]) :
      Gives entries (key, none) value ↔ Gives others (key, none) value := by
    rw [gives_whole_iff, gives_whole_iff]
    exact alike.texts key known value
  cases setting with
  | parameters => exact wholes (by simp)
  | manifest => exact wholes (by simp)
  | versionKey => exact wholes (by simp)
  | program => exact parts (by simp) (by decide)
  | arguments => exact parts (by simp) (by decide)

/-- A table that gives every setting alike is a configuration too. -/
theorem Alike.exists_ofEntries (alike : Alike entries others)
    (run : ofEntries entries = .ok config) : ∃ other, ofEntries others = .ok other := by
  have fits := (Toml.Entries.exists_foldlM_iff exists_setEntry_iff default).mp ⟨config, run⟩
  refine (Toml.Entries.exists_foldlM_iff exists_setEntry_iff default).mpr ?_
  rintro ⟨key, value⟩ member
  constructor
  · intro known
    exact (fits _ ((alike.texts key known value).mpr member)).text known
  · rintro rfl
    obtain ⟨whole, again, same⟩ := alike.converse value member
    obtain ⟨build, read⟩ := (fits _ again).build rfl
    exact same.exists_ofValue read

/-- Keys that name no setting have no influence, nor has the order of the entries. -/
theorem ofEntries_congr (distinct : entries.Distinct) (apart : others.Distinct)
    (alike : Alike entries others) (run : ofEntries entries = .ok config) :
    ofEntries others = .ok config := by
  obtain ⟨other, again⟩ := alike.exists_ofEntries run
  suffices same : config = other from same ▸ again
  refine eq_of_texts fun setting => ?_
  exact (layered_of_ofEntries distinct run setting).eq_of_alike distinct
    (fun _ => alike.gives_iff setting) (layered_of_ofEntries apart again setting)

end Config

end ManifestPin
