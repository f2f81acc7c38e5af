import ManifestPin.Toml.Document
import Mathlib.Data.List.Nodup

/-! # Keys of tables

However the lines of a document build up its tables, no table ever has a key twice: a key is added
only where it is missing, and what is changed keeps its key. So the order of the entries in a table
does not matter to what is looked up in it.
-/

namespace ManifestPin.Toml

/-- Every table in a value has each of its keys once. -/
inductive Value.Distinct : Value → Prop where
  | text (value : String) : Distinct (.text value)
  | integer (value : Int) : Distinct (.integer value)
  | float (value : Binary64) : Distinct (.float value)
  | boolean (value : Bool) : Distinct (.boolean value)
  | moment (text : String) : Distinct (.moment text)
  | sequence (values : List Value) (each : ∀ value ∈ values, Distinct value) :
      Distinct (.sequence values)
  | table (origin : Origin) (entries : Entries) (keys : (entries.map Prod.fst).Nodup)
      (each : ∀ entry ∈ entries, Distinct entry.2) : Distinct (.table origin entries)
  | tables (elements : List Entries)
      (keys : ∀ entries ∈ elements, (List.map Prod.fst entries).Nodup)
      (each : ∀ entries ∈ elements, ∀ entry ∈ entries, Distinct entry.2) :
      Distinct (.tables elements)

/-- A table that has each of its keys once, and so has every table in it. -/
structure Entries.Distinct (entries : Entries) : Prop where
  keys : (entries.map Prod.fst).Nodup
  values : ∀ entry ∈ entries, entry.2.Distinct

namespace Value.Distinct

variable {origin : Origin} {entries : Entries} {elements : List Entries}

theorem of_table (distinct : Distinct (.table origin entries)) : entries.Distinct := by
  cases distinct with
  | table _ _ keys each => exact ⟨keys, each⟩

theorem of_entries (distinct : entries.Distinct) : Distinct (.table origin entries) :=
  .table origin entries distinct.keys distinct.values

theorem of_elements (distinct : ∀ entries ∈ elements, Entries.Distinct entries) :
    Distinct (.tables elements) :=
  .tables elements (fun entries member => (distinct entries member).keys)
    fun entries member => (distinct entries member).values

theorem elements_of_tables (distinct : Distinct (.tables elements)) :
    ∀ entries ∈ elements, Entries.Distinct entries := by
  cases distinct with
  | tables _ keys each => exact fun entries member => ⟨keys entries member, each entries member⟩

end Value.Distinct

namespace Entries

variable {entries after : Entries} {key : String} {value : Value} {path : List String}
  {change : Origin → Entries → Option Entries} {dotted : Bool} {origin : Origin}

theorem mem_of_get? (found : entries.get? key = some value) : (key, value) ∈ entries := by
  obtain ⟨entry, first, rfl⟩ := Option.map_eq_some_iff.mp found
  obtain rfl : entry.1 = key := by simpa using List.find?_some first
  exact List.mem_of_find?_eq_some first

theorem not_mem_of_get? (missing : entries.get? key = none) : key ∉ entries.map Prod.fst := by
  intro member
  obtain ⟨entry, among, rfl⟩ := List.mem_map.mp member
  have passed := List.find?_eq_none.mp (Option.map_eq_none_iff.mp missing) entry among
  simp at passed

namespace Distinct

theorem nil : Distinct [] :=
  ⟨List.nodup_nil, List.forall_mem_nil _⟩

variable (distinct : entries.Distinct)

include distinct

theorem get? (found : entries.get? key = some value) : value.Distinct :=
  distinct.values _ (mem_of_get? found)

/-- A key has one value. -/
theorem eq_of_mem {other : Value} (first : (key, value) ∈ entries)
    (second : (key, other) ∈ entries) : value = other :=
  congrArg Prod.snd (List.inj_on_of_nodup_map distinct.keys first second rfl)

/-- A key is added where it is missing. -/
theorem concat (missing : entries.get? key = none) (given : value.Distinct) :
    Distinct (entries ++ [(key, value)]) := by
  refine ⟨?_, ?_⟩
  · rw [List.map_append, List.map_singleton]
    refine List.nodup_append.mpr ⟨distinct.keys, List.nodup_singleton key, ?_⟩
    rintro old among new single rfl
    rw [List.mem_singleton.mp single] at among
    exact not_mem_of_get? missing among
  · intro entry member
    rcases List.mem_append.mp member with old | new
    · exact distinct.values entry old
    · rw [List.mem_singleton.mp new]
      exact given

/-- A changed value keeps its key. -/
theorem set (key : String) (given : value.Distinct) : (entries.set key value).Distinct := by
  constructor
  · have kept : (entries.set key value).map Prod.fst = entries.map Prod.fst := by
      rw [Entries.set, List.map_map]
      refine List.map_congr_left fun entry _ => ?_
      by_cases same : entry.1 = key <;> simp [same]
    rw [kept]
    exact distinct.keys
  · intro entry member
    obtain ⟨old, among, rfl⟩ := List.mem_map.mp member
    split
    · exact given
    · exact distinct.values old among

theorem erase (key : String) : (entries.erase key).Distinct :=
  ⟨distinct.keys.sublist (List.filter_sublist.map _),
    fun entry member => distinct.values entry (List.mem_of_mem_filter member)⟩

theorem insert? (given : value.Distinct) (inserted : entries.insert? key value = some after) :
    after.Distinct := by
  unfold Entries.insert? at inserted
  split at inserted
  · cases inserted
  next missing =>
    cases inserted
    exact distinct.concat missing given

/-- Where a change at the end of a path keeps keys apart, the table around it keeps them apart. -/
theorem changeAt
    (keeps : ∀ origin entries after, Entries.Distinct entries →
      change origin entries = some after → Entries.Distinct after)
    (changed : changeAt dotted change path origin entries = some after) : after.Distinct := by
  induction path generalizing origin entries after with
  | nil => exact keeps origin entries after distinct changed
  | cons key rest ih =>
      rw [Entries.changeAt] at changed
      split at changed
      next missing =>
        obtain ⟨inner, made, done⟩ := Option.bind_eq_some_iff.mp changed
        cases done
        exact distinct.concat missing (.of_entries (ih nil made))
      next between inner found =>
        split at changed
        · cases changed
        · obtain ⟨inside, made, done⟩ := Option.bind_eq_some_iff.mp changed
          cases done
          exact distinct.set key (.of_entries (ih (distinct.get? found).of_table made))
      next elements found =>
        have each := (distinct.get? found).elements_of_tables
        split at changed
        · cases changed
        next last before reversed =>
          have members : elements = before.reverse ++ [last] := by
            rw [← List.reverse_reverse elements, reversed, List.reverse_cons]
          obtain ⟨inside, made, done⟩ := Option.bind_eq_some_iff.mp changed
          cases done
          refine distinct.set key (.of_elements fun inner among => ?_)
          rcases List.mem_append.mp among with old | new
          · exact each inner (members ▸ List.mem_append_left _ old)
          · rw [List.mem_singleton.mp new]
            exact ih (each last (members ▸ List.mem_append_right _ List.mem_cons_self)) made
      · cases changed

theorem insertDotted? (given : value.Distinct)
    (inserted : entries.insertDotted? path key value = some after) : after.Distinct := by
  refine distinct.changeAt (fun origin inner after apart placed => ?_) inserted
  split at placed
  · exact apart.insert? given placed
  · cases placed

end Distinct

end Entries

section

variable {text rest : List Char} {value : Value} {depth fuel : Nat}
  {reader : List Char → Option (Value × List Char)}

/-- A value that is made of what was read. -/
theorem distinct_of_map {α : Type} {reading : Option (α × List Char)} {make : α → Value}
    (always : ∀ content, (make content).Distinct)
    (read : (reading.map fun read => (make read.1, read.2)) = some (value, rest)) :
    value.Distinct := by
  obtain ⟨⟨content, _⟩, -, done⟩ := Option.map_eq_some_iff.mp read
  cases done
  exact always content

theorem distinct_of_keyword {word : Option (List Char)} {flag : Bool}
    (read : word.map (Value.boolean flag, ·) = some (value, rest)) : value.Distinct := by
  obtain ⟨_, -, done⟩ := Option.map_eq_some_iff.mp read
  cases done
  exact .boolean flag

/-- A value that holds no other values has no keys. -/
theorem distinct_of_readScalar (read : readScalar text = some (value, rest)) : value.Distinct := by
  unfold readScalar at read
  split at read
  · cases read
  split at read
  · exact distinct_of_map .text read
  split at read
  · exact distinct_of_keyword read
  split at read
  · exact distinct_of_keyword read
  rw [Option.orElse_eq_or, Option.or_eq_some_iff, Option.orElse_eq_or, Option.or_eq_some_iff]
    at read
  rcases read with moment | ⟨-, float | ⟨-, integer⟩⟩
  · exact distinct_of_map .moment moment
  · exact distinct_of_map .float float
  · exact distinct_of_map .integer integer

theorem distinct_of_readElements
    (reads : ∀ text value rest, reader text = some (value, rest) → value.Distinct)
    {values : List Value} (read : readElements reader fuel text = some (values, rest)) :
    ∀ value ∈ values, value.Distinct := by
  induction fuel generalizing text values with
  | zero => cases read
  | succ fuel ih =>
      obtain ⟨start, -, read⟩ := Option.bind_eq_some_iff.mp read
      split at read
      · cases read
        exact List.forall_mem_nil _
      obtain ⟨⟨first, behind⟩, given, read⟩ := Option.bind_eq_some_iff.mp read
      have distinct := reads _ _ _ given
      obtain ⟨next, -, read⟩ := Option.bind_eq_some_iff.mp read
      split at read
      · cases read
        exact List.forall_mem_singleton.mpr distinct
      · obtain ⟨⟨more, _⟩, further, read⟩ := Option.bind_eq_some_iff.mp read
        cases read
        exact List.forall_mem_cons.mpr ⟨distinct, ih further⟩
      · cases read

theorem distinct_of_readPairs
    (reads : ∀ text value rest, reader text = some (value, rest) → value.Distinct)
    {entries after : Entries} (distinct : entries.Distinct)
    (read : readPairs reader fuel entries text = some (after, rest)) : after.Distinct := by
  induction fuel generalizing text entries with
  | zero => cases read
  | succ fuel ih =>
      obtain ⟨⟨⟨path, key⟩, _⟩, -, read⟩ := Option.bind_eq_some_iff.mp read
      obtain ⟨_, -, read⟩ := Option.bind_eq_some_iff.mp read
      obtain ⟨⟨given, _⟩, found, read⟩ := Option.bind_eq_some_iff.mp read
      obtain ⟨longer, inserted, read⟩ := Option.bind_eq_some_iff.mp read
      have apart := distinct.insertDotted? (reads _ _ _ found) inserted
      split at read
      · cases read
        exact apart
      · exact ih apart read
      · cases read

/-- However deep a value is, the tables in it have each key once. -/
theorem distinct_of_readValue (read : readValue depth text = some (value, rest)) :
    value.Distinct := by
  induction depth generalizing text value rest with
  | zero => exact distinct_of_readScalar read
  | succ depth ih =>
      unfold readValue at read
      split at read
      · obtain ⟨⟨values, _⟩, found, done⟩ := Option.map_eq_some_iff.mp read
        cases done
        exact .sequence values (distinct_of_readElements (fun _ _ _ => ih) found)
      · split at read
        · cases read
          exact .of_entries .nil
        · obtain ⟨⟨entries, _⟩, found, done⟩ := Option.map_eq_some_iff.mp read
          cases done
          exact .of_entries (distinct_of_readPairs (fun _ _ _ => ih) .nil found)
      · exact distinct_of_readScalar read

end

/-- The tables of a draft have each of their keys once. -/
structure Draft.Distinct (draft : Draft) : Prop where
  root : draft.root.Distinct
  current : draft.current.Distinct

namespace Draft

variable {draft after : Draft} {entries element siblings : Entries} {path : List String}
  {key : String} {value : Value} {text rest : List Char} {fuel : Nat}

theorem distinct_empty : empty.Distinct :=
  ⟨.nil, .nil⟩

theorem distinct_addElement (apart : element.Distinct) (distinct : entries.Distinct)
    {longer : Entries} (added : addElement key element entries = some longer) :
    longer.Distinct := by
  unfold addElement at added
  split at added
  next missing =>
    cases added
    exact distinct.concat missing (.of_elements (List.forall_mem_singleton.mpr apart))
  next elements found =>
    cases added
    refine distinct.set key (.of_elements fun inner among => ?_)
    rcases List.mem_append.mp among with old | new
    · exact (distinct.get? found).elements_of_tables inner old
    · rw [List.mem_singleton.mp new]
      exact apart
  · cases added

theorem distinct_allowElements (distinct : entries.Distinct) {longer : Entries}
    (allowed : allowElements key entries = some longer) : longer.Distinct := by
  unfold allowElements at allowed
  split at allowed
  next missing =>
    cases allowed
    exact distinct.concat missing (.of_elements (List.forall_mem_nil _))
  · cases allowed
    exact distinct
  · cases allowed

theorem distinct_entriesAt? (distinct : entries.Distinct)
    (found : entriesAt? path entries = some siblings) : siblings.Distinct := by
  induction path generalizing entries with
  | nil =>
      cases found
      exact distinct
  | cons key rest ih =>
      unfold entriesAt? at found
      split at found
      next origin inner held => exact ih (distinct.get? held).of_table found
      next elements held =>
        obtain ⟨last, ends, found⟩ := Option.bind_eq_some_iff.mp found
        exact ih ((distinct.get? held).elements_of_tables last (List.mem_of_getLast? ends)) found
      · cases found

namespace Distinct

variable (distinct : draft.Distinct)

include distinct

theorem close? (closed : draft.close? = some entries) : entries.Distinct := by
  unfold Draft.close? at closed
  split at closed
  · cases closed
    exact distinct.current
  · refine distinct.root.changeAt (fun _ inner after apart placed => ?_) closed
    split at placed
    · exact distinct_addElement distinct.current apart placed
    · exact apart.insert? (.of_entries distinct.current) placed

theorem openElement? (opened : draft.openElement? path key = some after) : after.Distinct := by
  obtain ⟨closed, closes, opened⟩ := Option.bind_eq_some_iff.mp opened
  obtain ⟨root, allows, opened⟩ := Option.bind_eq_some_iff.mp opened
  cases opened
  exact ⟨(distinct.close? closes).changeAt
    (fun _ _ _ apart allowed => distinct_allowElements apart allowed) allows, .nil⟩

theorem openTable? (opened : draft.openTable? path key = some after) : after.Distinct := by
  obtain ⟨closed, closes, opened⟩ := Option.bind_eq_some_iff.mp opened
  obtain ⟨root, reaches, opened⟩ := Option.bind_eq_some_iff.mp opened
  obtain ⟨siblings, found, opened⟩ := Option.bind_eq_some_iff.mp opened
  have apart : root.Distinct := by
    refine (distinct.close? closes).changeAt (fun _ _ _ inner same => ?_) reaches
    cases same
    exact inner
  split at opened
  · cases opened
    exact ⟨apart, .nil⟩
  next inner held =>
    obtain ⟨without, erases, opened⟩ := Option.bind_eq_some_iff.mp opened
    cases opened
    refine ⟨apart.changeAt (fun _ _ _ inner erased => ?_) erases,
      ((distinct_entriesAt? apart found).get? held).of_table⟩
    cases erased
    exact inner.erase key
  · cases opened

theorem insert? (given : value.Distinct) (stated : draft.insert? path key value = some after) :
    after.Distinct := by
  obtain ⟨current, inserted, stated⟩ := Option.bind_eq_some_iff.mp stated
  cases stated
  exact ⟨distinct.root, distinct.current.insertDotted? given inserted⟩

theorem readHeader (read : readHeader draft text = some (after, rest)) : after.Distinct := by
  unfold Toml.readHeader at read
  split at read
  · obtain ⟨⟨⟨path, key⟩, _⟩, -, read⟩ := Option.bind_eq_some_iff.mp read
    obtain ⟨_, -, read⟩ := Option.bind_eq_some_iff.mp read
    obtain ⟨_, -, read⟩ := Option.bind_eq_some_iff.mp read
    obtain ⟨_, -, read⟩ := Option.bind_eq_some_iff.mp read
    obtain ⟨_, opened, read⟩ := Option.bind_eq_some_iff.mp read
    cases read
    exact distinct.openElement? opened
  · obtain ⟨⟨⟨path, key⟩, _⟩, -, read⟩ := Option.bind_eq_some_iff.mp read
    obtain ⟨_, -, read⟩ := Option.bind_eq_some_iff.mp read
    obtain ⟨_, -, read⟩ := Option.bind_eq_some_iff.mp read
    obtain ⟨_, opened, read⟩ := Option.bind_eq_some_iff.mp read
    cases read
    exact distinct.openTable? opened

theorem readStatement (read : readStatement draft text = some (after, rest)) :
    after.Distinct := by
  obtain ⟨⟨⟨path, key⟩, _⟩, -, read⟩ := Option.bind_eq_some_iff.mp read
  obtain ⟨_, -, read⟩ := Option.bind_eq_some_iff.mp read
  obtain ⟨⟨value, _⟩, given, read⟩ := Option.bind_eq_some_iff.mp read
  obtain ⟨_, -, read⟩ := Option.bind_eq_some_iff.mp read
  obtain ⟨_, stated, read⟩ := Option.bind_eq_some_iff.mp read
  cases read
  exact distinct.insert? (distinct_of_readValue given) stated

/-- Every line of a document keeps the keys of its tables apart. -/
theorem readLines (read : readLines fuel draft text = some after) : after.Distinct := by
  induction fuel generalizing draft text with
  | zero => cases read
  | succ fuel ih =>
      unfold Toml.readLines at read
      split at read
      · cases read
        exact distinct
      · obtain ⟨⟨opened, _⟩, header, read⟩ := Option.bind_eq_some_iff.mp read
        exact ih (distinct.readHeader header) read
      · split at read
        · obtain ⟨_, -, read⟩ := Option.bind_eq_some_iff.mp read
          exact ih distinct read
        · obtain ⟨⟨stated, _⟩, statement, read⟩ := Option.bind_eq_some_iff.mp read
          exact ih (distinct.readStatement statement) read

end Distinct

end Draft

/-- The table of a document has each of its keys once, and so has every table in it. -/
theorem distinct_of_parse? {document : String} {entries : Entries}
    (read : parse? document = some entries) : entries.Distinct := by
  obtain ⟨draft, lines, closed⟩ := Option.bind_eq_some_iff.mp read
  exact (Draft.distinct_empty.readLines lines).close? closed

end ManifestPin.Toml
