import NfvCatalog.Document.Record

/-! # Maps in order of insertion

Node templates and type tables are mappings whose order means something to readers and to the
numbering of members. A map is a list of entries with distinct keys; that its keys are distinct is
part of the type. Inserting under a key that is there replaces the value in place.
-/

namespace NfvCatalog

/-- A map with text keys that keeps the order in which keys were first inserted. -/
structure OrderedMap (α : Type) where
  entries : List (String × α)
  distinct : (entries.map Prod.fst).Nodup
deriving DecidableEq

namespace OrderedMap

variable {α β : Type}

/-- The map without entries. -/
def empty : OrderedMap α := ⟨[], List.nodup_nil⟩

instance : Inhabited (OrderedMap α) := ⟨empty⟩

instance [Repr α] : Repr (OrderedMap α) := ⟨fun map width => reprPrec map.entries width⟩

/-- Put an entry into a list: in place of one with its key, or else at the end. -/
def putEntry (key : String) (value : α) : List (String × α) → List (String × α)
  | [] => [(key, value)]
  | entry :: rest =>
    if entry.1 = key then (entry.1, value) :: rest else entry :: putEntry key value rest

theorem mem_keys_putEntry (key other : String) (value : α) (entries : List (String × α)) :
    other ∈ (putEntry key value entries).map Prod.fst ↔
      other = key ∨ other ∈ entries.map Prod.fst := by
  induction entries with
  | nil => simp [putEntry]
  | cons entry rest ih =>
    by_cases same : entry.1 = key
    · simp only [putEntry, same, if_true, List.map_cons, List.mem_cons]
      constructor
      · rintro (h | h) <;> simp [h]
      · rintro (h | h | h) <;> simp [h]
    · simp only [putEntry, same, if_false, List.map_cons, List.mem_cons, ih]
      constructor
      · rintro (h | h | h) <;> simp [h]
      · rintro (h | h | h) <;> simp [h]

theorem nodup_keys_putEntry (key : String) (value : α) (entries : List (String × α))
    (distinct : (entries.map Prod.fst).Nodup) :
    ((putEntry key value entries).map Prod.fst).Nodup := by
  induction entries with
  | nil => simp [putEntry]
  | cons entry rest ih =>
    simp only [List.map_cons, List.nodup_cons] at distinct
    by_cases same : entry.1 = key
    · simpa [putEntry, same] using distinct
    · have step : putEntry key value (entry :: rest) = entry :: putEntry key value rest := by
        simp [putEntry, same]
      rw [step, List.map_cons, List.nodup_cons, mem_keys_putEntry]
      refine ⟨?_, ih distinct.2⟩
      rintro (h | h)
      · exact same h
      · exact distinct.1 h

/-- Insert a value, or replace the one under its key in place. -/
def insert (map : OrderedMap α) (key : String) (value : α) : OrderedMap α :=
  ⟨putEntry key value map.entries, nodup_keys_putEntry key value map.entries map.distinct⟩

/-- Put an entry into a list as before, and give back the value that it replaces. -/
def exchangeEntry (key : String) (value : α) :
    List (String × α) → Option α × List (String × α)
  | [] => (none, [(key, value)])
  | entry :: rest =>
    if entry.1 = key then (some entry.2, (entry.1, value) :: rest)
    else
      let (old, others) := exchangeEntry key value rest
      (old, entry :: others)

theorem exchangeEntry_snd (key : String) (value : α) (entries : List (String × α)) :
    (exchangeEntry key value entries).2 = putEntry key value entries := by
  induction entries with
  | nil => rfl
  | cons entry rest ih => by_cases same : entry.1 = key <;> simp [exchangeEntry, putEntry, same, ih]

/-- Insert a value as before, and give back the one that was under its key. -/
def exchange (map : OrderedMap α) (key : String) (value : α) : Option α × OrderedMap α :=
  let changed := exchangeEntry key value map.entries
  (changed.1, ⟨changed.2, exchangeEntry_snd key value map.entries ▸
    nodup_keys_putEntry key value map.entries map.distinct⟩)

/-- The value under a key. -/
def get? (map : OrderedMap α) (key : String) : Option α :=
  (map.entries.find? fun entry => entry.1 = key).map Prod.snd

/-- Whether a key is present. -/
def contains (map : OrderedMap α) (key : String) : Bool := (map.get? key).isSome

/-- The number of entries. -/
def size (map : OrderedMap α) : Nat := map.entries.length

/-- Whether there are no entries. -/
def isEmpty (map : OrderedMap α) : Bool := map.entries.isEmpty

/-- The keys in order. -/
def keys (map : OrderedMap α) : List String := map.entries.map Prod.fst

/-- The values in order. -/
def values (map : OrderedMap α) : List α := map.entries.map Prod.snd

/-- Change every value. -/
def map (f : α → β) (m : OrderedMap α) : OrderedMap β :=
  ⟨m.entries.map fun entry => (entry.1, f entry.2), by
    simpa [List.map_map, Function.comp_def] using m.distinct⟩

/-- Change the value under a key, if it is present. -/
def modify (m : OrderedMap α) (key : String) (f : α → α) : OrderedMap α :=
  ⟨m.entries.map fun entry => (entry.1, if entry.1 = key then f entry.2 else entry.2), by
    simpa [List.map_map, Function.comp_def] using m.distinct⟩

/-- The map of a list of entries; the last value of a key counts, its first place is kept. -/
def ofList (entries : List (String × α)) : OrderedMap α :=
  entries.foldl (fun map entry => map.insert entry.1 entry.2) empty

/-- The map of a list of entries with distinct keys. -/
def ofDistinct? (entries : List (String × α)) : Option (OrderedMap α) :=
  if distinct : (entries.map Prod.fst).Nodup then some ⟨entries, distinct⟩ else none

/-- A map of one entry. -/
def single (key : String) (value : α) : OrderedMap α := ⟨[(key, value)], by simp⟩

/-! ## Documents -/

/-- Read the entries of a mapping. -/
def readEntries (read : Node → Except Fault α) :
    List (Node × Node) → Except Fault (List (String × α))
  | [] => .ok []
  | (key, value) :: rest => do
    let key ← key.asText
    let value ← read value
    return (key, value) :: (← readEntries read rest)

/-- The map of a document's entries; a key given twice is a fault. -/
def ofEntries (read : Node → Except Fault α) (entries : List (Node × Node)) :
    Except Fault (OrderedMap α) := do
  match ofDistinct? (← readEntries read entries) with
  | some map => return map
  | none => throw (.duplicateKey "")

/-- Read a mapping without a tag. No value at all is the empty map. -/
def ofUntagged (read : Node → Except Fault α) : Node → Except Fault (OrderedMap α)
  | .null => .ok empty
  | .mapping entries => ofEntries read entries
  | .plain source => if Scalar.isUnset source then .ok empty else .error (.expected "a mapping")
  | _ => .error (.expected "a mapping")

/-- Read a mapping. A tag without a name does not count, and neither does any other on a mapping but
an application's own. -/
def ofNode (read : Node → Except Fault α) (node : Node) : Except Fault (OrderedMap α) :=
  match node.settled with
  | .tagged .nameless node => ofUntagged read node
  | .tagged (.core .null) (.plain source)
  | .tagged (.core .null) (.text source)
  | .tagged (.core .null) (.literal source) =>
    if Scalar.isNullWord source then .ok empty else .error (.expected "a mapping")
  | .tagged (.core _) (.mapping entries) | .tagged .foreign (.mapping entries) =>
    ofEntries read entries
  | node => ofUntagged read node

/-- Write a map as a mapping. -/
def toValue (write : α → Value) (map : OrderedMap α) : Value :=
  .ofFields (map.entries.map fun entry => (entry.1, write entry.2))

end OrderedMap

/-- A map field of a record, left out when it is empty. -/
def WrittenField.map {α : Type} (name : String) (write : α → Value) (map : OrderedMap α) :
    WrittenField :=
  .optional name (if map.isEmpty then none else some (map.toValue write))

/-- A field with opaque entries, left out when there are none. -/
def WrittenField.entries (name : String) (entries : Value.Entries) : WrittenField :=
  .optional name (if entries.isEmpty then none else some (.mapping entries))

end NfvCatalog
