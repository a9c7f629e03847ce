import Mathlib.Data.Option.Basic
import NfvCatalog.Document.Record
import NfvCatalog.Proofs.Document.Spelling
import NfvCatalog.Proofs.Lists.Basic
import NfvCatalog.Proofs.Outcome

/-! # Fields of records

What is read for the fields of a record, and that the fields of a record that was written are read
back.
-/

/-! ## Given fields

Whatever a record has for a field was read from a node that was given for it, or else it is what
stands for a field that was not given. So what holds of everything that a reader gives holds of the
field.
-/

namespace NfvCatalog.Record

variable {α : Type} {record : Record} {name : String} {read : Node → Except Fault α}

/-- A field with a default is what was read for it, or the default. -/
theorem of_withDefault {holds : α → Prop} {value default : α}
    (given : record.withDefault name default read = .ok value) (base : holds default)
    (each : ∀ {node value}, read node = .ok value → holds value) : holds value := by
  rw [withDefault] at given
  split at given
  · exact each given
  · obtain rfl := Except.ok.inj given
    exact base

/-- An optional field has the value that was read for it. -/
theorem optional_eq_some {value : α} (given : record.optional name read = .ok (some value)) :
    ∃ node, read node = .ok value := by
  rw [optional] at given
  cases found : record.get? name with
  | none => simp [found] at given
  | some node =>
    simp only [found, bind_eq_ok] at given
    obtain ⟨unset, -, given⟩ := given
    cases unset with
    | true => simp at given
    | false =>
      obtain ⟨_, own, same⟩ := bind_eq_ok.mp given
      exact ⟨node, by simpa [own] using same⟩

/-- Every item of a list was read. -/
theorem exists_of_mem_readItems {nodes : List Node} {items : List α}
    (given : readItems read nodes = .ok items) : ∀ item ∈ items, ∃ node, read node = .ok item := by
  induction nodes generalizing items with
  | nil =>
    obtain rfl := Except.ok.inj given
    simp
  | cons node rest ih =>
    rw [readItems, bind_eq_ok] at given
    obtain ⟨item, own, given⟩ := given
    obtain ⟨others, each, same⟩ := bind_eq_ok.mp given
    obtain rfl := Except.ok.inj same
    exact List.forall_mem_cons.mpr ⟨⟨node, own⟩, ih each⟩

theorem exists_of_mem_list {items : List α} (given : record.list name read = .ok items) :
    ∀ item ∈ items, ∃ node, read node = .ok item := by
  rw [list, withDefault] at given
  cases found : record.get? name with
  | none =>
    rw [found] at given
    obtain rfl := Except.ok.inj given
    simp
  | some node =>
    simp only [found, bind_eq_ok] at given
    obtain ⟨nodes, -, given⟩ := given
    exact exists_of_mem_readItems given

end NfvCatalog.Record

/-! ## Written fields

A record is written as the mapping of those of its fields that have a value. From any spelling of
that mapping each of these fields is read under its name, and the others are not there, so a reader
of the record takes back what was written if it takes back each field.
-/

namespace NfvCatalog

/-- A reader takes a result back from any spelling of a value. The value is not null, which would
leave an optional field unset. -/
structure ReadsBack {α : Type} (read : Node → Except Fault α) (value : Value) (result : α) :
    Prop where
  set : value ≠ .null
  ok {node : Node} : node.spells value → read node = .ok result

/-- A written name stands for its field. -/
theorem RecordShape.keyField?_of_spells {shape : RecordShape} {name : String} {key : Node}
    (known : name ∈ shape.names) (spelled : key.spells (.string name)) :
    shape.keyField? key = .ok (some name) := by
  have field : shape.field? name = some name := by simp [field?, known]
  have text := Node.asText_of_spells spelled
  cases key with
  | plain | text | literal =>
    simp only [keyField?, Node.untagged]
    rw [text, ok_bind, field]
    rfl
  | _ => simp [Node.spells] at spelled

namespace Record

/-! ### The fields of a record -/

/-- A record has a field as it was written: a spelling of its value under its name, or nothing if
the field was left out. -/
def Has (record : Record) (field : WrittenField) : Prop :=
  Option.Rel (fun node value => node.spells value) (record.get? field.name) field.value

/-- The fields of a record spell the fields that were written, in their order. -/
def Spells (record : Record) (fields : List (String × Value)) : Prop :=
  List.Forall₂ (fun given field => given.1 = field.1 ∧ given.2.spells field.2) record.fields fields

theorem get?_of_spells {record : Record} {fields : List (String × Value)}
    (spelled : record.Spells fields) (name : String) :
    Option.Rel (fun node value => node.spells value) (record.get? name)
      ((fields.find? (·.1 = name)).map Prod.snd) := by
  obtain ⟨given⟩ := record
  simp only [Spells, get?] at spelled ⊢
  induction spelled with
  | nil => exact .none
  | @cons given field _ _ own _ ih =>
    by_cases same : field.1 = name
    · simpa [own.1, same] using own.2
    · simpa [own.1, same] using ih

/-- The known fields of a mapping are all there. -/
theorem ofEntries_of_spells {shape : RecordShape} {entries : List (Node × Node)}
    {fields : List (String × Value)} (known : ∀ field ∈ fields, field.1 ∈ shape.names)
    (distinct : (fields.map Prod.fst).Nodup)
    (spelled : List.Forall₂ Node.SpellsField entries fields) :
    ∃ record, ofEntries shape entries = .ok record ∧ record.Spells fields := by
  induction spelled with
  | nil => exact ⟨⟨[]⟩, rfl, .nil⟩
  | @cons entry field entries fields own _ ih =>
    obtain ⟨first, known⟩ := List.forall_mem_cons.mp known
    rw [List.map_cons, List.nodup_cons] at distinct
    obtain ⟨others, read, spelled⟩ := ih known distinct.2
    -- The entry is refused if its field is among the later ones.
    have absent : others.get? field.1 = none := by
      have found := get?_of_spells spelled field.1
      have nowhere : fields.find? (·.1 = field.1) = none := by
        simpa using fun name value member same =>
          distinct.1 (List.mem_map.mpr ⟨(name, value), member, same⟩)
      rw [nowhere] at found
      cases missing : others.get? field.1 with
      | none => rfl
      | some _ => simp [missing] at found
    refine ⟨⟨(field.1, entry.2) :: others.fields⟩, ?_, .cons ⟨rfl, own.2⟩ spelled⟩
    rw [ofEntries, RecordShape.keyField?_of_spells first own.1, ok_bind, read, ok_bind]
    simp [absent]

/-- The fields that have a value, by name. -/
def given (fields : List WrittenField) : List (String × Value) :=
  fields.filterMap fun field => field.value.map (field.name, ·)

private theorem names_given_sublist (fields : List WrittenField) :
    ((given fields).map Prod.fst).Sublist (fields.map (·.name)) := by
  induction fields with
  | nil => exact .slnil
  | cons first rest ih =>
    cases written : first.value with
    | none => simpa [given, written] using ih.cons first.name
    | some value => simpa [given, written] using ih

/-- Among fields with distinct names, each one's value is found under its name. -/
private theorem find?_given {fields : List WrittenField}
    (distinct : (fields.map (·.name)).Nodup) {field : WrittenField} (member : field ∈ fields) :
    ((given fields).find? (·.1 = field.name)).map Prod.snd = field.value := by
  -- A field is an entry whose value may be missing: such entries are dropped only after the look-up.
  let entries := fields.map fun field => (field.name, field.value)
  have distinct : (entries.map Prod.fst).Nodup := by
    rw [List.map_map]
    exact distinct
  have member : (field.name, field.value) ∈ entries := List.mem_map.mpr ⟨field, member, rfl⟩
  have same : given fields = entries.filterMap fun entry => (id entry.2).map (entry.1, ·) := by
    rw [given, List.filterMap_map]
    rfl
  have found := find?_key Prod.fst distinct member
  rw [same, find?_filterMap_key distinct id, found]
  rfl

/-- A written record is read with the fields it was written with. -/
theorem ofNode_of_spells (positional : Bool) (shape : RecordShape) {fields : List WrittenField}
    (names : fields.map (·.name) = shape.names) (distinct : shape.names.Nodup) {node : Node}
    (spelled : node.spells (.ofWritten fields)) :
    ∃ record, ofNode positional shape node = .ok record ∧ fields.Forall record.Has := by
  obtain ⟨entries, rfl, parts⟩ := Node.mapping_of_spells spelled
  have within := names_given_sublist fields
  rw [names] at within
  obtain ⟨record, read, spelled⟩ := ofEntries_of_spells
    (fun field member => within.subset (List.mem_map_of_mem member))
    (within.nodup distinct) parts
  refine ⟨record, read, List.forall_iff_forall_mem.mpr fun field member => ?_⟩
  rw [Has, ← find?_given (names ▸ distinct) member]
  exact get?_of_spells spelled field.name

/-! ### Reading a field back -/

variable {α : Type} {record : Record} {name : String} {read : Node → Except Fault α}

theorem get?_of_has_some {value : Value} (has : record.Has ⟨name, some value⟩) :
    ∃ node, record.get? name = some node ∧ node.spells value := by
  rw [Has] at has
  cases found : record.get? name with
  | none => simp [found] at has
  | some node => exact ⟨node, rfl, by simpa [found] using has⟩

theorem get?_of_has_none (has : record.Has ⟨name, none⟩) : record.get? name = none := by
  rw [Has] at has
  cases found : record.get? name with
  | none => rfl
  | some node => simp [found] at has

theorem Has.required {value : Value} {result : α} (has : record.Has ⟨name, some value⟩)
    (back : ReadsBack read value result) : record.required name read = .ok result := by
  obtain ⟨node, found, spelled⟩ := get?_of_has_some has
  rw [Record.required, found]
  exact back.ok spelled

theorem Has.withDefault {value : Value} {result default : α}
    (has : record.Has ⟨name, some value⟩) (back : ReadsBack read value result) :
    record.withDefault name default read = .ok result := by
  obtain ⟨node, found, spelled⟩ := get?_of_has_some has
  rw [Record.withDefault, found]
  exact back.ok spelled

theorem Has.optional_none (has : record.Has ⟨name, none⟩) :
    record.optional name read = .ok none := by
  rw [Record.optional, get?_of_has_none has]

theorem Has.optional_some {value : Value} {result : α} (has : record.Has ⟨name, some value⟩)
    (back : ReadsBack read value result) : record.optional name read = .ok (some result) := by
  obtain ⟨node, found, spelled⟩ := get?_of_has_some has
  have set : node.isUnset = .ok false := by
    simpa [back.set] using Node.isUnset_of_spells spelled
  simp only [Record.optional, found]
  rw [set, ok_bind, back.ok spelled]
  rfl

/-- A field that may be left out. -/
theorem Has.optional {write : α → Value} {result : Option α}
    (has : record.Has ⟨name, result.map write⟩) (back : ∀ x, ReadsBack read (write x) x) :
    record.optional name read = .ok result := by
  cases result with
  | none => exact has.optional_none
  | some x => exact has.optional_some (back x)

theorem Has.optionalNatural {toNat : α → Nat} {result : Option α}
    (has : record.Has (.optionalNatural name (result.map toNat)))
    (back : ∀ x, ReadsBack read (.ofNat (toNat x)) x) :
    record.optional name read = .ok result := by
  rw [WrittenField.optionalNatural, Option.map_map] at has
  exact has.optional back

/-- A value of any kind, of which null is not told from a field that was left out. -/
theorem Has.optional_filter {data : Option Value} {read : Node → Except Fault Value}
    (has : record.Has ⟨name, data⟩)
    (back : ∀ value ∈ data, ∀ {node : Node}, node.spells value → read node = .ok value) :
    record.optional name read = .ok (data.filter (· ≠ .null)) := by
  cases data with
  | none => exact has.optional_none
  | some value =>
    obtain ⟨node, found, spelled⟩ := get?_of_has_some has
    simp only [Record.optional, found]
    rw [Node.isUnset_of_spells spelled, ok_bind, back value rfl spelled]
    by_cases null : value = .null
    · subst null
      rfl
    · rw [Option.filter_some_pos (by simpa using null)]
      simp [null]

/-- JSON data, of which null is not told from a field that was left out. -/
theorem Has.optionalData {data : Option Value} (has : record.Has ⟨name, data⟩)
    (json : ∀ value ∈ data, value.IsJson) :
    record.optional name Node.asOpaque = .ok (data.filter (· ≠ .null)) :=
  has.optional_filter fun value given => Node.asOpaque_of_spells (json value given)

/-- The items of a list are read one by one, null or not. -/
theorem readItems_of_spells {β : Type} {write : β → Value} {result : β → α}
    {nodes : List Node} {items : List β}
    (back : ∀ item ∈ items, ∀ {node : Node}, node.spells (write item) →
      read node = .ok (result item))
    (spelled : List.Forall₂ (fun node value => node.spells value) nodes (items.map write)) :
    readItems read nodes = .ok (items.map result) := by
  induction items generalizing nodes with
  | nil =>
    cases spelled
    rfl
  | cons item rest ih =>
    obtain ⟨first, others⟩ := List.forall_mem_cons.mp back
    cases spelled with
    | cons own spelled =>
      rw [readItems, first own, ok_bind, ih others spelled]
      rfl

/-- A list that was written, of items that may change when they are read back. -/
theorem Has.list_map {β : Type} {write : β → Value} {result : β → α} {items : List β}
    (has : record.Has ⟨name, some (.sequence (items.map write))⟩)
    (back : ∀ item ∈ items, ReadsBack read (write item) (result item)) :
    record.list name read = .ok (items.map result) := by
  obtain ⟨node, found, spelled⟩ := get?_of_has_some has
  obtain ⟨nodes, rfl, parts⟩ := Node.sequence_of_spells spelled
  simp only [Record.list, Record.withDefault, found]
  exact readItems_of_spells (fun item member => (back item member).ok) parts

/-- A list that is left out when it is empty, of items each of which is read back. -/
theorem Has.list_of_each {write : α → Value} {items : List α}
    (has : record.Has (.list name write items))
    (back : ∀ item ∈ items, ∀ {node : Node}, node.spells (write item) → read node = .ok item) :
    record.list name read = .ok items := by
  cases items with
  | nil =>
    rw [Record.list, Record.withDefault, get?_of_has_none has]
  | cons item rest =>
    obtain ⟨node, found, spelled⟩ := get?_of_has_some has
    obtain ⟨nodes, rfl, parts⟩ := Node.sequence_of_spells spelled
    have all := readItems_of_spells back parts
    simp only [Record.list, Record.withDefault, found]
    rwa [List.map_id'] at all

/-- A list that is left out when it is empty. -/
theorem Has.list {write : α → Value} {items : List α} (has : record.Has (.list name write items))
    (back : ∀ item, ReadsBack read (write item) item) : record.list name read = .ok items :=
  has.list_of_each fun item _ => (back item).ok

end Record

/-! ### Scalars -/

namespace ReadsBack

theorem text (s : String) : ReadsBack Node.asText (.string s) s :=
  ⟨nofun, Node.asText_of_spells⟩

theorem bool (b : Bool) : ReadsBack Node.asBool (.bool b) b :=
  ⟨nofun, Node.asBool_of_spells⟩

theorem uint16 (n : UInt16) : ReadsBack Node.asUInt16 (.ofNat n.toNat) n :=
  ⟨nofun, Node.asUInt16_of_spells⟩

theorem uint32 (n : UInt32) : ReadsBack Node.asUInt32 (.ofNat n.toNat) n :=
  ⟨nofun, Node.asUInt32_of_spells⟩

theorem uint64 (n : UInt64) : ReadsBack Node.asUInt64 (.ofNat n.toNat) n :=
  ⟨nofun, Node.asUInt64_of_spells⟩

/-! ### Records -/

/-- The reader of a record takes back what it reads from the written fields. -/
theorem record {α : Type} {positional : Bool} {shape : RecordShape} {fields : List WrittenField}
    {next : Record → Except Fault α} {result : α} (names : fields.map (·.name) = shape.names)
    (distinct : shape.names.Nodup)
    (back : ∀ record : Record, fields.Forall record.Has → next record = .ok result) :
    ReadsBack (fun node => Record.ofNode positional shape node >>= next) (.ofWritten fields)
      result where
  set := nofun
  ok spelled := by
    obtain ⟨record, read, has⟩ :=
      Record.ofNode_of_spells positional shape names distinct spelled
    rw [read, ok_bind]
    exact back record has

end ReadsBack

end NfvCatalog
