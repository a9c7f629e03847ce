import NfvCatalog.Proofs.Document.Spelling

/-! # Values of documents

What is read of a document without knowing what is wanted is a value whose mappings, at every depth,
have no two keys that are alike. Such a value is taken back from any spelling of it.
-/

namespace NfvCatalog

namespace Value

/-- The entries of a mapping have keys no two of which are alike. -/
def Entries.Distinct (entries : Entries) : Prop :=
  entries.Pairwise fun left right => left.1.alike right.1 = false

/-- A value can stand in a document: its mappings have distinct keys. -/
inductive IsDocument : Value → Prop
  | null : IsDocument .null
  | bool (value : Bool) : IsDocument (.bool value)
  | number (value : Number) : IsDocument (.number value)
  | string (text : String) : IsDocument (.string text)
  | sequence {items : List Value} (each : ∀ item ∈ items, IsDocument item) :
      IsDocument (.sequence items)
  | mapping {entries : Entries} (distinct : entries.Distinct)
      (keys : ∀ entry ∈ entries, IsDocument entry.1)
      (values : ∀ entry ∈ entries, IsDocument entry.2) : IsDocument (.mapping entries)
  | tagged (tag : String) {value : Value} (own : IsDocument value) : IsDocument (.tagged tag value)

/-- Entries can stand in a document. -/
def Entries.AreDocument (entries : Entries) : Prop := (mapping entries).IsDocument

theorem Entries.areDocument_nil : Entries.AreDocument [] := .mapping .nil nofun nofun

theorem alike_string (left right : String) :
    (string left).alike (.string right) = decide (left = right) := rfl

/-- Named fields stand in a document if their names are distinct. -/
theorem IsDocument.ofFields {fields : List (String × Value)}
    (distinct : (fields.map Prod.fst).Nodup) (each : ∀ field ∈ fields, field.2.IsDocument) :
    (Value.ofFields fields).IsDocument := by
  refine .mapping ?_ ?_ ?_
  · rw [Entries.Distinct, List.pairwise_map]
    exact (List.pairwise_map.mp distinct).imp fun {left right} differ => by
      simpa [alike_string] using differ
  · rw [List.forall_mem_map]
    exact fun field _ => .string field.1
  · rwa [List.forall_mem_map]

theorem IsDocument.of_isJson {value : Value} (json : value.IsJson) : value.IsDocument := by
  induction json with
  | null => exact .null
  | bool b => exact .bool b
  | string text => exact .string text
  | int n => exact .number (.int n)
  | @float x _ => exact .number (.float x)
  | sequence _ ih => exact .sequence ih
  | ofFields sorted _ ih =>
    refine .ofFields (List.pairwise_map.mpr (sorted.imp fun {left right} less same => ?_)) ih
    exact String.lt_irrefl right.1 (same ▸ less)

end Value

namespace Node

theorem toValueEntries_cons (before : Value.Entries) (key node : Node)
    (rest : List (Node × Node)) :
    toValueEntries before ((key, node) :: rest) = do
      let name ← key.toValue
      if before.any (·.1.alike name) then .error (.duplicateKey "")
      else do
        let value ← node.toValue
        return (name, value) :: (← toValueEntries ((name, value) :: before) rest) := by
  rw [toValueEntries]
  refine bind_congr fun name => ?_
  split <;> rfl

/-! ## What is read can stand in a document -/

private theorem isDocument_of_resolve {source : String} {value : Value}
    (read : Scalar.resolve source = .ok value) : value.IsDocument := by
  obtain ⟨-, rfl⟩ | ⟨-, ⟨b, -, rfl⟩ | ⟨n, rfl⟩ | rfl⟩ := Scalar.resolve_cases read
  · exact .null
  · exact .bool b
  · exact .number n
  · exact .string source

private theorem isDocument_of_resolveTagged {tag : Tag} {source : String} {value : Value}
    (read : resolveTagged tag source = .ok value) : value.IsDocument := by
  match tag with
  | .core .bool =>
    rw [resolveTagged] at read
    split at read <;> cases read
    exact .bool _
  | .core .int =>
    rw [resolveTagged] at read
    split at read <;> cases read
    exact .number _
  | .core .float =>
    rw [resolveTagged] at read
    split at read <;> cases read
    exact .number _
  | .core .null =>
    rw [resolveTagged] at read
    split at read <;> cases read
    exact .null
  | .own _ | .nameless | .foreign =>
    obtain rfl := Except.ok.inj read
    exact .string source

private theorem isDocument_of_tagged {tag : Tag} {node : Node} {value : Value}
    (inner : ∀ {value}, node.toValue = .ok value → value.IsDocument)
    (read : (tagged tag node).toValue = .ok value) : value.IsDocument := by
  cases tag with
  | own name =>
    rw [toValue, bind_eq_ok] at read
    obtain ⟨own, given, same⟩ := read
    obtain rfl := Except.ok.inj same
    exact .tagged name (inner given)
  | nameless => exact inner read
  | core | foreign =>
    cases node with
    | plain | text | literal => exact isDocument_of_resolveTagged read
    | _ => exact inner read

mutual

/-- A value that is read from a document can stand in one. -/
theorem isDocument_of_toValue {node : Node} {value : Value} (read : node.toValue = .ok value) :
    value.IsDocument := by
  match node with
  | .plain source => exact isDocument_of_resolve read
  | .null | .bool _ | .number _ | .text _ | .literal _ =>
    rw [toValue] at read
    obtain rfl := Except.ok.inj read
    constructor
  | .sequence items =>
    rw [toValue, bind_eq_ok] at read
    obtain ⟨values, each, same⟩ := read
    obtain rfl := Except.ok.inj same
    exact .sequence (isDocument_of_toValues each)
  | .mapping entries =>
    rw [toValue, bind_eq_ok] at read
    obtain ⟨values, each, same⟩ := read
    obtain rfl := Except.ok.inj same
    exact (areDocument_of_toValueEntries each).1
  | .tagged tag node => exact isDocument_of_tagged (fun own => isDocument_of_toValue own) read
  | .shared _ content =>
    rw [toValue] at read
    exact @isDocument_of_toValue (content ()) value read
  | .unreadable reason => cases read

private theorem isDocument_of_toValues {items : List Node} {values : List Value}
    (read : toValues items = .ok values) : ∀ value ∈ values, value.IsDocument := by
  match items with
  | [] =>
    obtain rfl := Except.ok.inj read
    simp
  | item :: rest =>
    rw [toValues, bind_eq_ok] at read
    obtain ⟨value, own, read⟩ := read
    obtain ⟨others, each, same⟩ := bind_eq_ok.mp read
    obtain rfl := Except.ok.inj same
    exact List.forall_mem_cons.mpr ⟨isDocument_of_toValue own, isDocument_of_toValues each⟩

/-- Entries are read in order, so a key is refused only for one before it. -/
private theorem areDocument_of_toValueEntries {before values : Value.Entries}
    {entries : List (Node × Node)} (read : toValueEntries before entries = .ok values) :
    values.AreDocument ∧
      ∀ earlier ∈ before, ∀ entry ∈ values, earlier.1.alike entry.1 = false := by
  match entries with
  | [] =>
    obtain rfl := Except.ok.inj read
    exact ⟨.mapping .nil nofun nofun, nofun⟩
  | (key, value) :: rest =>
    rw [toValueEntries_cons, bind_eq_ok] at read
    obtain ⟨name, named, read⟩ := read
    split at read
    · cases read
    next fresh =>
    obtain ⟨own, given, read⟩ := bind_eq_ok.mp read
    obtain ⟨others, each, same⟩ := bind_eq_ok.mp read
    obtain rfl := Except.ok.inj same
    obtain ⟨document, apart⟩ := areDocument_of_toValueEntries each
    obtain ⟨first, apart⟩ := List.forall_mem_cons.mp apart
    cases document with
    | mapping distinct keys values =>
      refine ⟨.mapping (.cons first distinct)
        (List.forall_mem_cons.mpr ⟨isDocument_of_toValue named, keys⟩)
        (List.forall_mem_cons.mpr ⟨isDocument_of_toValue given, values⟩), ?_⟩
      refine fun earlier member => List.forall_mem_cons.mpr ⟨?_, apart earlier member⟩
      simpa using fun alike => fresh (List.any_eq_true.mpr ⟨earlier, member, alike⟩)

end

theorem isDocument_of_resolve_eq {node : Node} {value : Value}
    (read : node.resolve = .ok value) : value.IsDocument := by
  obtain ⟨_, -, read⟩ := bind_eq_ok.mp read
  exact isDocument_of_toValue read

theorem areDocument_of_asValueEntries {node : Node} {entries : Value.Entries}
    (read : node.asValueEntries = .ok entries) : entries.AreDocument := by
  obtain ⟨_, -, read⟩ := bind_eq_ok.mp read
  obtain ⟨_, -, read⟩ := bind_eq_ok.mp read
  exact (areDocument_of_toValueEntries read).1

/-! ## It is taken back from its spellings -/

mutual

/-- A value that can stand in a document is what any spelling of it is read as. -/
theorem toValue_of_spells {node : Node} {value : Value} (document : value.IsDocument)
    (spelled : node.spells value) : node.toValue = .ok value := by
  match node with
  | .plain source =>
    rw [spells] at spelled
    exact Scalar.resolve_of_spells spelled
  | .null | .bool _ | .number _ | .text _ | .literal _ =>
    cases value <;> simp [spells] at spelled
    all_goals simp [toValue, spelled]
  | .sequence items =>
    cases document <;> simp only [spells, Bool.false_eq_true] at spelled
    next each =>
    rw [toValue, toValues_of_spells each spelled]
    rfl
  | .mapping entries =>
    cases document <;> simp only [spells, Bool.false_eq_true] at spelled
    next distinct keys values =>
    rw [toValue, toValueEntries_of_spells distinct (by simp) keys values spelled]
    rfl
  | .tagged tag inner =>
    cases tag <;> cases document <;> simp only [spells, Bool.false_eq_true] at spelled
    next name _ _ own =>
    rw [Bool.and_eq_true, decide_eq_true_eq] at spelled
    obtain ⟨rfl, spelled⟩ := spelled
    rw [toValue, toValue_of_spells own spelled]
    rfl
  | .shared _ _ | .unreadable _ => simp [spells] at spelled

private theorem toValues_of_spells {items : List Node} {values : List Value}
    (each : ∀ value ∈ values, value.IsDocument) (spelled : spellsItems items values) :
    toValues items = .ok values := by
  match items, values with
  | [], [] => rfl
  | [], _ :: _ | _ :: _, [] => cases spelled
  | item :: items, value :: values =>
    obtain ⟨own, others⟩ := List.forall_mem_cons.mp each
    rw [spellsItems, Bool.and_eq_true] at spelled
    rw [toValues, toValue_of_spells own spelled.1, ok_bind, toValues_of_spells others spelled.2]
    rfl

private theorem toValueEntries_of_spells {before : Value.Entries}
    {entries : List (Node × Node)} {values : List (Value × Value)}
    (distinct : Value.Entries.Distinct values)
    (apart : ∀ earlier ∈ before, ∀ entry ∈ values, earlier.1.alike entry.1 = false)
    (keys : ∀ entry ∈ values, entry.1.IsDocument) (each : ∀ entry ∈ values, entry.2.IsDocument)
    (spelled : spellsEntries entries values) : toValueEntries before entries = .ok values := by
  match entries, values with
  | [], [] => rfl
  | [], _ :: _ | _ :: _, [] => cases spelled
  | (key, node) :: entries, (name, value) :: values =>
    rw [spellsEntries, Bool.and_eq_true, Bool.and_eq_true] at spelled
    obtain ⟨⟨named, own⟩, others⟩ := spelled
    obtain ⟨nameDocument, keys⟩ := List.forall_mem_cons.mp keys
    obtain ⟨valueDocument, each⟩ := List.forall_mem_cons.mp each
    obtain ⟨first, distinct⟩ := List.pairwise_cons.mp distinct
    have fresh : before.any (·.1.alike name) = false := by
      simpa using fun key value member => apart (key, value) member _ (List.mem_cons_self ..)
    have apart : ∀ earlier ∈ (name, value) :: before, ∀ entry ∈ values,
        earlier.1.alike entry.1 = false :=
      List.forall_mem_cons.mpr ⟨first, fun earlier member entry within =>
        apart earlier member entry (List.mem_cons_of_mem _ within)⟩
    have rest := toValueEntries_of_spells distinct apart keys each others
    rw [toValueEntries_cons, toValue_of_spells nameDocument named, ok_bind, fresh,
      toValue_of_spells valueDocument own]
    simp [rest]

end

theorem resolve_of_spells {node : Node} {value : Value} (document : value.IsDocument)
    (spelled : node.spells value) : node.resolve = .ok value := by
  rw [resolve, whole, within_of_spells .whole spelled, ok_bind]
  exact toValue_of_spells document spelled

theorem asValueEntries_of_spells {node : Node} {entries : Value.Entries}
    (document : entries.AreDocument) (spelled : node.spells (.mapping entries)) :
    node.asValueEntries = .ok entries := by
  have read := toValue_of_spells document spelled
  rw [asValueEntries, whole, within_of_spells .whole spelled, ok_bind]
  cases node with
  | mapping nodes =>
    rw [toValue, bind_eq_ok] at read
    obtain ⟨_, read, same⟩ := read
    obtain rfl := Value.mapping.inj (Except.ok.inj same)
    exact read
  | plain source =>
    rw [spells] at spelled
    have := Scalar.resolve_cases (Scalar.resolve_of_spells spelled)
    simp at this
  | _ => simp [spells] at spelled

/-! ## The kinds of its scalars -/

theorem withKinds_of_spells_text {node : Node} {text : String}
    (spelled : node.spells (.string text)) : node.withKinds = .ok (.text text) := by
  cases node with
  | plain source =>
    rw [spells] at spelled
    rw [withKinds, Scalar.resolve_of_spells spelled]
    rfl
  | text | literal =>
    obtain rfl : _ = text := by simpa [spells] using spelled
    rfl
  | _ => simp [spells] at spelled

private theorem entriesWithKinds_of_spells {entries : List (Node × Node)}
    {fields : List (String × Value)} (texts : ∀ field ∈ fields, ∃ text, field.2 = .string text)
    (spelled : List.Forall₂ SpellsField entries fields) :
    ∃ kinds, entriesWithKinds entries = .ok kinds ∧ List.Forall₂ SpellsField kinds fields := by
  induction spelled with
  | nil => exact ⟨[], rfl, .nil⟩
  | @cons entry field _ _ own _ ih =>
    obtain ⟨⟨text, given⟩, texts⟩ := List.forall_mem_cons.mp texts
    obtain ⟨kinds, fixed, same⟩ := ih texts
    have value : entry.2.withKinds = .ok (.text text) :=
      withKinds_of_spells_text (given ▸ own.2)
    refine ⟨(.text field.1, .text text) :: kinds, ?_, .cons ⟨by simp [spells], ?_⟩ same⟩
    · rw [entriesWithKinds, withKinds_of_spells_text own.1, ok_bind, value, ok_bind, fixed]
      rfl
    · simp [given, spells]

theorem typed_of_spells_text {node : Node} {text : String} (spelled : node.spells (.string text)) :
    node.typed = .ok (.text text) := by
  rw [typed, whole, within_of_spells .whole spelled, ok_bind]
  exact withKinds_of_spells_text spelled

/-- A spelling of named texts with its kinds fixed is a mapping, and spells them still. -/
theorem typed_of_spells_texts {node : Node} {fields : List (String × Value)}
    (texts : ∀ field ∈ fields, ∃ text, field.2 = .string text)
    (spelled : node.spells (.ofFields fields)) :
    ∃ entries, node.typed = .ok (.mapping entries) ∧
      (mapping entries).spells (.ofFields fields) := by
  rw [typed, whole, within_of_spells .whole spelled, ok_bind]
  obtain ⟨entries, rfl, parts⟩ := mapping_of_spells spelled
  obtain ⟨kinds, fixed, same⟩ := entriesWithKinds_of_spells texts parts
  refine ⟨kinds, ?_, ?_⟩
  · rw [withKinds, fixed]
    rfl
  · rw [Value.ofFields, spells]
    exact spellsEntries_iff.mpr same

end Node

end NfvCatalog
