import NfvCatalog.Document.Json
import NfvCatalog.Document.NodeReader
import NfvCatalog.Proofs.Lists.Keyed
import NfvCatalog.Proofs.Outcome

/-! # JSON data

Opaque values are JSON data: without tags, with finite numbers, and with distinct text keys in
sorted order. Such data is its own JSON form, and every opaque value that is read is such data.
-/

namespace NfvCatalog

namespace Value

/-- A value is JSON data. -/
inductive IsJson : Value → Prop
  | null : IsJson .null
  | bool (value : Bool) : IsJson (.bool value)
  | string (text : String) : IsJson (.string text)
  | int (value : Int) : IsJson (.number (.int value))
  | float {value : Binary64} (finite : value.isFinite = true) : IsJson (.number (.float value))
  | sequence {items : List Value} (each : ∀ item ∈ items, IsJson item) : IsJson (.sequence items)
  | ofFields {fields : List (String × Value)}
      (sorted : fields.Pairwise fun left right => left.1 < right.1)
      (each : ∀ field ∈ fields, IsJson field.2) : IsJson (.ofFields fields)

/-! ## Data is its own JSON form -/

theorem insertSorted_of_greatest {fields : List (String × Value)} {key : String}
    (greatest : ∀ field ∈ fields, field.1 < key) (value : Value) :
    Entries.insertSorted key value (fields.map fun field => (.string field.1, field.2)) =
      fields.map (fun field => (Value.string field.1, field.2)) ++ [(.string key, value)] := by
  induction fields with
  | nil => rfl
  | cons field rest ih =>
    obtain ⟨below, restBelow⟩ := List.forall_mem_cons.mp greatest
    have other : key ≠ field.1 := fun same => String.lt_irrefl key (same ▸ below)
    have above : ¬ key < field.1 := fun less => String.lt_irrefl key (String.lt_trans less below)
    simp [Entries.insertSorted, other, above, ih restBelow]

private theorem toOpaqueItems_of_each {items : List Value}
    (each : ∀ item ∈ items, toOpaque item = .ok item) : toOpaqueItems items = .ok items := by
  induction items with
  | nil => rfl
  | cons item rest ih =>
    obtain ⟨own, others⟩ := List.forall_mem_cons.mp each
    rw [toOpaqueItems, own, ih others]
    rfl

private theorem toOpaqueEntries_of_sorted {before fields : List (String × Value)}
    (sorted : (before ++ fields).Pairwise fun left right => left.1 < right.1)
    (each : ∀ field ∈ fields, toOpaque field.2 = .ok field.2) :
    toOpaqueEntries (before.map fun field => (.string field.1, field.2))
        (fields.map fun field => (.string field.1, field.2)) =
      .ok ((before ++ fields).map fun field => (.string field.1, field.2)) := by
  induction fields generalizing before with
  | nil => simp [toOpaqueEntries]
  | cons field rest ih =>
    obtain ⟨own, others⟩ := List.forall_mem_cons.mp each
    have greatest : ∀ other ∈ before, other.1 < field.1 := fun other member =>
      (List.pairwise_append.mp sorted).2.2 other member field (List.mem_cons_self ..)
    have placed := insertSorted_of_greatest greatest field.2
    have tail := @ih (before ++ [field]) (by simpa using sorted) others
    rw [List.map_append, List.map_singleton, List.append_assoc, List.singleton_append] at tail
    rw [List.map_cons, toOpaqueEntries, opaqueKey, ok_bind, own, ok_bind, placed, tail]

/-- JSON data is its own JSON form. -/
theorem IsJson.toOpaque_eq {value : Value} (json : value.IsJson) : value.toOpaque = .ok value := by
  induction json with
  | null | bool | string | int => rw [toOpaque]
  | float finite => rw [toOpaque, if_pos finite]
  | sequence _ ih =>
    rw [toOpaque, toOpaqueItems_of_each ih]
    rfl
  | ofFields sorted _ ih =>
    have entries := @toOpaqueEntries_of_sorted [] _ sorted ih
    rw [Value.ofFields, toOpaque, List.map_nil.symm, entries]
    rfl

/-! ## What is read is data -/

private theorem insertSorted_map (key : String) (value : Value) (fields : List (String × Value)) :
    Entries.insertSorted key value (fields.map fun field => (.string field.1, field.2)) =
      (Keyed.put key value fields).map fun field => (.string field.1, field.2) := by
  induction fields with
  | nil => rfl
  | cons field rest ih =>
    rw [List.map_cons, Entries.insertSorted, Keyed.put]
    split
    · rfl
    · split
      · rfl
      · rw [ih]
        rfl

private theorem IsJson.insertSorted {entries : Entries} (json : (mapping entries).IsJson)
    {value : Value} (own : value.IsJson) (key : String) :
    (mapping (entries.insertSorted key value)).IsJson := by
  generalize whole : mapping entries = source at json
  cases json with
  | ofFields sorted each =>
    obtain rfl := Value.mapping.inj whole
    rw [insertSorted_map]
    refine .ofFields (Keyed.sorted_put sorted key value) fun field member => ?_
    rcases Keyed.mem_put member with rfl | member
    · exact own
    · exact each field member
  | _ => cases whole

mutual

/-- The JSON form of a value is JSON data. -/
theorem isJson_of_toOpaque {value form : Value} (read : value.toOpaque = .ok form) :
    form.IsJson := by
  match value with
  | .null | .bool _ | .string _ | .number (.int _) =>
    rw [toOpaque] at read
    obtain rfl := Except.ok.inj read
    constructor
  | .number (.float x) =>
    rw [toOpaque] at read
    obtain rfl := Except.ok.inj read
    split
    · next finite => exact .float finite
    · exact .null
  | .sequence items =>
    rw [toOpaque, bind_eq_ok] at read
    obtain ⟨forms, each, same⟩ := read
    obtain rfl := Except.ok.inj same
    exact .sequence (isJson_of_toOpaqueItems each)
  | .mapping entries =>
    rw [toOpaque, bind_eq_ok] at read
    obtain ⟨forms, each, same⟩ := read
    obtain rfl := Except.ok.inj same
    exact isJson_of_toOpaqueEntries (.ofFields .nil (by simp)) each
  | .tagged tag value =>
    rw [toOpaque, bind_eq_ok] at read
    obtain ⟨form, own, same⟩ := read
    obtain rfl := Except.ok.inj same
    have json := isJson_of_toOpaque own
    exact @IsJson.ofFields [("!" ++ tag, form)] (by simp) (by simpa using json)

private theorem isJson_of_toOpaqueItems {items forms : List Value}
    (read : toOpaqueItems items = .ok forms) : ∀ form ∈ forms, form.IsJson := by
  match items with
  | [] =>
    obtain rfl := Except.ok.inj read
    simp
  | item :: rest =>
    rw [toOpaqueItems, bind_eq_ok] at read
    obtain ⟨form, own, read⟩ := read
    obtain ⟨others, each, same⟩ := bind_eq_ok.mp read
    obtain rfl := Except.ok.inj same
    exact List.forall_mem_cons.mpr ⟨isJson_of_toOpaque own, isJson_of_toOpaqueItems each⟩

private theorem isJson_of_toOpaqueEntries {before forms : Entries}
    {entries : List (Value × Value)} (json : (mapping before).IsJson)
    (read : toOpaqueEntries before entries = .ok forms) : (mapping forms).IsJson := by
  match entries with
  | [] =>
    obtain rfl := Except.ok.inj read
    exact json
  | (key, value) :: rest =>
    rw [toOpaqueEntries, bind_eq_ok] at read
    obtain ⟨text, -, read⟩ := read
    obtain ⟨form, own, read⟩ := bind_eq_ok.mp read
    exact isJson_of_toOpaqueEntries (json.insertSorted (isJson_of_toOpaque own) text) read

end

end Value

namespace Node

private theorem isJson_opaqueScalar_float (value : Binary64) :
    (opaqueScalar (.number (.float value))).IsJson := by
  rw [opaqueScalar]
  split
  · next finite => exact .float finite
  · exact .null

private theorem isJson_of_resolve {source : String} {value : Value}
    (read : Scalar.resolve source = .ok value) : (opaqueScalar value).IsJson := by
  rw [Scalar.resolve] at read
  split at read
  · obtain rfl := Except.ok.inj read
    exact .null
  · split at read
    · obtain rfl := Except.ok.inj read
      exact .bool _
    · split at read
      · obtain rfl := Except.ok.inj read
        exact .int _
      · cases read
      · obtain rfl := Except.ok.inj read
        rw [Scalar.floatOrText]
        split
        · exact .string _
        · split
          · exact isJson_opaqueScalar_float _
          · exact .string _

private theorem isJson_of_resolveTagged {tag : Tag} {source : String} {value : Value}
    (read : resolveTagged tag source = .ok value) : (opaqueScalar value).IsJson := by
  match tag with
  | .core .bool =>
    cases spelled : Scalar.bool? source with
    | none => simp [resolveTagged, spelled] at read
    | some b =>
      obtain rfl : .bool b = value := by simpa [resolveTagged, spelled] using read
      exact .bool b
  | .core .int =>
    cases spelled : Scalar.whole source with
    | fits n =>
      obtain rfl : .number (.int n) = value := by simpa [resolveTagged, spelled] using read
      exact .int n
    | tooLarge | absent => simp [resolveTagged, spelled] at read
  | .core .float =>
    cases spelled : Scalar.float? source with
    | none => simp [resolveTagged, spelled] at read
    | some x =>
      obtain rfl : .number (.float x) = value := by simpa [resolveTagged, spelled] using read
      exact isJson_opaqueScalar_float x
  | .core .null =>
    by_cases spelled : Scalar.isNullWord source
    · obtain rfl : .null = value := by simpa [resolveTagged, spelled] using read
      exact .null
    · simp [resolveTagged, spelled] at read
  | .own _ | .nameless | .foreign =>
    obtain rfl : .string source = value := Except.ok.inj read
    exact .string source

private theorem isJson_of_tagged {tag : Tag} {node : Node} {value : Value}
    (inner : ∀ {form}, node.toOpaque = .ok form → form.IsJson)
    (read : (tagged tag node).toOpaque = .ok value) : value.IsJson := by
  have scalar {source : String} (read : (do
      return opaqueScalar (← resolveTagged tag source)) = Except.ok value) : value.IsJson := by
    obtain ⟨read, resolved, same⟩ := bind_eq_ok.mp read
    obtain rfl := Except.ok.inj same
    exact isJson_of_resolveTagged resolved
  cases tag with
  | own => cases read
  | nameless => exact inner read
  | core | foreign =>
    cases node with
    | plain | text | literal => exact scalar read
    | _ => exact inner read

mutual

/-- An opaque value that is read from a document is JSON data. -/
theorem isJson_of_toOpaque {node : Node} {value : Value} (read : node.toOpaque = .ok value) :
    value.IsJson := by
  match node with
  | .plain source =>
    rw [toOpaque, bind_eq_ok] at read
    obtain ⟨scalar, resolved, same⟩ := read
    obtain rfl := Except.ok.inj same
    exact isJson_of_resolve resolved
  | .null | .bool _ | .text _ | .literal _ =>
    rw [toOpaque] at read
    obtain rfl := Except.ok.inj read
    constructor
  | .number (.int _) =>
    rw [toOpaque] at read
    obtain rfl := Except.ok.inj read
    exact .int _
  | .number (.float _) =>
    rw [toOpaque] at read
    obtain rfl := Except.ok.inj read
    exact isJson_opaqueScalar_float _
  | .sequence items =>
    rw [toOpaque, bind_eq_ok] at read
    obtain ⟨values, each, same⟩ := read
    obtain rfl := Except.ok.inj same
    exact .sequence (isJson_of_toOpaqueItems each)
  | .mapping entries =>
    rw [toOpaque, bind_eq_ok] at read
    obtain ⟨values, each, same⟩ := read
    obtain rfl := Except.ok.inj same
    exact isJson_of_toOpaqueEntries (.ofFields .nil (by simp)) each
  | .tagged tag node => exact isJson_of_tagged (fun own => isJson_of_toOpaque own) read
  | .shared _ content =>
    rw [toOpaque] at read
    exact @isJson_of_toOpaque (content ()) value read
  | .unreadable reason => cases read

private theorem isJson_of_toOpaqueItems {items : List Node} {values : List Value}
    (read : toOpaqueItems items = .ok values) : ∀ value ∈ values, value.IsJson := by
  match items with
  | [] =>
    obtain rfl := Except.ok.inj read
    simp
  | item :: rest =>
    rw [toOpaqueItems, bind_eq_ok] at read
    obtain ⟨value, own, read⟩ := read
    obtain ⟨others, each, same⟩ := bind_eq_ok.mp read
    obtain rfl := Except.ok.inj same
    exact List.forall_mem_cons.mpr ⟨isJson_of_toOpaque own, isJson_of_toOpaqueItems each⟩

private theorem isJson_of_toOpaqueEntries {before values : Value.Entries}
    {entries : List (Node × Node)} (json : (Value.mapping before).IsJson)
    (read : toOpaqueEntries before entries = .ok values) : (Value.mapping values).IsJson := by
  match entries with
  | [] =>
    obtain rfl := Except.ok.inj read
    exact json
  | (key, value) :: rest =>
    rw [toOpaqueEntries, bind_eq_ok] at read
    obtain ⟨text, -, read⟩ := read
    obtain ⟨form, own, read⟩ := bind_eq_ok.mp read
    exact isJson_of_toOpaqueEntries (json.insertSorted (isJson_of_toOpaque own) text) read

end

end Node

end NfvCatalog
