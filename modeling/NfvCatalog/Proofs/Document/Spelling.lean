import Mathlib.Data.List.Forall2
import NfvCatalog.Document.Format
import NfvCatalog.Proofs.Document.Json

/-! # Spellings

A document that is read is a spelling of a value when it says that value and nothing else: scalar by
scalar, item by item, entry by entry, an unquoted scalar by the kind that it resolves to. Whatever
kind a reader wants, it takes the value from any spelling of it.
-/

namespace NfvCatalog

/-! ## Spelled scalars -/

namespace Scalar

/-- Whether an unquoted scalar spells a value. A natural number is to be spelled as one, since `-0`
is zero only to a reader that wants no natural number. -/
def spells (source : String) (value : Value) : Bool :=
  match resolve source with
  | .ok (.number (.int n)) => value = .number (.int n) && (n < 0 || natural? source = some n.toNat)
  | .ok resolved => value = resolved
  | .error _ => false

theorem resolve_of_spells {source : String} {value : Value}
    (spelled : spells source value) : resolve source = .ok value := by
  rw [spells] at spelled
  split at spelled
  · next n resolved =>
    rw [Bool.and_eq_true, decide_eq_true_eq] at spelled
    rw [resolved, spelled.1]
  · next resolved =>
    rw [decide_eq_true_eq] at spelled
    rw [resolved, spelled]
  · cases spelled

theorem natural?_of_spells {source : String} {n : Nat}
    (spelled : spells source (.ofNat n)) : natural? source = some n := by
  have resolved : resolve source = .ok (.number (.int n)) := resolve_of_spells spelled
  have spelled : (n : Int) < 0 ∨ natural? source = some n := by
    simpa [spells, resolved, Value.ofNat] using spelled
  exact spelled.resolve_left (by omega)

/-- What the steps of resolving a scalar come to. -/
theorem resolve_cases {source : String} {value : Value} (resolved : resolve source = .ok value) :
    (isUnset source = true ∧ value = .null) ∨
    (isUnset source = false ∧
      ((∃ b, bool? source = some b ∧ value = .bool b) ∨ (∃ n, value = .number n) ∨
        value = .string source)) := by
  rw [resolve] at resolved
  split at resolved
  · next unset => exact .inl ⟨unset, (Except.ok.inj resolved).symm⟩
  next set =>
  refine .inr ⟨Bool.not_eq_true _ ▸ set, ?_⟩
  split at resolved
  · next b truth => exact .inl ⟨b, truth, (Except.ok.inj resolved).symm⟩
  refine .inr ?_
  split at resolved
  · next n _ => exact .inl ⟨.int n, (Except.ok.inj resolved).symm⟩
  · cases resolved
  · rw [floatOrText] at resolved
    split at resolved
    · exact .inr (Except.ok.inj resolved).symm
    · split at resolved
      · next x _ => exact .inl ⟨.float x, (Except.ok.inj resolved).symm⟩
      · exact .inr (Except.ok.inj resolved).symm

theorem isUnset_of_resolve {source : String} {value : Value}
    (resolved : resolve source = .ok value) : isUnset source = decide (value = .null) := by
  obtain ⟨unset, rfl⟩ | ⟨unset, ⟨_, -, rfl⟩ | ⟨_, rfl⟩ | rfl⟩ := resolve_cases resolved
  all_goals simp [unset]

theorem bool?_of_resolve {source : String} {b : Bool} (resolved : resolve source = .ok (.bool b)) :
    bool? source = some b := by
  obtain ⟨-, same⟩ | ⟨-, ⟨_, spelled, same⟩ | ⟨_, same⟩ | same⟩ := resolve_cases resolved
  all_goals cases same
  exact spelled

theorem source_of_resolve {source text : String}
    (resolved : resolve source = .ok (.string text)) : source = text := by
  obtain ⟨-, same⟩ | ⟨-, ⟨_, -, same⟩ | ⟨_, same⟩ | same⟩ := resolve_cases resolved
  all_goals cases same
  rfl

end Scalar

/-! ## Spelled documents -/

namespace Node

mutual

/-- Whether a document spells a value. -/
def spells : Node → Value → Bool
  | .plain source, value => Scalar.spells source value
  | .null, .null => true
  | .bool b, .bool c => b = c
  | .number m, .number n => m = n
  | .text s, .string t | .literal s, .string t => s = t
  | .sequence items, .sequence values => spellsItems items values
  | .mapping entries, .mapping values => spellsEntries entries values
  | .tagged (.own name) node, .tagged tag value => name = tag && spells node value
  | _, _ => false

/-- Whether documents spell values, one by one. -/
def spellsItems : List Node → List Value → Bool
  | [], [] => true
  | item :: items, value :: values => spells item value && spellsItems items values
  | _, _ => false

/-- Whether entries spell entries of values, one by one. -/
def spellsEntries : List (Node × Node) → List (Value × Value) → Bool
  | [], [] => true
  | (key, node) :: entries, (name, value) :: values =>
    spells key name && spells node value && spellsEntries entries values
  | _, _ => false

end

/-- Whether an entry spells a named field. -/
def SpellsField (entry : Node × Node) (field : String × Value) : Prop :=
  entry.1.spells (.string field.1) ∧ entry.2.spells field.2

theorem spellsItems_iff {items : List Node} {values : List Value} :
    spellsItems items values ↔
      List.Forall₂ (fun item value => item.spells value) items values := by
  induction items generalizing values with
  | nil => cases values <;> simp [spellsItems]
  | cons item rest ih => cases values <;> simp [spellsItems, ih]

theorem spellsEntries_iff {entries : List (Node × Node)} {fields : List (String × Value)} :
    spellsEntries entries (fields.map fun field => (.string field.1, field.2)) ↔
      List.Forall₂ SpellsField entries fields := by
  induction entries generalizing fields with
  | nil => cases fields <;> simp [spellsEntries]
  | cons entry rest ih => cases fields <;> simp [spellsEntries, SpellsField, ih]

variable {node : Node}

/-! ### Its parts -/

/-- Only a tagged value has a spelling with a tag. -/
theorem tagged_of_spells {tag : Tag} {value : Value} (spelled : (tagged tag node).spells value) :
    ∃ name inner, tag = .own name ∧ value = .tagged name inner ∧ node.spells inner := by
  cases tag with
  | own name =>
    cases value with
    | tagged other inner =>
      obtain ⟨same, own⟩ := Bool.and_eq_true_iff.mp spelled
      exact ⟨other, inner, congrArg Tag.own (of_decide_eq_true same), rfl, own⟩
    | _ => cases spelled
  | _ => cases value <;> cases spelled

/-- A spelling of a list is a list of spellings. -/
theorem sequence_of_spells {values : List Value} (spelled : node.spells (.sequence values)) :
    ∃ items, node = .sequence items ∧
      List.Forall₂ (fun item value => item.spells value) items values := by
  cases node with
  | sequence items => exact ⟨items, rfl, spellsItems_iff.mp spelled⟩
  | plain source =>
    have := Scalar.resolve_cases (Scalar.resolve_of_spells spelled)
    simp at this
  | tagged => exact absurd (tagged_of_spells spelled) (by simp)
  | _ => cases spelled

/-- A spelling of named fields is a mapping of spellings. -/
theorem mapping_of_spells {fields : List (String × Value)}
    (spelled : node.spells (.ofFields fields)) :
    ∃ entries, node = .mapping entries ∧ List.Forall₂ SpellsField entries fields := by
  cases node with
  | mapping entries => exact ⟨entries, rfl, spellsEntries_iff.mp spelled⟩
  | plain source =>
    have := Scalar.resolve_cases (Scalar.resolve_of_spells spelled)
    simp [Value.ofFields] at this
  | tagged => exact absurd (tagged_of_spells spelled) (by simp [Value.ofFields])
  | _ => cases spelled

/-! ### Scalars of a wanted kind -/

theorem asText_of_spells {text : String} (spelled : node.spells (.string text)) :
    node.asText = .ok text := by
  cases node with
  | plain source =>
    rw [← Scalar.source_of_resolve (Scalar.resolve_of_spells spelled)]
    rfl
  | text | literal =>
    obtain rfl : _ = text := of_decide_eq_true spelled
    rfl
  | tagged => exact absurd (tagged_of_spells spelled) (by simp)
  | _ => cases spelled

theorem asBool_of_spells {b : Bool} (spelled : node.spells (.bool b)) : node.asBool = .ok b := by
  cases node with
  | plain source =>
    have truth := Scalar.bool?_of_resolve (Scalar.resolve_of_spells spelled)
    simp [asBool, untagged, source?, settled, truth]
  | bool =>
    obtain rfl : _ = b := of_decide_eq_true spelled
    rfl
  | tagged => exact absurd (tagged_of_spells spelled) (by simp)
  | _ => cases spelled

theorem asNatural_of_spells {bound n : Nat} (below : n < bound)
    (spelled : node.spells (.ofNat n)) : node.asNatural bound = .ok n := by
  cases node with
  | plain source =>
    have number := Scalar.natural?_of_spells spelled
    simp [asNatural, untagged, source?, settled, number, below]
  | number m =>
    obtain rfl : m = .int n := of_decide_eq_true spelled
    simp [asNatural, untagged, below]
  | tagged => exact absurd (tagged_of_spells spelled) (by simp [Value.ofNat])
  | _ => cases spelled

theorem asUInt16_of_spells {n : UInt16} (spelled : node.spells (.ofNat n.toNat)) :
    node.asUInt16 = .ok n := by
  rw [asUInt16, asNatural_of_spells n.toNat_lt spelled, ok_bind, UInt16.ofNat_toNat]
  rfl

theorem asUInt32_of_spells {n : UInt32} (spelled : node.spells (.ofNat n.toNat)) :
    node.asUInt32 = .ok n := by
  rw [asUInt32, asNatural_of_spells n.toNat_lt spelled, ok_bind, UInt32.ofNat_toNat]
  rfl

theorem asUInt64_of_spells {n : UInt64} (spelled : node.spells (.ofNat n.toNat)) :
    node.asUInt64 = .ok n := by
  rw [asUInt64, asNatural_of_spells n.toNat_lt spelled, ok_bind, UInt64.ofNat_toNat]
  rfl

/-- A spelling is of no value only if it spells null. -/
theorem isUnset_of_spells {value : Value} (spelled : node.spells value) :
    node.isUnset = .ok (decide (value = .null)) := by
  cases node with
  | plain source =>
    have unset := Scalar.isUnset_of_resolve (Scalar.resolve_of_spells spelled)
    simp [isUnset, settled, unset]
  | tagged =>
    obtain ⟨name, inner, rfl, rfl, -⟩ := tagged_of_spells spelled
    rfl
  | shared | unreadable => cases value <;> cases spelled
  | _ =>
    cases value <;> try cases spelled
    all_goals rfl

/-! ### References -/

mutual

/-- There are no references in a spelling. -/
theorem countReferences_of_spells {node : Node} {value : Value} (extent : Extent) (count : Nat)
    (spelled : node.spells value) : node.countReferences extent count = .ok count := by
  match node with
  | .plain _ | .null | .bool _ | .number _ | .text _ | .literal _ => rfl
  | .sequence items =>
    cases value <;> simp only [spells, Bool.false_eq_true] at spelled
    rw [countReferences]
    exact countInItems_of_spells extent.ofItem count spelled
  | .mapping entries =>
    cases value <;> simp only [spells, Bool.false_eq_true] at spelled
    rw [countReferences]
    exact countInEntries_of_spells extent count spelled
  | .tagged tag inner =>
    cases tag <;> cases value <;> simp only [spells, Bool.false_eq_true] at spelled
    rw [Bool.and_eq_true] at spelled
    rw [countReferences]
    exact countReferences_of_spells extent count spelled.2
  | .shared _ _ | .unreadable _ => simp [spells] at spelled

private theorem countInItems_of_spells {items : List Node} {values : List Value} (extent : Extent)
    (count : Nat) (spelled : spellsItems items values) :
    countInItems extent items count = .ok count := by
  match items, values with
  | [], [] => rfl
  | [], _ :: _ | _ :: _, [] => cases spelled
  | item :: items, value :: values =>
    rw [spellsItems, Bool.and_eq_true] at spelled
    rw [countInItems, countReferences_of_spells extent count spelled.1, ok_bind]
    exact countInItems_of_spells extent count spelled.2

private theorem countInEntries_of_spells {entries : List (Node × Node)}
    {values : List (Value × Value)} (extent : Extent) (count : Nat)
    (spelled : spellsEntries entries values) :
    countInEntries extent entries count = .ok count := by
  match entries, values with
  | [], [] => rfl
  | [], _ :: _ | _ :: _, [] => cases spelled
  | (key, node) :: entries, (name, value) :: values =>
    rw [spellsEntries, Bool.and_eq_true, Bool.and_eq_true] at spelled
    obtain ⟨⟨named, own⟩, others⟩ := spelled
    rw [countInEntries, countReferences_of_spells .whole count named, ok_bind]
    have rest := countInEntries_of_spells extent count others
    split
    · next inner _ => rw [countReferences_of_spells inner count own, ok_bind, rest]
    · exact rest

end

theorem within_of_spells {value : Value} (extent : Extent) (spelled : node.spells value) :
    node.within extent = .ok node := by
  rw [within, countReferences_of_spells extent 0 spelled]
  rfl

/-! ### Opaque values -/

private theorem opaqueScalar_of_isJson {value : Value} (json : value.IsJson) :
    opaqueScalar value = value := by
  cases json with
  | float finite => simp [opaqueScalar, finite]
  | _ => rfl

private theorem toOpaque_plain {source : String} {value : Value} (json : value.IsJson)
    (spelled : (plain source).spells value) : (plain source).toOpaque = .ok value := by
  rw [spells] at spelled
  rw [toOpaque, Scalar.resolve_of_spells spelled, ok_bind, opaqueScalar_of_isJson json]
  rfl

private theorem toOpaqueItems_of_spells {items : List Node} {values : List Value}
    (each : ∀ value ∈ values, ∀ {node : Node}, node.spells value →
      node.toOpaque = .ok value)
    (spelled : List.Forall₂ (fun item value => item.spells value) items values) :
    toOpaqueItems items = .ok values := by
  induction spelled with
  | nil => rfl
  | cons own _ ih =>
    obtain ⟨first, others⟩ := List.forall_mem_cons.mp each
    rw [toOpaqueItems, first own, ok_bind, ih others]
    rfl

/-- Fields whose names are in order are put one behind the other. -/
private theorem toOpaqueEntries_of_spells {entries : List (Node × Node)}
    {before fields : List (String × Value)}
    (sorted : (before ++ fields).Pairwise fun left right => left.1 < right.1)
    (each : ∀ field ∈ fields, ∀ {node : Node}, node.spells field.2 →
      node.toOpaque = .ok field.2)
    (spelled : List.Forall₂ SpellsField entries fields) :
    toOpaqueEntries (before.map fun field => (.string field.1, field.2)) entries =
      .ok ((before ++ fields).map fun field => (.string field.1, field.2)) := by
  induction spelled generalizing before with
  | nil => simp [toOpaqueEntries]
  | @cons entry field entries fields own _ ih =>
    obtain ⟨first, others⟩ := List.forall_mem_cons.mp each
    have greatest : ∀ other ∈ before, other.1 < field.1 := fun other member =>
      (List.pairwise_append.mp sorted).2.2 other member field (List.mem_cons_self ..)
    have placed := Value.insertSorted_of_greatest greatest field.2
    have tail := @ih (before ++ [field]) (by simpa using sorted) others
    rw [List.map_append, List.map_singleton, List.append_assoc, List.singleton_append] at tail
    rw [toOpaqueEntries, asText_of_spells own.1, ok_bind, first own.2, ok_bind, placed, tail]

theorem toOpaque_of_spells {value : Value} (json : value.IsJson)
    (spelled : node.spells value) : node.toOpaque = .ok value := by
  induction json generalizing node with
  | null =>
    cases node with
    | plain => exact toOpaque_plain .null spelled
    | null => rfl
    | _ => simp [spells] at spelled
  | bool b =>
    cases node with
    | plain => exact toOpaque_plain (.bool b) spelled
    | bool =>
      obtain rfl : _ = b := by simpa [spells] using spelled
      rfl
    | _ => simp [spells] at spelled
  | string text =>
    cases node with
    | plain => exact toOpaque_plain (.string text) spelled
    | text | literal =>
      obtain rfl : _ = text := by simpa [spells] using spelled
      rfl
    | _ => simp [spells] at spelled
  | int n =>
    cases node with
    | plain => exact toOpaque_plain (.int n) spelled
    | number =>
      obtain rfl : _ = Number.int n := by simpa [spells] using spelled
      rfl
    | _ => simp [spells] at spelled
  | @float x finite =>
    cases node with
    | plain => exact toOpaque_plain (.float finite) spelled
    | number =>
      obtain rfl : _ = Number.float x := by simpa [spells] using spelled
      rw [toOpaque, opaqueScalar_of_isJson (.float finite)]
    | _ => simp [spells] at spelled
  | sequence _ ih =>
    obtain ⟨items, rfl, parts⟩ := sequence_of_spells spelled
    rw [toOpaque, toOpaqueItems_of_spells ih parts]
    rfl
  | ofFields sorted _ ih =>
    obtain ⟨entries, rfl, parts⟩ := mapping_of_spells spelled
    have placed := @toOpaqueEntries_of_spells entries [] _ sorted ih parts
    rw [List.map_nil, List.nil_append] at placed
    rw [toOpaque, placed]
    rfl

/-- JSON data is taken from any spelling of it. -/
theorem asOpaque_of_spells {value : Value} (json : value.IsJson)
    (spelled : node.spells value) : node.asOpaque = .ok value := by
  rw [asOpaque, whole, within_of_spells .whole spelled, ok_bind]
  exact toOpaque_of_spells json spelled

end Node

/-! ## Notations -/

namespace Yaml

/-- Read a text that is given by its characters. A closed text is better evaluated so, since taking
its characters from its bytes is more work than reading them. -/
def readChars (cs : List Char) : Except Fault Node := do
  if !cs.all isAllowed then throw (.other "control characters are not allowed")
  let scan ← Scan.run (cs.length + 1) { cursor := { rest := cs } }
  ofTokens scan.tokens.reverse

theorem read_eq_readChars {text : String} {cs : List Char} (chars : String.ofList cs = text) :
    read text = readChars cs := by
  rw [read, Token.ofText, ← chars, String.toList_ofList, readChars]
  cases cs.all isAllowed <;> simp

theorem ofList_eq_append {front back : String} {cs ds : List Char}
    (first : String.ofList cs = front) (second : String.ofList ds = back) :
    String.ofList (cs ++ ds) = front ++ back := by
  rw [String.ofList_append, first, second]

end Yaml

namespace Format

/-- A notation gives a value back: what it prints of the value is read as a spelling of it. -/
def GivesBack (format : Format) (value : Value) : Prop :=
  ∃ node, format.read (format.print value) = .ok node ∧ node.spells value

theorem givesBack_iff {format : Format} {value : Value} :
    format.GivesBack value ↔
      (format.read (format.print value)).toOption.any (·.spells value) := by
  rw [GivesBack]
  cases format.read (format.print value) <;> simp [Except.toOption]

instance (format : Format) (value : Value) : Decidable (format.GivesBack value) :=
  decidable_of_iff _ givesBack_iff.symm

/-- The YAML text of a value is read by its characters. -/
theorem yaml_givesBack {value : Value} {text : String} {cs : List Char}
    (chars : String.ofList cs = text) (printed : Yaml.print value = text)
    (spelled : (Yaml.readChars cs).toOption.any (·.spells value)) : yaml.GivesBack value := by
  rw [givesBack_iff, Format.print, printed, Format.read, Yaml.read_eq_readChars chars]
  exact spelled

end Format

end NfvCatalog
