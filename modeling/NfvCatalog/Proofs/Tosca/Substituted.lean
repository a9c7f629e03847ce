import NfvCatalog.Proofs.Lists.Basic
import NfvCatalog.Tosca.Inputs

/-! # What is left of references

Which references to inputs are left in a template when its inputs have been substituted.
Substitution goes through the property bags once. A reference is replaced as a whole, but what has
replaced it is not searched again, nor are the keys of mappings and collections with a tag, and the
interfaces of nodes are not searched at all.
-/

namespace NfvCatalog

/-! ## Induction over values -/

/-- What holds of scalars, and of collections whose parts it holds of, holds of all values. -/
@[elab_as_elim]
theorem Value.inductParts {motive : Value → Prop} (null : motive .null)
    (bool : ∀ b, motive (.bool b)) (number : ∀ n, motive (.number n))
    (string : ∀ text, motive (.string text))
    (sequence : ∀ items, (∀ item ∈ items, motive item) → motive (.sequence items))
    (mapping : ∀ entries : Value.Entries, (∀ entry ∈ entries, motive entry.1 ∧ motive entry.2) →
      motive (.mapping entries))
    (tagged : ∀ tag value, motive value → motive (.tagged tag value)) (value : Value) :
    motive value := by
  have part (part : Value) (smaller : sizeOf part < sizeOf value) : motive part :=
    inductParts null bool number string sequence mapping tagged part
  match value with
  | .null => exact null
  | .bool b => exact bool b
  | .number n => exact number n
  | .string text => exact string text
  | .sequence items =>
    refine sequence items fun item member => part item ?_
    have := List.sizeOf_lt_of_mem member
    simp only [Value.sequence.sizeOf_spec]
    omega
  | .mapping entries =>
    refine mapping entries fun entry member => ?_
    have inside := List.sizeOf_lt_of_mem member
    obtain ⟨key, value⟩ := entry
    simp only [Prod.mk.sizeOf_spec] at inside
    constructor
    · exact part key (by simp only [Value.mapping.sizeOf_spec]; omega)
    · exact part value (by simp only [Value.mapping.sizeOf_spec]; omega)
  | .tagged tag inner =>
    exact tagged tag inner (part inner (by simp only [Value.tagged.sizeOf_spec]; omega))
termination_by sizeOf value

end NfvCatalog

namespace NfvCatalog.Tosca

/-! ## References in values -/

/-- A value is a reference to an input, or holds one anywhere: in an item, in a key, in the value of
an entry, or below a tag. -/
inductive HoldsReference : Value → Prop
  | reference {value : Value} {name : String} (refers : inputReference? value = some name) :
      HoldsReference value
  | item {items : List Value} {item : Value} (member : item ∈ items) (holds : HoldsReference item) :
      HoldsReference (.sequence items)
  | key {entries : Value.Entries} {key value : Value} (member : (key, value) ∈ entries)
      (holds : HoldsReference key) : HoldsReference (.mapping entries)
  | value {entries : Value.Entries} {key value : Value} (member : (key, value) ∈ entries)
      (holds : HoldsReference value) : HoldsReference (.mapping entries)
  | tagged {tag : String} {value : Value} (holds : HoldsReference value) :
      HoldsReference (.tagged tag value)

/-- Substitution in a value leaves a reference: in what replaces one, in the name of an input that
was itself a reference, in a key, below the tag of a collection, or in a part that is searched. -/
inductive LeavesReference (values : InputValues) : Value → Prop
  | replacement {value replacement : Value} {name : String}
      (refers : inputReference? value = some name) (found : values.value name = .ok replacement)
      (holds : HoldsReference replacement) : LeavesReference values value
  | name {target replacement : Value} {name text : String}
      (refers : inputReference? target = some name) (found : values.value name = .ok replacement)
      (isText : replacement.string? = some text) :
      LeavesReference values (.mapping [(.string "get_input", target)])
  | key {entries : Value.Entries} {key value : Value} (member : (key, value) ∈ entries)
      (holds : HoldsReference key) : LeavesReference values (.mapping entries)
  | tagged {tag : String} {value : Value} (other : inputReference? value = none)
      (holds : HoldsReference value) : LeavesReference values (.tagged tag value)
  | item {items : List Value} {item : Value} (member : item ∈ items)
      (leaves : LeavesReference values item) : LeavesReference values (.sequence items)
  | value {entries : Value.Entries} {key value : Value} (member : (key, value) ∈ entries)
      (leaves : LeavesReference values value) : LeavesReference values (.mapping entries)

variable {values : InputValues}

/-- A reference is a mapping of one entry, with the name of an input. -/
theorem inputReference?_mapping {entries : Value.Entries} {name : String} :
    inputReference? (.mapping entries) = some name ↔
      ∃ target, entries = [(.string "get_input", target)] ∧ target.string? = some name := by
  have bare : (Value.mapping entries).mapping? = some entries := rfl
  rw [inputReference?, bare]
  constructor
  · intro refers
    split at refers
    · next target same => exact ⟨target, Option.some.inj same, refers⟩
    · cases refers
  · rintro ⟨target, rfl, text⟩
    exact text

theorem inputReference?_tagged (tag : String) (value : Value) :
    inputReference? (.tagged tag value) = inputReference? value := by
  have below : (Value.tagged tag value).mapping? = value.mapping? := by
    rw [Value.mapping?, Value.untagged, Value.mapping?]
  rw [inputReference?, inputReference?, below]

/-- A reference is no text. -/
theorem string?_eq_none_of_reference {value : Value} {name : String}
    (refers : inputReference? value = some name) : value.string? = none := by
  rw [Value.string?]
  rw [inputReference?, Value.mapping?] at refers
  split at refers
  · next same =>
    split at same
    · next isMapping => rw [isMapping]
    · cases same
  · cases refers

theorem HoldsReference.string?_eq_none {value : Value} (holds : HoldsReference value) :
    value.string? = none := by
  induction holds with
  | reference refers => exact string?_eq_none_of_reference refers
  | item | key | value => rfl
  | tagged _ ih => rwa [Value.string?, Value.untagged]

theorem LeavesReference.string?_eq_none {value : Value} (leaves : LeavesReference values value) :
    value.string? = none := by
  cases leaves with
  | replacement refers => exact string?_eq_none_of_reference refers
  | name | key | item | value => rfl
  | tagged _ holds => exact holds.tagged.string?_eq_none

/-- Of a reference is left what its replacement holds. -/
theorem leavesReference_iff_of_reference {value replacement : Value} {name : String}
    (refers : inputReference? value = some name) (found : values.value name = .ok replacement) :
    LeavesReference values value ↔ HoldsReference replacement := by
  refine ⟨fun leaves => ?_, .replacement refers found⟩
  cases leaves with
  | replacement itsName itsValue holds =>
    obtain rfl := Option.some.inj (refers.symm.trans itsName)
    obtain rfl := Except.ok.inj (found.symm.trans itsValue)
    exact holds
  | name isReference =>
    obtain ⟨target, same, text⟩ := inputReference?_mapping.mp refers
    obtain rfl : _ = target := by simpa using same
    simp [string?_eq_none_of_reference isReference] at text
  | key member holds =>
    obtain ⟨target, rfl, -⟩ := inputReference?_mapping.mp refers
    obtain ⟨rfl, -⟩ : _ = Value.string "get_input" ∧ _ := by simpa using member
    cases holds.string?_eq_none
  | tagged other =>
    rw [inputReference?_tagged, other] at refers
    cases refers
  | item => cases refers
  | value member leaves =>
    obtain ⟨target, rfl, text⟩ := inputReference?_mapping.mp refers
    obtain ⟨-, rfl⟩ : _ ∧ _ = target := by simpa using member
    cases leaves.string?_eq_none.symm.trans text

/-! ## Substitution step by step -/

/-- A substitution that was not stopped was not stopped in a part. -/
private theorem part_of_done {α β : Type} {outcome : Substituted α} {after : α} (part : α → β)
    (done : outcome = (after, none)) : (part outcome.1, outcome.2) = (part after, none) := by
  rw [done]

/-- A substitution that was not stopped has done every step. -/
theorem substituteEach_eq_done {α : Type} {step : α → Substituted α} {items others : List α} :
    substituteEach step items = (others, none) ↔
      List.Forall₂ (fun item other => step item = (other, none)) items others := by
  induction items generalizing others with
  | nil => simp [substituteEach, eq_comm]
  | cons item rest ih =>
    rw [List.forall₂_cons_left_iff, substituteEach]
    cases done : step item with
    | mk other error =>
      cases error with
      | some error => simp
      | none =>
        simp only [Prod.mk.injEq, and_true, ← ih]
        constructor
        · rintro ⟨rfl, stopped⟩
          exact ⟨other, _, rfl, Prod.ext rfl stopped, rfl⟩
        · rintro ⟨_, later, rfl, doneLater, rfl⟩
          rw [doneLater]
          exact ⟨rfl, rfl⟩

/-- An entry whose value a substitution has changed: its key is the same. -/
def EntrySubstituted {κ α : Type} (step : α → Substituted α) (entry other : κ × α) : Prop :=
  other.1 = entry.1 ∧ step entry.2 = (other.2, none)

theorem substituteItems_eq (items : List Value) :
    substituteItems values items = substituteEach (substitute values) items := by
  induction items with
  | nil => rw [substituteItems, substituteEach]
  | cons item rest ih =>
    rw [substituteItems, substituteEach, ih]
    cases substitute values item with
    | mk other error => cases error <;> rfl

theorem substituteItems_eq_done {items others : List Value} :
    substituteItems values items = (others, none) ↔
      List.Forall₂ (fun item other => substitute values item = (other, none)) items others := by
  rw [substituteItems_eq, substituteEach_eq_done]

private theorem entryStep_eq_done {κ α : Type} {step : α → Substituted α} {entry other : κ × α} :
    ((entry.1, (step entry.2).1), (step entry.2).2) = (other, none) ↔
      EntrySubstituted step entry other := by
  rw [EntrySubstituted, Prod.ext_iff, Prod.ext_iff, Prod.ext_iff]
  constructor
  · rintro ⟨⟨key, value⟩, settled⟩
    exact ⟨key.symm, value, settled⟩
  · rintro ⟨key, value, settled⟩
    exact ⟨⟨key.symm, value⟩, settled⟩

theorem substituteEntries_eq (entries : Value.Entries) :
    substituteEntries values entries = substituteEach (fun entry =>
      ((entry.1, (substitute values entry.2).1), (substitute values entry.2).2)) entries := by
  induction entries with
  | nil => rw [substituteEntries, substituteEach]
  | cons entry rest ih =>
    rw [substituteEntries, substituteEach, ih]
    cases substitute values entry.2 with
    | mk value error => cases error <;> rfl

theorem substituteEntries_eq_done {entries others : Value.Entries} :
    substituteEntries values entries = (others, none) ↔
      List.Forall₂ (EntrySubstituted (substitute values)) entries others := by
  rw [substituteEntries_eq, substituteEach_eq_done]
  simp only [entryStep_eq_done]

theorem entries_of_substituteMap {α : Type} {step : α → Substituted α} {map other : OrderedMap α}
    (done : substituteMap step map = (other, none)) :
    List.Forall₂ (EntrySubstituted step) map.entries other.entries := by
  have each : substituteEach (fun entry : String × α =>
      ((entry.1, (step entry.2).1), (step entry.2).2)) map.entries = (other.entries, none) :=
    part_of_done OrderedMap.entries done
  rw [substituteEach_eq_done] at each
  simpa only [entryStep_eq_done] using each

theorem substitute_of_reference {value replacement : Value} {name : String}
    (refers : inputReference? value = some name) :
    substitute values value = (replacement, none) ↔ values.value name = .ok replacement := by
  rw [substitute.eq_def, refers]
  cases found : values.value name <;> simp [found]

theorem substitute_mapping {entries : Value.Entries}
    (other : inputReference? (.mapping entries) = none) :
    substitute values (.mapping entries) =
      (.mapping (substituteEntries values entries).1, (substituteEntries values entries).2) := by
  rw [substitute, other]

theorem substitute_sequence (items : List Value) :
    substitute values (.sequence items) =
      (.sequence (substituteItems values items).1, (substituteItems values items).2) := by
  rw [substitute, inputReference?]
  rfl

theorem substitute_tagged {tag : String} {value : Value} (other : inputReference? value = none) :
    substitute values (.tagged tag value) = (.tagged tag value, none) := by
  rw [substitute, inputReference?_tagged, other]
  all_goals simp

/-- Only what replaces a reference turns into a text. -/
theorem string?_substitute {value after : Value} (other : inputReference? value = none)
    (done : substitute values value = (after, none)) : after.string? = value.string? := by
  cases value with
  | mapping entries =>
    rw [substitute_mapping other] at done
    obtain rfl := congrArg Prod.fst done
    rfl
  | sequence items =>
    rw [substitute_sequence] at done
    obtain rfl := congrArg Prod.fst done
    rfl
  | tagged tag value =>
    rw [inputReference?_tagged] at other
    rw [substitute_tagged other] at done
    obtain rfl := congrArg Prod.fst done
    rfl
  | null | bool | number | string =>
    simp only [substitute, other] at done
    obtain rfl := congrArg Prod.fst done
    rfl

/-! ## What is left in a value -/

/-- What is left in a mapping that is no reference, if it is known what is left in its values. -/
private theorem holdsReference_mapping_iff {entries others : Value.Entries}
    (other : inputReference? (.mapping entries) = none)
    (steps : List.Forall₂ (EntrySubstituted (substitute values)) entries others)
    (parts : ∀ entry ∈ entries, ∀ after, substitute values entry.2 = (after, none) →
      (HoldsReference after ↔ LeavesReference values entry.2)) :
    HoldsReference (.mapping others) ↔ LeavesReference values (.mapping entries) := by
  constructor
  · intro holds
    cases holds with
    | reference refers =>
      -- The mapping has become a reference: a reference in it was replaced by a name.
      obtain ⟨after, rfl, text⟩ := inputReference?_mapping.mp refers
      obtain ⟨⟨key, target⟩, rest, ⟨sameKey, done⟩, noMore, rfl⟩ :=
        List.forall₂_cons_right_iff.mp steps
      obtain rfl := List.forall₂_nil_right_iff.mp noMore
      obtain rfl : _ = key := sameKey
      cases named : inputReference? target with
      | none =>
        have same := string?_substitute named done
        rw [inputReference?_mapping.mpr ⟨target, rfl, same.symm.trans text⟩] at other
        cases other
      | some name => exact .name named ((substitute_of_reference named).mp done) text
    | key member holds =>
      obtain ⟨entry, inside, same, -⟩ := exists_of_mem_right steps member
      exact .key inside (same ▸ holds)
    | value member holds =>
      obtain ⟨entry, inside, -, done⟩ := exists_of_mem_right steps member
      exact .value inside ((parts entry inside _ done).mp holds)
  · intro leaves
    cases leaves with
    | replacement refers =>
      rw [other] at refers
      cases refers
    | name refers found isText =>
      obtain ⟨⟨key, after⟩, rest, ⟨sameKey, done⟩, noMore, rfl⟩ :=
        List.forall₂_cons_left_iff.mp steps
      obtain rfl := List.forall₂_nil_left_iff.mp noMore
      obtain rfl : key = _ := sameKey
      obtain rfl := Except.ok.inj (((substitute_of_reference refers).mp done).symm.trans found)
      exact .reference (inputReference?_mapping.mpr ⟨_, rfl, isText⟩)
    | key member holds =>
      obtain ⟨entry, inside, same, -⟩ := exists_of_mem_left steps member
      exact .key inside (same ▸ holds)
    | value member leaves =>
      obtain ⟨entry, inside, -, done⟩ := exists_of_mem_left steps member
      exact .value inside ((parts _ member _ done).mpr leaves)

/-- Substitution in a value leaves a reference exactly if it is left in one of these ways. -/
theorem holdsReference_iff_of_substitute {value after : Value}
    (done : substitute values value = (after, none)) :
    HoldsReference after ↔ LeavesReference values value := by
  induction value using Value.inductParts generalizing after with
  | null | bool | number | string =>
    obtain rfl := congrArg Prod.fst done
    constructor
    · intro holds
      cases holds with
      | reference refers => cases refers
    · intro leaves
      cases leaves with
      | replacement refers => cases refers
  | sequence items ih =>
    rw [substitute_sequence] at done
    have settled : (substituteItems values items).2 = none := congrArg Prod.snd done
    obtain rfl : _ = after := congrArg Prod.fst done
    have steps := substituteItems_eq_done.mp (Prod.ext rfl settled)
    constructor
    · intro holds
      cases holds with
      | reference refers => cases refers
      | item member holds =>
        obtain ⟨item, inside, done⟩ := exists_of_mem_right steps member
        exact .item inside ((ih item inside done).mp holds)
    · intro leaves
      cases leaves with
      | replacement refers => cases refers
      | item member leaves =>
        obtain ⟨other, inside, done⟩ := exists_of_mem_left steps member
        exact .item inside ((ih _ member done).mpr leaves)
  | mapping entries ih =>
    cases named : inputReference? (.mapping entries) with
    | some name =>
      have found := (substitute_of_reference named).mp done
      exact (leavesReference_iff_of_reference named found).symm
    | none =>
      rw [substitute_mapping named] at done
      have settled : (substituteEntries values entries).2 = none := congrArg Prod.snd done
      obtain rfl : _ = after := congrArg Prod.fst done
      have steps := substituteEntries_eq_done.mp (Prod.ext rfl settled)
      exact holdsReference_mapping_iff named steps fun entry member _ => (ih entry member).2
  | tagged tag value =>
    cases named : inputReference? value with
    | some name =>
      have named : inputReference? (.tagged tag value) = some name :=
        (inputReference?_tagged tag value).trans named
      have found := (substitute_of_reference named).mp done
      exact (leavesReference_iff_of_reference named found).symm
    | none =>
      rw [substitute_tagged named] at done
      obtain rfl := congrArg Prod.fst done
      constructor
      · intro holds
        cases holds with
        | reference refers =>
          rw [inputReference?_tagged, named] at refers
          cases refers
        | tagged holds => exact .tagged named holds
      · intro leaves
        cases leaves with
        | replacement refers =>
          rw [inputReference?_tagged, named] at refers
          cases refers
        | tagged _ holds => exact .tagged holds

/-! ## What is left in a template -/

/-- Substitution in a property bag leaves a reference: the bag is one itself, which is not replaced,
or it is left in an entry. -/
def BagLeavesReference (values : InputValues) (bag : Value.Entries) : Prop :=
  (inputReference? (.mapping bag)).isSome ∨ LeavesReference values (.mapping bag)

theorem holdsReference_iff_of_substituteEntries {bag after : Value.Entries}
    (done : substituteEntries values bag = (after, none)) :
    HoldsReference (.mapping after) ↔ BagLeavesReference values bag := by
  have steps := substituteEntries_eq_done.mp done
  cases named : inputReference? (.mapping bag) with
  | some name =>
    obtain ⟨target, rfl, text⟩ := inputReference?_mapping.mp named
    obtain ⟨⟨key, other⟩, rest, ⟨sameKey, step⟩, noMore, rfl⟩ := List.forall₂_cons_left_iff.mp steps
    obtain rfl := List.forall₂_nil_left_iff.mp noMore
    obtain rfl : key = _ := sameKey
    have plain : inputReference? target = none := by
      cases inner : inputReference? target with
      | none => rfl
      | some _ => cases (string?_eq_none_of_reference inner).symm.trans text
    have stays := (string?_substitute plain step).trans text
    refine iff_of_true ?_ (.inl (by rw [named]; rfl))
    exact .reference (inputReference?_mapping.mpr ⟨other, rfl, stays⟩)
  | none =>
    rw [BagLeavesReference, named]
    simpa using holdsReference_mapping_iff named steps fun _ _ _ => holdsReference_iff_of_substitute

/-- The property bags of a node: its own and those of its capabilities. -/
def NodeTemplate.bags (node : NodeTemplate) : List Value.Entries :=
  node.properties :: node.capabilities.entries.map (·.2.properties)

namespace Topology

/-- The property bags of a topology: those of nodes and their capabilities, of groups and of
policies. -/
def bags (topology : Topology) : List Value.Entries :=
  topology.nodes.entries.flatMap (·.2.bags) ++ topology.groups.entries.map (·.2.properties) ++
    topology.policyPairs.map (·.2.properties)

/-- The interfaces of the nodes of a topology. -/
def interfaceBags (topology : Topology) : List Value.Entries :=
  topology.nodes.entries.map (·.2.interfaces)

/-- No reference to an input is left in the property bags and the interfaces of a topology. -/
def Settled (topology : Topology) : Prop :=
  ∀ bag ∈ topology.bags ++ topology.interfaceBags, ¬ HoldsReference (.mapping bag)

end Topology

/-- A property bag in which everything was substituted. -/
def BagSubstituted (values : InputValues) (bag after : Value.Entries) : Prop :=
  substituteEntries values bag = (after, none)

theorem bags_of_substituteNode {node other : NodeTemplate}
    (done : substituteNode values node = (other, none)) :
    List.Forall₂ (BagSubstituted values) node.bags other.bags ∧
      other.interfaces = node.interfaces := by
  rw [substituteNode] at done
  split at done
  · cases done
  · next properties own =>
    have capabilities : substituteMap (fun capability : Capability =>
        ((⟨(substituteEntries values capability.properties).1⟩ : Capability),
          (substituteEntries values capability.properties).2)) node.capabilities =
        (other.capabilities, none) := part_of_done NodeTemplate.capabilities done
    obtain rfl : _ = other := congrArg Prod.fst done
    refine ⟨.cons own ?_, rfl⟩
    refine List.rel_map (fun _ _ step => ?_) (entries_of_substituteMap capabilities)
    exact part_of_done Capability.properties step.2

theorem bag_of_substituteGroup {group other : Group}
    (done : substituteGroup values group = (other, none)) :
    BagSubstituted values group.properties other.properties :=
  part_of_done Group.properties done

theorem bag_of_substitutePolicy {policy other : Policy}
    (done : substitutePolicy values policy = (other, none)) :
    BagSubstituted values policy.properties other.properties :=
  part_of_done Policy.properties done

/-- Substitution goes through every property bag of a topology, and leaves interfaces alone. -/
theorem bags_of_substituteTopology {topology other : Topology}
    (done : substituteTopology values topology = (other, none)) :
    List.Forall₂ (BagSubstituted values) topology.bags other.bags ∧
      other.interfaceBags = topology.interfaceBags := by
  rw [substituteTopology] at done
  split at done
  · cases done
  · next nodes nodesDone =>
    split at done
    · cases done
    · next groups groupsDone =>
      have nodes := entries_of_substituteMap nodesDone
      have groups := entries_of_substituteMap groupsDone
      have policies : List.Forall₂ (EntrySubstituted (substitutePolicy values))
          topology.policyPairs other.policyPairs :=
        List.rel_flatMap (substituteEach_eq_done.mp (part_of_done Topology.policies done))
          fun _ _ step => entries_of_substituteMap step
      obtain rfl : _ = other := congrArg Prod.fst done
      constructor
      · refine List.rel_append (List.rel_append ?_ ?_) ?_
        · exact List.rel_flatMap nodes fun _ _ step => (bags_of_substituteNode step.2).1
        · exact List.rel_map (fun _ _ step => bag_of_substituteGroup step.2) groups
        · exact List.rel_map (fun _ _ step => bag_of_substitutePolicy step.2) policies
      · refine (map_eq_map_of_forall₂ nodes fun _ _ step => ?_).symm
        exact (bags_of_substituteNode step.2).2.symm

namespace Template

theorem substituteTopology_of_resolveInputs {template resolved : Template} {overrides : Overrides}
    (done : template.resolveInputs overrides = .ok resolved) :
    substituteTopology (inputValues template.topology.inputs overrides) template.topology =
      (resolved.topology, none) := by
  rw [resolveInputs, substituteInputs] at done
  split at done
  · next same =>
    split at same
    · cases same
    · obtain rfl := Except.ok.inj done
      exact part_of_done Template.topology same
  · cases done

/-- Once its inputs are resolved, a property bag of a template holds a reference exactly if
substitution leaves one in it. Interfaces are as they were. So no reference is left exactly if no
interface holds one and none is left in a property bag. -/
theorem resolveInputs_settled_iff {template resolved : Template} {overrides : Overrides}
    (done : template.resolveInputs overrides = .ok resolved) :
    List.Forall₂ (fun bag after => HoldsReference (.mapping after) ↔
        BagLeavesReference (inputValues template.topology.inputs overrides) bag)
      template.topology.bags resolved.topology.bags ∧
      resolved.topology.interfaceBags = template.topology.interfaceBags ∧
      (resolved.topology.Settled ↔
        (∀ bag ∈ template.topology.bags,
          ¬ BagLeavesReference (inputValues template.topology.inputs overrides) bag) ∧
        ∀ bag ∈ template.topology.interfaceBags, ¬ HoldsReference (.mapping bag)) := by
  obtain ⟨steps, interfaces⟩ :=
    bags_of_substituteTopology (substituteTopology_of_resolveInputs done)
  have each := steps.imp fun _ _ => holdsReference_iff_of_substituteEntries
  refine ⟨each, interfaces, ?_⟩
  rw [Topology.Settled, List.forall_mem_append, interfaces]
  refine and_congr_left fun _ => ⟨fun settled bag member => ?_, fun free after member => ?_⟩
  · obtain ⟨after, inside, same⟩ := exists_of_mem_left each member
    exact fun leaves => settled after inside (same.mpr leaves)
  · obtain ⟨bag, inside, same⟩ := exists_of_mem_right each member
    exact fun holds => free bag inside (same.mp holds)

/-- A template whose input has a reference to another input as its default. -/
def chainedTemplate : Template where
  topology :=
    { inputs := .ofList
        [("vcpus", { default := some (.mapping [(.string "get_input", .string "cores")]) }),
          ("cores", { default := some (.ofNat 2) })]
      nodes := .single "vdu"
        { nodeType := "tosca.nodes.nfv.VDU"
          properties := [(.string "cpus", .mapping [(.string "get_input", .string "vcpus")])] } }

theorem chainedTemplate_unsettled :
    ∃ resolved, chainedTemplate.resolveInputs [] = .ok resolved ∧ ¬ resolved.topology.Settled := by
  obtain ⟨resolved, done⟩ : ∃ resolved, chainedTemplate.resolveInputs [] = .ok resolved := by
    simp only [resolveInputs, substituteInputs, Overrides.sortedNames, List.map_nil,
      List.mergeSort_nil, List.find?_nil]
    exact ⟨_, rfl⟩
  have chained : HoldsReference (.mapping [(.string "get_input", .string "cores")]) :=
    .reference (inputReference?_mapping.mpr ⟨.string "cores", rfl, rfl⟩)
  refine ⟨resolved, done, fun settled => ?_⟩
  refine ((resolveInputs_settled_iff done).2.2.mp settled).1
    [(.string "cpus", .mapping [(.string "get_input", .string "vcpus")])]
    (List.mem_singleton_self _) (.inr ?_)
  exact .value (List.mem_singleton_self _) (.replacement rfl rfl chained)

end Template

end NfvCatalog.Tosca
