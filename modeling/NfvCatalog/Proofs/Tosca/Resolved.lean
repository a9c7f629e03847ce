import NfvCatalog.Proofs.Tosca.OrderedMap
import NfvCatalog.Proofs.Tosca.Substituted

/-! # What inputs are resolved to

Resolving the inputs of a template succeeds exactly if every override names a declared input and
every reference that is found stands for a value. Then all references that are found are replaced at
once, and nothing else is changed. References are searched in the values of mappings and in the
items of sequences, but not below the tag of such a collection.
-/

namespace NfvCatalog.Tosca

/-! ## What is asked for, and what it becomes -/

/-- A value is a reference to an input, tags aside: a mapping of one entry, which gives the input's
name to `get_input`. -/
def RefersTo (name : String) (value : Value) : Prop :=
  ∃ target, value.untagged = .mapping [(.string "get_input", target)] ∧
    target.untagged = .string name

/-- A value asks for an input: it is a reference to it, or an item or the value of an entry asks for
it. What stands below a tag asks only if one looks through tags. -/
inductive AsksFor (through : Bool) (name : String) : Value → Prop
  | reference {value : Value} (refers : RefersTo name value) :
      AsksFor through name value
  | item {items : List Value} {item : Value} (member : item ∈ items)
      (asks : AsksFor through name item) : AsksFor through name (.sequence items)
  | value {entries : Value.Entries} {key value : Value} (member : (key, value) ∈ entries)
      (asks : AsksFor through name value) : AsksFor through name (.mapping entries)
  | tagged {tag : String} {value : Value} (looks : through = true)
      (asks : AsksFor through name value) : AsksFor through name (.tagged tag value)

mutual

/-- A value in which each reference is replaced by what its input stands for; below a tag only if
one looks through tags. Keys, order and all other values are as they were. -/
def filled (through : Bool) (given : String → Option Value) (value : Value) : Value :=
  match inputReference? value with
  | some name => (given name).getD value
  | none =>
    match value with
    | .mapping entries => .mapping (filledEntries through given entries)
    | .sequence items => .sequence (filledItems through given items)
    | .tagged tag value =>
      if through then .tagged tag (filled through given value) else .tagged tag value
    | other => other

/-- Entries in whose values references are replaced. -/
def filledEntries (through : Bool) (given : String → Option Value) :
    List (Value × Value) → List (Value × Value)
  | [] => []
  | (key, value) :: rest => (key, filled through given value) :: filledEntries through given rest

/-- Items in which references are replaced. -/
def filledItems (through : Bool) (given : String → Option Value) : List Value → List Value
  | [] => []
  | item :: rest => filled through given item :: filledItems through given rest

end

/-- A reference stands below a tag that is not its own. -/
inductive HidesReference : Value → Prop
  | tagged {tag name : String} {value : Value} (other : ∀ name, ¬ RefersTo name value)
      (asks : AsksFor true name value) : HidesReference (.tagged tag value)
  | item {items : List Value} {item : Value} (member : item ∈ items)
      (hides : HidesReference item) : HidesReference (.sequence items)
  | value {entries : Value.Entries} {key value : Value} (member : (key, value) ∈ entries)
      (hides : HidesReference value) : HidesReference (.mapping entries)

variable {values : InputValues} {through : Bool} {given : String → Option Value}

theorem inputReference?_eq_some_iff {name : String} {value : Value} :
    inputReference? value = some name ↔ RefersTo name value := by
  have named {target : Value} : target.string? = some name ↔ target.untagged = .string name := by
    rw [Value.string?]
    cases target.untagged <;> simp
  rw [inputReference?, Value.mapping?, RefersTo]
  constructor
  · intro refers
    split at refers
    · next target isMapping =>
      split at isMapping
      · next same =>
        obtain rfl := Option.some.inj isMapping
        exact ⟨target, same, named.mp refers⟩
      · cases isMapping
    · cases refers
  · rintro ⟨target, same, text⟩
    rw [same]
    exact named.mpr text

/-- A value that is no reference refers to nothing. -/
theorem inputReference?_eq_none_iff {value : Value} :
    inputReference? value = none ↔ ∀ name, ¬ RefersTo name value := by
  simp only [Option.eq_none_iff_forall_ne_some, ne_eq, inputReference?_eq_some_iff]

theorem filledEntries_eq_map (entries : Value.Entries) :
    filledEntries through given entries =
      entries.map fun entry => (entry.1, filled through given entry.2) := by
  induction entries with
  | nil => rw [filledEntries, List.map_nil]
  | cons entry rest ih => rw [filledEntries, ih, List.map_cons]

theorem filledItems_eq_map (items : List Value) :
    filledItems through given items = items.map (filled through given) := by
  induction items with
  | nil => rw [filledItems, List.map_nil]
  | cons item rest ih => rw [filledItems, ih, List.map_cons]

theorem filled_of_reference {value : Value} {name : String}
    (refers : inputReference? value = some name) :
    filled through given value = (given name).getD value := by
  rw [filled.eq_def, refers]

theorem filled_mapping {entries : Value.Entries}
    (other : inputReference? (.mapping entries) = none) :
    filled through given (.mapping entries) =
      .mapping (entries.map fun entry => (entry.1, filled through given entry.2)) := by
  rw [filled, other, ← filledEntries_eq_map]

theorem filled_sequence (items : List Value) :
    filled through given (.sequence items) = .sequence (items.map (filled through given)) := by
  rw [filled, inputReference?, ← filledItems_eq_map]
  rfl

theorem filled_tagged {tag : String} {value : Value} (other : inputReference? value = none) :
    filled through given (.tagged tag value) =
      if through then .tagged tag (filled through given value) else .tagged tag value := by
  rw [filled, inputReference?_tagged, other]

theorem AsksFor.string?_eq_none {name : String} {value : Value}
    (asks : AsksFor through name value) : value.string? = none := by
  induction asks with
  | reference refers =>
    exact string?_eq_none_of_reference (inputReference?_eq_some_iff.mpr refers)
  | item | value => rfl
  | tagged _ _ ih => rwa [Value.string?, Value.untagged]

/-- A reference asks for the one input that it names. -/
theorem AsksFor.eq_of_reference {name other : String} {value : Value}
    (asks : AsksFor through other value) (refers : inputReference? value = some name) :
    other = name := by
  induction asks with
  | reference itsName =>
    exact Option.some.inj ((inputReference?_eq_some_iff.mpr itsName).symm.trans refers)
  | item => cases refers
  | value member asks =>
    obtain ⟨target, rfl, text⟩ := inputReference?_mapping.mp refers
    obtain ⟨-, rfl⟩ : _ ∧ _ = target := by simpa using member
    cases asks.string?_eq_none.symm.trans text
  | tagged _ _ ih =>
    rw [inputReference?_tagged] at refers
    exact ih refers

/-! ## Values in which everything is answered -/

/-- Every input that a value asks for stands for something. -/
def Answered (through : Bool) (given : String → Option Value) (value : Value) : Prop :=
  ∀ name, AsksFor through name value → (given name).isSome = true

theorem answered_of_reference {value : Value} {name : String}
    (refers : inputReference? value = some name) :
    Answered through given value ↔ (given name).isSome = true := by
  constructor
  · intro answered
    exact answered name (.reference (inputReference?_eq_some_iff.mp refers))
  · intro present other asks
    rwa [asks.eq_of_reference refers]

theorem answered_mapping {entries : Value.Entries}
    (other : inputReference? (.mapping entries) = none) :
    Answered through given (.mapping entries) ↔
      ∀ entry ∈ entries, Answered through given entry.2 := by
  constructor
  · intro answered entry member name asks
    exact answered name (.value member asks)
  · intro each name asks
    cases asks with
    | reference refers => exact absurd refers (inputReference?_eq_none_iff.mp other name)
    | value member asks => exact each _ member name asks

theorem answered_sequence {items : List Value} :
    Answered through given (.sequence items) ↔ ∀ item ∈ items, Answered through given item := by
  constructor
  · intro answered item member name asks
    exact answered name (.item member asks)
  · intro each name asks
    cases asks with
    | reference refers => cases inputReference?_eq_some_iff.mpr refers
    | item member asks => exact each _ member name asks

theorem answered_tagged {tag : String} {value : Value} (other : inputReference? value = none) :
    Answered through given (.tagged tag value) ↔
      (through = true → Answered through given value) := by
  constructor
  · intro answered looks name asks
    exact answered name (.tagged looks asks)
  · intro below name asks
    cases asks with
    | reference refers =>
      rw [← inputReference?_eq_some_iff, inputReference?_tagged, other] at refers
      cases refers
    | tagged looks asks => exact below looks name asks

/-- A value that asks for nothing is filled as it is. -/
theorem filled_eq_self {value : Value} (silent : ∀ name, ¬ AsksFor through name value) :
    filled through given value = value := by
  induction value using Value.inductParts with
  | null | bool | number | string => rfl
  | sequence items ih =>
    rw [filled_sequence, listMap_eq_self.mpr]
    intro item member
    exact ih item member fun name asks => silent name (.item member asks)
  | mapping entries ih =>
    cases named : inputReference? (.mapping entries) with
    | some name =>
      exact absurd (.reference (inputReference?_eq_some_iff.mp named)) (silent name)
    | none =>
      rw [filled_mapping named, listMap_eq_self.mpr]
      intro entry member
      have same := (ih entry member).2 fun name asks => silent name (.value member asks)
      rw [same]
  | tagged tag value ih =>
    cases named : inputReference? value with
    | some name =>
      rw [← inputReference?_tagged tag] at named
      exact absurd (.reference (inputReference?_eq_some_iff.mp named)) (silent name)
    | none =>
      rw [filled_tagged named]
      split
      · next looks => rw [ih fun name asks => silent name (.tagged looks asks)]
      · rfl

/-! ## Below tags -/

theorem AsksFor.through_tags {name : String} {value : Value} (asks : AsksFor false name value) :
    AsksFor true name value := by
  induction asks with
  | reference refers => exact .reference refers
  | item member _ ih => exact .item member ih
  | value member _ ih => exact .value member ih
  | tagged looks => cases looks

/-- Where no reference stands below a tag, looking through tags finds no more. -/
theorem asksFor_through_iff {name : String} {value : Value} (visible : ¬ HidesReference value) :
    AsksFor true name value ↔ AsksFor false name value := by
  refine ⟨fun asks => ?_, AsksFor.through_tags⟩
  induction asks with
  | reference refers => exact .reference refers
  | item member _ ih => exact .item member (ih fun hides => visible (.item member hides))
  | value member _ ih => exact .value member (ih fun hides => visible (.value member hides))
  | @tagged tag value _ asks _ =>
    cases named : inputReference? value with
    | some itsName =>
      obtain rfl := asks.eq_of_reference named
      rw [← inputReference?_tagged tag] at named
      exact .reference (inputReference?_eq_some_iff.mp named)
    | none => exact absurd (.tagged (inputReference?_eq_none_iff.mp named) asks) visible

theorem answered_through_iff {value : Value} (visible : ¬ HidesReference value) :
    Answered true given value ↔ Answered false given value := by
  simp only [Answered, asksFor_through_iff visible]

/-- Where no reference stands below a tag, looking through tags replaces no more. -/
theorem filled_through {value : Value} (visible : ¬ HidesReference value) :
    filled true given value = filled false given value := by
  induction value using Value.inductParts with
  | null | bool | number | string => rfl
  | sequence items ih =>
    rw [filled_sequence, filled_sequence]
    refine congrArg Value.sequence (List.map_congr_left fun item member => ?_)
    exact ih item member fun hides => visible (.item member hides)
  | mapping entries ih =>
    cases named : inputReference? (.mapping entries) with
    | some name => rw [filled_of_reference named, filled_of_reference named]
    | none =>
      rw [filled_mapping named, filled_mapping named]
      refine congrArg Value.mapping (List.map_congr_left fun entry member => ?_)
      rw [(ih entry member).2 fun hides => visible (.value member hides)]
  | tagged tag value _ =>
    cases named : inputReference? value with
    | some name =>
      have named : inputReference? (.tagged tag value) = some name :=
        (inputReference?_tagged tag value).trans named
      rw [filled_of_reference named, filled_of_reference named]
    | none =>
      have silent : ∀ name, ¬ AsksFor true name value := fun name asks =>
        visible (.tagged (inputReference?_eq_none_iff.mp named) asks)
      rw [filled_tagged named, filled_tagged named, filled_eq_self silent]
      rfl

/-! ## Substitution that goes through -/

section Settles

variable {α β : Type} {step : α → Substituted α} {fits : α → Prop} {become : α → α} {item : α}

/-- Substitution in an item goes through exactly if the item fits, and makes one thing of it. -/
def Settles (step : α → Substituted α) (fits : α → Prop) (become : α → α) (item : α) : Prop :=
  ∀ after, step item = (after, none) ↔ fits item ∧ after = become item

theorem Settles.done (settles : Settles step fits become item) (fit : fits item) :
    step item = (become item, none) :=
  (settles _).mpr ⟨fit, rfl⟩

theorem Settles.stopped (settles : Settles step fits become item) (unfit : ¬ fits item) :
    ∃ after error, step item = (after, some error) := by
  cases done : step item with
  | mk after error =>
    cases error with
    | none => exact absurd ((settles after).mp done).1 unfit
    | some error => exact ⟨after, error, rfl⟩

/-- An item that fits and has nothing to change. -/
theorem Settles.kept (done : step item = (item, none)) (fit : fits item)
    (same : become item = item) : Settles step fits become item := by
  intro after
  rw [done, same]
  constructor
  · intro kept
    exact ⟨fit, (congrArg Prod.fst kept).symm⟩
  · rintro ⟨-, rfl⟩
    rfl

/-- What is put together with an item goes through with it. -/
theorem Settles.put (settles : Settles step fits become item) (put : α → β) (after : β) :
    (put (step item).1, (step item).2) = (after, none) ↔ fits item ∧ after = put (become item) := by
  constructor
  · intro done
    have settled : (step item).2 = none := congrArg Prod.snd done
    obtain ⟨fit, same⟩ := (settles (step item).1).mp (Prod.ext rfl settled)
    obtain rfl : put (step item).1 = after := congrArg Prod.fst done
    exact ⟨fit, by rw [← same]⟩
  · rintro ⟨fit, rfl⟩
    rw [settles.done fit]

theorem settles_each {items : List α} (each : ∀ item ∈ items, Settles step fits become item) :
    Settles (substituteEach step) (fun items => ∀ item ∈ items, fits item) (List.map become)
      items := by
  intro others
  rw [substituteEach_eq_done]
  induction items generalizing others with
  | nil => simp
  | cons item rest ih =>
    obtain ⟨own, later⟩ := List.forall_mem_cons.mp each
    rw [List.forall₂_cons_left_iff]
    constructor
    · rintro ⟨other, more, done, doneLater, rfl⟩
      obtain ⟨fit, rfl⟩ := (own other).mp done
      obtain ⟨fitLater, rfl⟩ := (ih later more).mp doneLater
      exact ⟨List.forall_mem_cons.mpr ⟨fit, fitLater⟩, rfl⟩
    · rintro ⟨fit, rfl⟩
      obtain ⟨fit, fitLater⟩ := List.forall_mem_cons.mp fit
      exact ⟨_, _, own.done fit, (ih later _).mpr ⟨fitLater, rfl⟩, rfl⟩

/-- Entries go through with their values, and keep their keys. -/
theorem settles_entries {κ : Type} {entries : List (κ × α)}
    (each : ∀ entry ∈ entries, Settles step fits become entry.2) :
    Settles (substituteEach fun entry : κ × α => ((entry.1, (step entry.2).1), (step entry.2).2))
      (fun entries => ∀ entry ∈ entries, fits entry.2)
      (List.map fun entry => (entry.1, become entry.2)) entries :=
  settles_each fun entry member => (each entry member).put (Prod.mk entry.1)

theorem settles_map {map : OrderedMap α}
    (each : ∀ entry ∈ map.entries, Settles step fits become entry.2) :
    Settles (substituteMap step) (fun map => ∀ entry ∈ map.entries, fits entry.2)
      (OrderedMap.map become) map := by
  intro other
  have entries := settles_entries each other.entries
  rw [Prod.ext_iff] at entries
  rw [Prod.ext_iff, OrderedMap.ext_iff, OrderedMap.ext_iff]
  exact entries

end Settles

/-- Substitution in a value goes through exactly if everything that it asks for is given. -/
theorem settles_substitute
    (agree : ∀ name value, values.value name = .ok value ↔ given name = some value)
    (value : Value) :
    Settles (substitute values) (Answered false given) (filled false given) value := by
  have reference {value : Value} {name : String} (refers : inputReference? value = some name) :
      Settles (substitute values) (Answered false given) (filled false given) value := by
    intro after
    rw [substitute_of_reference refers, answered_of_reference refers, filled_of_reference refers,
      agree]
    cases given name with
    | none => simp
    | some replacement => simp [eq_comm]
  induction value using Value.inductParts with
  | null | bool | number | string =>
    refine .kept rfl (fun name asks => ?_) rfl
    cases asks with
    | reference refers => cases inputReference?_eq_some_iff.mpr refers
  | sequence items ih =>
    intro after
    rw [substitute_sequence, substituteItems_eq, answered_sequence, filled_sequence]
    exact (settles_each ih).put Value.sequence after
  | mapping entries ih =>
    cases named : inputReference? (.mapping entries) with
    | some name => exact reference named
    | none =>
      intro after
      rw [substitute_mapping named, substituteEntries_eq, answered_mapping named,
        filled_mapping named]
      exact (settles_entries fun entry member => (ih entry member).2).put Value.mapping after
  | tagged tag value _ =>
    cases named : inputReference? value with
    | some name => exact reference ((inputReference?_tagged tag value).trans named)
    | none =>
      refine .kept (substitute_tagged named) ((answered_tagged named).mpr nofun) ?_
      rw [filled_tagged named]
      rfl

/-! ## Topologies -/

/-- Change the property bags of a node, and nothing else. -/
def NodeTemplate.mapBags (become : Value.Entries → Value.Entries) (node : NodeTemplate) :
    NodeTemplate :=
  { node with
    properties := become node.properties
    capabilities := node.capabilities.map fun capability => ⟨become capability.properties⟩ }

/-- Change the properties of a group, and nothing else. -/
def Group.mapBag (become : Value.Entries → Value.Entries) (group : Group) : Group :=
  { group with properties := become group.properties }

/-- Change the properties of a policy, and nothing else. -/
def Policy.mapBag (become : Value.Entries → Value.Entries) (policy : Policy) : Policy :=
  { policy with properties := become policy.properties }

/-- Change the property bags of a topology, and nothing else. -/
def Topology.mapBags (become : Value.Entries → Value.Entries) (topology : Topology) : Topology :=
  { topology with
    nodes := topology.nodes.map (NodeTemplate.mapBags become)
    groups := topology.groups.map (Group.mapBag become)
    policies := topology.policies.map (OrderedMap.map (Policy.mapBag become)) }

theorem NodeTemplate.mapBags_congr {f g : Value.Entries → Value.Entries} {node : NodeTemplate}
    (same : ∀ bag ∈ node.bags, f bag = g bag) : node.mapBags f = node.mapBags g := by
  obtain ⟨own, inCapabilities⟩ := List.forall_mem_cons.mp same
  have capabilities :
      node.capabilities.map (fun capability => (⟨f capability.properties⟩ : Capability)) =
        node.capabilities.map fun capability => ⟨g capability.properties⟩ := by
    refine OrderedMap.map_congr_left fun entry member => ?_
    rw [inCapabilities _ (List.mem_map_of_mem member)]
  rw [mapBags, mapBags, own, capabilities]

/-- Two changes make the same of a topology if they do so of its bags. -/
theorem Topology.mapBags_congr {f g : Value.Entries → Value.Entries} {topology : Topology}
    (same : ∀ bag ∈ topology.bags, f bag = g bag) : topology.mapBags f = topology.mapBags g := by
  simp only [bags, policyPairs, List.forall_mem_append, List.forall_mem_flatMap,
    List.forall_mem_map] at same
  obtain ⟨⟨inNodes, inGroups⟩, inPolicies⟩ := same
  have nodes : topology.nodes.map (NodeTemplate.mapBags f) =
      topology.nodes.map (NodeTemplate.mapBags g) :=
    OrderedMap.map_congr_left fun entry member => NodeTemplate.mapBags_congr (inNodes entry member)
  have groups : topology.groups.map (Group.mapBag f) = topology.groups.map (Group.mapBag g) := by
    refine OrderedMap.map_congr_left fun entry member => ?_
    rw [Group.mapBag, Group.mapBag, inGroups entry member]
  have policies : topology.policies.map (OrderedMap.map (Policy.mapBag f)) =
      topology.policies.map (OrderedMap.map (Policy.mapBag g)) := by
    refine List.map_congr_left fun map inTopology => ?_
    refine OrderedMap.map_congr_left fun entry member => ?_
    rw [Policy.mapBag, Policy.mapBag, inPolicies map inTopology entry member]
  rw [mapBags, mapBags, nodes, groups, policies]

/-- A topology stays as it is if its bags do. -/
theorem Topology.mapBags_eq_self {f : Value.Entries → Value.Entries} {topology : Topology}
    (stay : ∀ bag ∈ topology.bags, f bag = bag) : topology.mapBags f = topology := by
  have node (node : NodeTemplate) : node.mapBags id = node := by
    have capabilities := OrderedMap.map_id node.capabilities
    exact congrArg (fun capabilities => { node with capabilities := capabilities }) capabilities
  have nodes : topology.nodes.map (NodeTemplate.mapBags id) = topology.nodes :=
    OrderedMap.map_eq_self_iff.mpr fun other _ => node other
  have groups : topology.groups.map (Group.mapBag id) = topology.groups :=
    OrderedMap.map_eq_self_iff.mpr fun _ _ => rfl
  have policies : topology.policies.map (OrderedMap.map (Policy.mapBag id)) = topology.policies :=
    listMap_eq_self.mpr fun map _ => OrderedMap.map_id map
  rw [mapBags_congr (g := id) stay, mapBags, nodes, groups, policies]

section Bags

variable {fits : Value.Entries → Prop} {become : Value.Entries → Value.Entries}
  (bags : ∀ bag, Settles (substituteEntries values) fits become bag)
include bags

theorem settles_capability (capability : Capability) :
    Settles (fun capability : Capability =>
        ((⟨(substituteEntries values capability.properties).1⟩ : Capability),
          (substituteEntries values capability.properties).2))
      (fun capability => fits capability.properties)
      (fun capability => ⟨become capability.properties⟩) capability :=
  fun after => (bags capability.properties).put Capability.mk after

theorem settles_group (group : Group) :
    Settles (substituteGroup values) (fun group => fits group.properties) (Group.mapBag become)
      group :=
  fun after => (bags group.properties).put
    (fun properties => { group with properties := properties }) after

theorem settles_policy (policy : Policy) :
    Settles (substitutePolicy values) (fun policy => fits policy.properties) (Policy.mapBag become)
      policy :=
  fun after => (bags policy.properties).put
    (fun properties => { policy with properties := properties }) after

/-- Substitution in a node goes through exactly if its bags fit. -/
theorem settles_node (node : NodeTemplate) :
    Settles (substituteNode values) (fun node => ∀ bag ∈ node.bags, fits bag)
      (NodeTemplate.mapBags become) node := by
  intro other
  simp only [NodeTemplate.bags, List.forall_mem_cons, List.forall_mem_map]
  by_cases own : fits node.properties
  · have capabilities := settles_map fun entry (_ : entry ∈ node.capabilities.entries) =>
      settles_capability bags entry.2
    rw [substituteNode, (bags _).done own, and_iff_right own]
    exact capabilities.put (fun capabilities =>
      { node with properties := become node.properties, capabilities := capabilities }) other
  · obtain ⟨properties, error, stopped⟩ := (bags _).stopped own
    simp [substituteNode, stopped, own]

/-- Substitution in a topology goes through exactly if its bags fit. -/
theorem settles_topology (topology : Topology) :
    Settles (substituteTopology values) (fun topology => ∀ bag ∈ topology.bags, fits bag)
      (Topology.mapBags become) topology := by
  have nodes := settles_map fun entry (_ : entry ∈ topology.nodes.entries) =>
    settles_node bags entry.2
  have groups := settles_map fun entry (_ : entry ∈ topology.groups.entries) =>
    settles_group bags entry.2
  have policies := settles_each fun map (_ : map ∈ topology.policies) =>
    settles_map fun entry (_ : entry ∈ map.entries) => settles_policy bags entry.2
  intro other
  simp only [Topology.bags, Topology.policyPairs, List.forall_mem_append, List.forall_mem_flatMap,
    List.forall_mem_map]
  rw [substituteTopology]
  -- The first part that does not fit stops the substitution.
  by_cases nodesFit : ∀ entry ∈ topology.nodes.entries, ∀ bag ∈ entry.2.bags, fits bag
  · rw [nodes.done nodesFit]
    dsimp only
    by_cases groupsFit : ∀ entry ∈ topology.groups.entries, fits entry.2.properties
    · rw [groups.done groupsFit, and_assoc, and_assoc, and_iff_right nodesFit,
        and_iff_right groupsFit]
      exact policies.put (fun policies =>
        { topology with
          nodes := topology.nodes.map (NodeTemplate.mapBags become)
          groups := topology.groups.map (Group.mapBag become)
          policies := policies }) other
    · obtain ⟨after, error, stopped⟩ := groups.stopped groupsFit
      rw [stopped]
      refine iff_of_false (fun done => ?_) fun fit => groupsFit fit.1.1.2
      cases done
  · obtain ⟨after, error, stopped⟩ := nodes.stopped nodesFit
    rw [stopped]
    refine iff_of_false (fun done => ?_) fun fit => nodesFit fit.1.1.1
    cases done

end Bags

/-! ## Templates -/

namespace Template

/-- What the name of an input stands for: the text that was given for it, read as YAML if it can be,
or else its default. -/
def given? (template : Template) (overrides : Overrides) (name : String) : Option Value := do
  let input ← template.topology.inputs.get? name
  match overrides.get? name with
  | some text => some (((Yaml.read text).bind Node.resolve).toOption.getD (.string text))
  | none => input.default

/-- A template is resolved: every override names an input, every input that a property asks for
stands for something, and all references are replaced at once. -/
structure ResolvesTo (through : Bool) (template : Template) (overrides : Overrides)
    (resolved : Template) : Prop where
  declared : ∀ override ∈ overrides, template.topology.inputs.contains override.1 = true
  answered : ∀ bag ∈ template.topology.bags, ∀ entry ∈ bag,
    Answered through (template.given? overrides) entry.2
  filled : resolved = { template with
    topology := template.topology.mapBags (filledEntries through (template.given? overrides)) }

theorem value_inputValues (template : Template) (overrides : Overrides) (name : String)
    (value : Value) :
    (inputValues template.topology.inputs overrides).value name = .ok value ↔
      template.given? overrides name = some value := by
  rw [InputValues.value, inputValues, List.find?_map, given?, OrderedMap.get?]
  simp only [Function.comp_def]
  have read (text : String) : ((Yaml.read text).bind Node.resolve).toOption.getD (.string text) =
      overrideValue text := by
    rw [overrideValue]
    cases (Yaml.read text).bind Node.resolve <;> rfl
  cases found : template.topology.inputs.entries.find? (fun entry => entry.1 = name) with
  | none => simp
  | some entry =>
    obtain rfl : entry.1 = name := by simpa using List.find?_some found
    cases override : overrides.get? entry.1 with
    | some text => simp [override, read]
    | none => cases given : entry.2.default <;> simp [override, given]

/-- The overrides of a template name inputs exactly if none is found that does not. -/
theorem declared_iff {inputs : OrderedMap InputDefinition} {overrides : Overrides} :
    (overrides.sortedNames.find? fun name => !inputs.contains name) = none ↔
      ∀ override ∈ overrides, inputs.contains override.1 = true := by
  simp [List.find?_eq_none, Overrides.sortedNames, List.mem_mergeSort]

/-- Resolving does what is promised of it where one does not look through tags. -/
theorem resolveInputs_iff (template : Template) (overrides : Overrides) (resolved : Template) :
    template.resolveInputs overrides = .ok resolved ↔
      template.ResolvesTo false overrides resolved := by
  have bags (bag : Value.Entries) : Settles
      (substituteEntries (inputValues template.topology.inputs overrides))
      (fun bag => ∀ entry ∈ bag, Answered false (template.given? overrides) entry.2)
      (filledEntries false (template.given? overrides)) bag := by
    intro after
    rw [substituteEntries_eq, filledEntries_eq_map]
    exact settles_entries (fun entry _ =>
      settles_substitute (template.value_inputValues overrides) entry.2) after
  have topology := settles_topology bags template.topology
  rw [resolveInputs, substituteInputs]
  cases stray : overrides.sortedNames.find? fun name =>
      !template.topology.inputs.contains name with
  | some name =>
    refine iff_of_false (fun done => ?_) fun resolves => ?_
    · cases done
    · rw [declared_iff.mpr resolves.declared] at stray
      cases stray
  | none =>
    have declared := declared_iff.mp stray
    constructor
    · intro done
      split at done
      · next same =>
        obtain rfl := Except.ok.inj done
        obtain ⟨answered, filled⟩ := (topology.put (fun topology =>
          { template with topology := topology }) _).mp same
        exact ⟨declared, answered, filled⟩
      · cases done
    · rintro ⟨-, answered, rfl⟩
      simp only [topology.done answered]

theorem resolvesTo_through_iff {template resolved : Template} {overrides : Overrides}
    (visible : ∀ bag ∈ template.topology.bags, ∀ entry ∈ bag, ¬ HidesReference entry.2) :
    template.ResolvesTo true overrides resolved ↔ template.ResolvesTo false overrides resolved := by
  have bags : template.topology.mapBags (filledEntries true (template.given? overrides)) =
      template.topology.mapBags (filledEntries false (template.given? overrides)) := by
    refine Topology.mapBags_congr fun bag inTopology => ?_
    rw [filledEntries_eq_map, filledEntries_eq_map]
    refine List.map_congr_left fun entry member => ?_
    rw [filled_through (visible bag inTopology entry member)]
  constructor
  · rintro ⟨declared, answered, filled⟩
    refine ⟨declared, fun bag inTopology entry member => ?_, bags ▸ filled⟩
    exact (answered_through_iff (visible bag inTopology entry member)).mp
      (answered bag inTopology entry member)
  · rintro ⟨declared, answered, filled⟩
    refine ⟨declared, fun bag inTopology entry member => ?_, bags ▸ filled⟩
    exact (answered_through_iff (visible bag inTopology entry member)).mpr
      (answered bag inTopology entry member)

/-- Resolving the inputs of a template succeeds exactly if every override names an input and every
input that a property asks for stands for something; then all references are replaced at once. What
is below the tag of a collection is left out of this; if there is no reference, nothing is left
out. -/
theorem resolveInputs_eq_ok_iff (template : Template) (overrides : Overrides)
    (resolved : Template) :
    (template.resolveInputs overrides = .ok resolved ↔
      template.ResolvesTo false overrides resolved) ∧
    ((∀ bag ∈ template.topology.bags, ∀ entry ∈ bag, ¬ HidesReference entry.2) →
      (template.resolveInputs overrides = .ok resolved ↔
        template.ResolvesTo true overrides resolved)) := by
  refine ⟨template.resolveInputs_iff overrides resolved, fun visible => ?_⟩
  rw [resolveInputs_iff, resolvesTo_through_iff visible]

/-- A template with an input that is 2 by default and a node with one property. -/
def sizedTemplate (cpus : Value) : Template where
  topology :=
    { inputs := .single "vcpus" { default := some (.ofNat 2) }
      nodes := .single "vdu"
        { nodeType := "tosca.nodes.nfv.VDU"
          properties := [(.string "cpus", cpus)] } }

/-- The reference to the input. -/
def vcpusReference : Value := .mapping [(.string "get_input", .string "vcpus")]

private theorem sizedTemplate_resolvesTo {through : Bool} {cpus : Value}
    (answered : Answered through ((sizedTemplate cpus).given? []) cpus) :
    (sizedTemplate cpus).ResolvesTo through []
      (sizedTemplate (filled through ((sizedTemplate cpus).given? []) cpus)) where
  declared := nofun
  answered := List.forall_mem_singleton.mpr (List.forall_mem_singleton.mpr answered)
  filled := rfl

/-- A reference is replaced; but in a list with a tag it stays, where looking through the tag would
replace it. -/
theorem sizedTemplate_resolved :
    (sizedTemplate vcpusReference).resolveInputs [] = .ok (sizedTemplate (.ofNat 2)) ∧
      let listed := sizedTemplate (.tagged "list" (.sequence [vcpusReference]))
      listed.resolveInputs [] = .ok listed ∧
        listed.ResolvesTo true [] (sizedTemplate (.tagged "list" (.sequence [.ofNat 2]))) := by
  have answered {cpus : Value} {through : Bool} :
      Answered through ((sizedTemplate cpus).given? []) vcpusReference :=
    (answered_of_reference rfl).mpr rfl
  refine ⟨?_, ?_, ?_⟩
  · have visible : ¬ HidesReference vcpusReference := fun hides => by
      cases hides with
      | value member hides =>
        obtain ⟨-, rfl⟩ := Prod.mk.inj (List.mem_singleton.mp member)
        cases hides
    refine ((resolveInputs_eq_ok_iff _ _ _).2 ?_).mpr (sizedTemplate_resolvesTo answered)
    exact List.forall_mem_singleton.mpr (List.forall_mem_singleton.mpr visible)
  · refine (resolveInputs_eq_ok_iff _ _ _).1.mpr (sizedTemplate_resolvesTo ?_)
    exact (answered_tagged rfl).mpr nofun
  · refine sizedTemplate_resolvesTo ((answered_tagged rfl).mpr fun _ => ?_)
    exact answered_sequence.mpr (List.forall_mem_singleton.mpr answered)

end Template

end NfvCatalog.Tosca
