import NfvCatalog.Proofs.Translation.Groups
import NfvCatalog.Proofs.Translation.Work

/-! # Descriptors that read as references to inputs

A template of descriptors declares no inputs, but what it carries may read as a reference to one: a
configuration, the actions of a scaling group or the parameters of a primitive. Nothing else does,
since all other properties are scalars or mappings with keys of their own.
-/

namespace NfvCatalog

/-- The actions of a group are written as a mapping of `get_input` alone. -/
def ScalingGroup.LooksLikeInput (group : ScalingGroup) : Prop :=
  ∃ primitive, latest ScalingAction.trigger group.actions = [⟨"get_input", primitive⟩]

/-- The parameters of a primitive are written as a mapping of `get_input` alone. -/
def ConfigPrimitive.LooksLikeInput (primitive : ConfigPrimitive) : Prop :=
  ∃ value, latest PrimitiveParameter.name primitive.parameters = [⟨"get_input", some value⟩]

end NfvCatalog

namespace NfvCatalog.Translation

open Tosca

/-- Nothing in a service and its functions reads as a reference to an input. -/
structure FreeOfInputs (nsd : Nsd) (members : List Supplied) : Prop where
  configurations : ∀ m ∈ members, ∀ value ∈ m.2.configuration, refersToInput value = false
  actions : ∀ group ∈ nsd.scalingGroups, ¬ group.LooksLikeInput
  parameters : ∀ primitive ∈ nsd.primitives, ¬ primitive.LooksLikeInput

/-! ## Properties -/

private theorem refersToInput_string (text : String) : refersToInput (.string text) = false := by
  simp [refersToInput.eq_def, inputReference?, Value.mapping?, Value.untagged]

private theorem refersToInput_bool (value : Bool) : refersToInput (.bool value) = false := by
  simp [refersToInput.eq_def, inputReference?, Value.mapping?, Value.untagged]

private theorem refersToInput_number (value : Number) : refersToInput (.number value) = false := by
  simp [refersToInput.eq_def, inputReference?, Value.mapping?, Value.untagged]

private theorem refersToInput_null : refersToInput .null = false := by
  simp [refersToInput.eq_def, inputReference?, Value.mapping?, Value.untagged]

private theorem refersToInput_mapping (entries : Value.Entries) :
    refersToInput (.mapping entries) =
      ((inputReference? (.mapping entries)).isSome || entriesRefer entries) := by
  rw [refersToInput.eq_def]

/-- A mapping without the key `get_input` is no reference. -/
private theorem inputReference?_of_get? {entries : Value.Entries}
    (absent : entries.get? "get_input" = none) : inputReference? (.mapping entries) = none := by
  rw [inputReference?]
  simp only [Value.mapping?, Value.untagged]
  split
  · next target same =>
    obtain rfl := Option.some.inj same
    simp [Value.Entries.get?] at absent
  · rfl

/-- Properties refer to an input exactly if one of their values does. -/
private theorem entriesRefer_properties (fields : List (String × Option Value)) :
    entriesRefer (properties fields) = fields.any fun field => field.2.any refersToInput := by
  induction fields with
  | nil => rfl
  | cons field rest ih =>
    obtain ⟨name, value⟩ := field
    cases value with
    | none => simpa [properties] using ih
    | some value => simpa [properties, entriesRefer] using congrArg (refersToInput value || ·) ih

private theorem any_textProperty (value : Option String) :
    (textProperty value).any refersToInput = false := by
  cases value <;> simp [textProperty, refersToInput_string]

private theorem any_wordValue (value : Option UInt32) :
    (value.map wordValue).any refersToInput = false := by
  cases value <;> simp [wordValue, Value.ofNat, refersToInput_number]

private theorem any_portValue (value : Option UInt16) :
    (value.map portValue).any refersToInput = false := by
  cases value <;> simp [portValue, Value.ofNat, refersToInput_number]

private theorem any_bool (value : Option Bool) :
    (value.map Value.bool).any refersToInput = false := by
  cases value <;> simp [refersToInput_bool]

/-! ## Nodes -/

private theorem linkNode_free (vld : Vld) : (linkNode vld).refersToInput = false := by
  have segmentation :
      ((vld.provider.bind (·.segmentation)).map wordValue).any refersToInput = false :=
    any_wordValue _
  simp only [linkNode, NodeTemplate.refersToInput, entriesRefer_properties, List.any_cons,
    any_textProperty, segmentation, Option.any_some, refersToInput_string]
  rfl

private theorem pathNode_free (members : List MemberNodes) (path : ServicePath) :
    (pathNode members path).refersToInput = false := by
  simp [pathNode, NodeTemplate.refersToInput, entriesRefer_properties, refersToInput_string]

private theorem interfaceNode_free (vnfd : Vnfd) (member : UInt32) (links : NamedLinks)
    (machine : String) (interface : ExternalInterface) :
    (interfaceNode vnfd member links machine interface).refersToInput = false := by
  simp [interfaceNode, NodeTemplate.refersToInput, entriesRefer_properties, refersToInput_string,
    any_textProperty]

/-- A mapping of properties whose names are not `get_input` refers to an input only inside. -/
private theorem refersToInput_properties {fields : List (String × Option Value)}
    (apart : "get_input" ∉ fields.map Prod.fst) :
    refersToInput (.mapping (properties fields)) =
      fields.any fun field => field.2.any refersToInput := by
  have absent : (properties fields).get? "get_input" = none := by
    induction fields with
    | nil => rfl
    | cons field rest ih =>
      obtain ⟨name, value⟩ := field
      simp only [List.map_cons, List.mem_cons, not_or] at apart
      have other : name ≠ "get_input" := fun same => apart.1 same.symm
      cases value with
      | none => simpa [properties] using ih apart.2
      | some value => simpa [other] using ih apart.2
  rw [refersToInput_mapping, inputReference?_of_get? absent, entriesRefer_properties]
  rfl

private theorem entriesRefer_append (left right : Value.Entries) :
    entriesRefer (left ++ right) = (entriesRefer left || entriesRefer right) := by
  induction left with
  | nil => rfl
  | cons entry rest ih => simp [entriesRefer, ih, Bool.or_assoc]

private theorem entriesRefer_capabilityPart {name : String} {entries : Value.Entries}
    (free : refersToInput (.mapping entries) = false) :
    entriesRefer (capabilityPart name entries) = false := by
  rw [capabilityPart]
  split <;> simp [entriesRefer, free]

private theorem machineNode_free (vdu : Vdu) : (machineNode vdu).refersToInput = false := by
  have sections : entriesRefer (computeSections vdu) = false := by
    simp only [computeSections, entriesRefer_append, Bool.or_eq_false_iff]
    refine ⟨⟨?_, ?_⟩, ?_⟩ <;> refine entriesRefer_capabilityPart ?_ <;>
      rw [refersToInput_properties (by simp)]
    · simp [any_wordValue, any_textProperty]
    · cases (vdu.flavor.getD { }).memoryMb <;> simp [any_textProperty, refersToInput_string]
    · cases (vdu.flavor.getD { }).storageGb <;> simp [refersToInput_string]
  have capabilities : (machineNode vdu).capabilities.entries.any
      (fun capability => entriesRefer capability.2.properties) = false := by
    simp only [machineNode]
    split <;> simp [sections]
  rw [NodeTemplate.refersToInput, capabilities, Bool.or_false]
  simp [machineNode, entriesRefer_properties, any_textProperty, any_wordValue,
    refersToInput_string]

private theorem dashboardProperties_free (dashboard : Dashboard) :
    refersToInput (dashboardProperties dashboard) = false := by
  rw [dashboardProperties, refersToInput_properties (by simp)]
  simp [any_textProperty, any_portValue, any_bool]

private theorem mgmtProperties_free (machines : List (String × Vdu)) (mgmt : MgmtInterface) :
    refersToInput (.mapping (mgmtProperties machines mgmt)) = false := by
  have dashboard : (mgmt.dashboard.map dashboardProperties).any refersToInput = false := by
    cases mgmt.dashboard <;> simp [dashboardProperties_free]
  rw [mgmtProperties, refersToInput_properties (by simp)]
  simp only [List.any_cons, any_textProperty, any_portValue, dashboard]
  rfl

/-- The node of a function refers to an input exactly if the configuration does. -/
private theorem functionNode_refers (vnfd : Vnfd) (member : ConstituentVnfd) (inService : Bool)
    (machines : List (String × Vdu)) :
    (functionNode vnfd member inService machines).refersToInput =
      vnfd.configuration.any refersToInput := by
  have logo : (vnfd.logo.map fun logo => Value.string ("icons/" ++ logo)).any refersToInput =
      false := by
    cases vnfd.logo <;> simp [refersToInput_string]
  have index : (if inService then some (wordValue member.index) else none).any refersToInput =
      false := by
    cases inService
    · rfl
    · exact any_wordValue (some member.index)
  have mgmt : (vnfd.mgmt.bind fun mgmt =>
      if (mgmtProperties machines mgmt).isEmpty then none
      else some (.mapping (mgmtProperties machines mgmt))).any refersToInput = false := by
    cases vnfd.mgmt with
    | none => rfl
    | some mgmt =>
      rw [Option.bind_some]
      split
      · rfl
      · exact mgmtProperties_free machines mgmt
  simp only [functionNode, NodeTemplate.refersToInput, entriesRefer_properties, List.any_cons,
    any_textProperty, any_bool, logo, index, mgmt, Option.any_some, refersToInput_string]
  simp

/-! ## Groups and policies -/

private theorem graphGroup_free (graph : ForwardingGraph) (paths : List String) :
    entriesRefer (graphGroup graph paths).properties = false := by
  simp [graphGroup, entriesRefer_properties, refersToInput_string, any_textProperty]

private theorem placementPolicy_free (members : List MemberNodes) (group : PlacementGroup) :
    entriesRefer (placementPolicy members group).properties = false := by
  simp [placementPolicy, entriesRefer_properties, refersToInput_string, any_textProperty]

/-- Entries with values that refer to nothing refer to nothing. -/
private theorem entriesRefer_map {α : Type} {key value : α → Value} {items : List α}
    (free : ∀ item ∈ items, refersToInput (value item) = false) :
    entriesRefer (items.map fun item => (key item, value item)) = false := by
  induction items with
  | nil => rfl
  | cons item rest ih =>
    simp only [List.forall_mem_cons] at free
    rw [List.map_cons, entriesRefer, free.1, ih free.2]
    rfl

/-- A mapping of collected items is a reference exactly if it has one item, under `get_input`, with
a text for its value. -/
private theorem any_mappingProperty_collected {α : Type} (name : α → String) {value : α → Value}
    (free : ∀ item, refersToInput (value item) = false) (items : List α) :
    (mappingProperty (collected (items.map fun item => (name item, value item)))).any
        refersToInput = true ↔
      ∃ item, latest name items = [item] ∧ name item = "get_input" ∧
        ((value item).string?).isSome := by
  rw [collected_map name value, mappingProperty]
  cases whole : latest name items with
  | nil => simp
  | cons item rest =>
    have inner : entriesRefer ((item :: rest).map fun a => (Value.string (name a), value a)) =
        false := entriesRefer_map fun a _ => free a
    rw [List.map_cons] at inner ⊢
    rw [if_neg (by simp), Option.any_some, refersToInput_mapping, inner, Bool.or_false]
    cases rest with
    | cons other rest =>
      simp [inputReference?, Value.mapping?, Value.untagged]
    | nil =>
      by_cases reserved : name item = "get_input"
      · simp [inputReference?, Value.mapping?, Value.untagged, reserved]
      · have absent :
            Value.Entries.get? [(.string (name item), value item)] "get_input" = none := by
          simp [Value.Entries.get?, reserved]
        simp [inputReference?_of_get? absent, reserved]

private theorem counts_free (counts : List (String × UInt32)) :
    (mappingProperty (collected (counts.map fun (node, count) => (node, wordValue count)))).any
      refersToInput = false := by
  have numbers := any_mappingProperty_collected Prod.fst (fun entry : String × UInt32 =>
    refersToInput_number (.int entry.2.toNat)) counts
  have noText (entry : String × UInt32) :
      ((Value.number (.int entry.2.toNat)).string?).isSome = false := rfl
  refine Bool.eq_false_iff.mpr fun refers => ?_
  obtain ⟨entry, -, -, text⟩ := numbers.mp refers
  simp [noText] at text

private theorem scalingPolicy_refers (members : List MemberNodes) (group : ScalingGroup) :
    entriesRefer (scalingPolicy members group).properties = true ↔ group.LooksLikeInput := by
  have actions := any_mappingProperty_collected ScalingAction.trigger (fun a =>
    refersToInput_string a.primitive) group.actions
  have inner : entriesRefer (scalingPolicy members group).properties =
      (mappingProperty (collected (group.actions.map fun a =>
        (a.trigger, .string a.primitive)))).any refersToInput := by
    simp only [scalingPolicy, entriesRefer_properties, List.any_cons, any_wordValue, counts_free,
      Option.any_some, refersToInput_string]
    simp
  rw [inner, actions, ScalingGroup.LooksLikeInput]
  constructor
  · rintro ⟨⟨trigger, primitive⟩, whole, rfl, -⟩
    exact ⟨primitive, whole⟩
  · rintro ⟨primitive, whole⟩
    exact ⟨_, whole, rfl, rfl⟩

private theorem primitivePolicy_refers (primitive : ConfigPrimitive) :
    entriesRefer (primitivePolicy primitive).properties = true ↔ primitive.LooksLikeInput := by
  have free (p : PrimitiveParameter) :
      refersToInput ((textProperty p.value).getD .null) = false := by
    cases p.value with
    | none => exact refersToInput_null
    | some text => exact refersToInput_string text
  have parameters := any_mappingProperty_collected PrimitiveParameter.name free
    primitive.parameters
  have inner : entriesRefer (primitivePolicy primitive).properties =
      (mappingProperty (collected (primitive.parameters.map fun p =>
        (p.name, (textProperty p.value).getD .null)))).any refersToInput := by
    have seq : refersToInput (wordValue primitive.seq) = false := refersToInput_number _
    simp only [primitivePolicy, entriesRefer_properties, List.any_cons, any_textProperty,
      Option.any_some, refersToInput_string, seq]
    simp
  rw [inner, parameters, ConfigPrimitive.LooksLikeInput]
  constructor
  · rintro ⟨⟨name, value⟩, whole, rfl, text⟩
    cases value with
    | none => cases text
    | some value => exact ⟨value, whole⟩
  · rintro ⟨value, whole⟩
    exact ⟨_, whole, rfl, rfl⟩

/-! ## Templates -/

private theorem MemberNodes.nodes_refer (m : MemberNodes) (inService : Bool) (links : NamedLinks) :
    (m.nodes inService links).any (fun node => node.2.refersToInput) =
      m.vnfd.configuration.any refersToInput := by
  simp [MemberNodes.nodes, functionNode_refers, machineNode_free, interfaceNode_free,
    Function.comp_def]

private theorem Layout.nodes_refer (layout : Layout) (inService : Bool) :
    (layout.nodes inService).any (fun node => node.2.refersToInput) =
      layout.members.any fun m => m.vnfd.configuration.any refersToInput := by
  rw [Bool.eq_iff_iff]
  simp [Layout.nodes, linkNode_free, pathNode_free, MemberNodes.nodes_refer]

private theorem Layout.policies_refer (layout : Layout) :
    (layout.policies.any fun policy => entriesRefer policy.2.properties) = true ↔
      (∃ group ∈ layout.scaling.map Prod.snd, group.LooksLikeInput) ∨
        ∃ primitive ∈ layout.primitives.map Prod.snd, primitive.LooksLikeInput := by
  simp only [Layout.policies, List.any_append, List.any_map, Function.comp_def,
    placementPolicy_free, Bool.or_eq_true, List.any_eq_true, Bool.false_eq_true, and_false,
    exists_false, or_false, List.mem_map, exists_exists_and_eq_and, scalingPolicy_refers,
    primitivePolicy_refers]

/-- The template of a layout refers to an input exactly if the descriptors look like it. -/
theorem Layout.template_free {layout : Layout} {nsd : Nsd} {members : List Supplied}
    (describes : layout.Describes nsd members) (inService : Bool) :
    (layout.template nsd inService).topology.refersToInput = false ↔
      FreeOfInputs nsd members := by
  have groups : ((layout.template nsd inService).topology.groups.entries.any fun group =>
      entriesRefer group.2.properties) = false := by
    rw [groups_template describes.distinct]
    simp [Layout.groups, graphGroup_free]
  have policies : ((layout.template nsd inService).topology.policies.any fun entry =>
      entry.entries.any fun policy => entriesRefer policy.2.properties) =
        layout.policies.any fun policy => entriesRefer policy.2.properties := by
    simp [Layout.template, Function.comp_def]
  have configurations : layout.members.any (fun m => m.vnfd.configuration.any refersToInput) =
        false ↔ ∀ m ∈ members, ∀ value ∈ m.2.configuration, refersToInput value = false := by
    have optional (configuration : Option Value) :
        configuration.any refersToInput = false ↔
          ∀ value ∈ configuration, refersToInput value = false := by
      cases configuration <;> simp
    rw [← describes.members, List.any_eq_false, List.forall_mem_map]
    simp only [Bool.not_eq_true, optional]
  rw [Topology.refersToInput, nodes_template describes.distinct, groups, policies,
    Layout.nodes_refer, Bool.or_false, Bool.or_eq_false_iff, configurations,
    ← Bool.not_eq_true (layout.policies.any _), Layout.policies_refer, describes.scaling,
    describes.primitives, not_or]
  constructor
  · rintro ⟨configured, scaled, initial⟩
    exact ⟨configured, by simpa using scaled, by simpa using initial⟩
  · rintro ⟨configured, scaled, initial⟩
    exact ⟨configured, by simpa using scaled, by simpa using initial⟩

end NfvCatalog.Translation
