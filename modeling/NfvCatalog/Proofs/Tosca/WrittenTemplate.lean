import NfvCatalog.Proofs.Document.Data
import NfvCatalog.Proofs.Document.Fields
import NfvCatalog.Proofs.Lists.Basic
import NfvCatalog.Proofs.Tosca.OrderedMap
import NfvCatalog.Tosca.TemplateRecord

/-! # Written templates

A template that was written is read back as it was, part by part and in the same order, apart from
the default of an input that is null: it is written as null, and a null field is an unset one.
What a template carries without reading it, properties among them, comes back if it can stand in a
document at all, which everything does that was read from one.
-/

/-! ## Maps

A map is written as the mapping of its entries, in their order. Its keys are distinct, so no entry
is refused when it is read back, and it has the same keys in the same order. An empty map may be
left out, since a map that is not given is empty.
-/

namespace NfvCatalog

variable {α β : Type} {read : Node → Except Fault α}

namespace OrderedMap

variable {map : OrderedMap α}

/-- Every value of a map that is read was read by itself. -/
theorem exists_of_mem_ofNode {node : Node} (given : ofNode read node = .ok map) :
    ∀ value ∈ map.values, ∃ node, read node = .ok value := by
  rw [values, List.forall_mem_map]
  intro entry member
  cases mapping : node.mapping? with
  | none =>
    obtain rfl := eq_empty_of_mapping?_eq_none mapping given
    cases member
  | some nodes =>
    rw [ofNode_of_mapping? mapping, ofEntries_eq_ok] at given
    obtain ⟨node, -, own⟩ := exists_of_mem_right given member
    exact ⟨node.2, own.2⟩

/-- What holds of every value that is read holds of those of a map that may be left out. -/
theorem forall_of_withDefault {record : Record} {name : String} {holds : α → Prop}
    (given : record.withDefault name .empty (ofNode read) = .ok map)
    (each : ∀ {node value}, read node = .ok value → holds value) :
    ∀ value ∈ map.values, holds value := by
  let all (map : OrderedMap α) : Prop := ∀ value ∈ map.values, holds value
  have base : all .empty := by simp [all, values]
  have read : all map := Record.of_withDefault given base fun own value member => by
    obtain ⟨_, read⟩ := exists_of_mem_ofNode own value member
    exact each read
  exact read

variable {write : β → Value} {f : β → α}

/-- A map whose values may change when they are read back comes back with its keys. -/
theorem readsBack_map {map : OrderedMap β}
    (back : ∀ value ∈ map.values, ReadsBack read (write value) (f value)) :
    ReadsBack (ofNode read) (map.toValue write) (map.map f) where
  set := nofun
  ok := ofNode_of_spells fun value member => (back value member).ok

/-- A map comes back if its values do. -/
theorem readsBack {write : α → Value} {map : OrderedMap α}
    (back : ∀ value ∈ map.values, ReadsBack read (write value) value) :
    ReadsBack (ofNode read) (map.toValue write) map := by
  have all := readsBack_map (f := id) back
  rwa [map_id] at all

end OrderedMap

/-- Entries that are read, or left out, can stand in a document. -/
theorem Record.areDocument_of_withDefault {record : Record} {name : String}
    {entries : Value.Entries}
    (given : record.withDefault name [] Node.asValueEntries = .ok entries) :
    entries.AreDocument :=
  of_withDefault given Value.Entries.areDocument_nil Node.areDocument_of_asValueEntries

namespace Record.Has

variable {record : Record} {name : String}

/-- A map that is left out when it is empty, of values that may change when they are read back. -/
theorem map_changed {write : β → Value} {f : β → α} {map : OrderedMap β}
    (has : record.Has (.map name write map))
    (back : ∀ value ∈ map.values, ReadsBack read (write value) (f value)) :
    record.withDefault name .empty (OrderedMap.ofNode read) = .ok (map.map f) := by
  rw [WrittenField.map, WrittenField.optional] at has
  split at has
  · next none =>
    have same : map.map f = .empty :=
      OrderedMap.ext (by simpa [OrderedMap.map, OrderedMap.isEmpty] using none)
    rw [Record.withDefault, get?_of_has_none has, same]
  · exact has.withDefault (OrderedMap.readsBack_map back)

/-- A map that is left out when it is empty. -/
theorem map {write : α → Value} {map : OrderedMap α} (has : record.Has (.map name write map))
    (back : ∀ value ∈ map.values, ReadsBack read (write value) value) :
    record.withDefault name .empty (OrderedMap.ofNode read) = .ok map := by
  have all := has.map_changed (f := id) back
  rwa [OrderedMap.map_id] at all

/-- Entries of any kind that are left out when there are none. -/
theorem entries {entries : Value.Entries} (has : record.Has (.entries name entries))
    (document : entries.AreDocument) :
    record.withDefault name [] Node.asValueEntries = .ok entries := by
  cases entries with
  | nil => rw [Record.withDefault, get?_of_has_none has]
  | cons =>
    exact has.withDefault ⟨by simp, Node.asValueEntries_of_spells document⟩

/-- Values of any kind, null among them, that are left out when there are none. -/
theorem values {values : List Value} (has : record.Has (.list name id values))
    (document : ∀ value ∈ values, value.IsDocument) :
    record.list name Node.resolve = .ok values :=
  has.list_of_each fun value member => Node.resolve_of_spells (document value member)

end Record.Has

end NfvCatalog

/-! ## Templates and their parts -/

namespace NfvCatalog.Tosca

/-! ### Inputs -/

namespace InputDefinition

/-- The input with no default that is null. -/
def withoutNull (input : InputDefinition) : InputDefinition :=
  { input with default := input.default.filter (· ≠ .null) }

theorem withoutNull_eq_self_iff {input : InputDefinition} :
    input.withoutNull = input ↔ input.default ≠ some .null := by
  obtain ⟨type, description, _ | value⟩ := input
  · simp [withoutNull]
  · simp [withoutNull, Option.filter_some]

/-- The default of an input, if it has one, can stand in a document. -/
def IsDocument (input : InputDefinition) : Prop := ∀ value ∈ input.default, value.IsDocument

theorem isDocument_of_ofNode {node : Node} {input : InputDefinition}
    (read : ofNode node = .ok input) : input.IsDocument := by
  simp only [ofNode, bind_eq_ok] at read
  obtain ⟨_, -, _, -, _, -, default, given, same⟩ := read
  obtain rfl := Except.ok.inj same
  intro value member
  obtain rfl : default = some value := member
  obtain ⟨node, own⟩ := Record.optional_eq_some given
  exact Node.isDocument_of_resolve_eq own

theorem readsBack {input : InputDefinition} (document : input.IsDocument) :
    ReadsBack ofNode input.toValue input.withoutNull := by
  refine .record rfl (by decide) ?_
  rintro record ⟨type, description, default⟩
  rw [type.optional .text, ok_bind, description.optional .text, ok_bind,
    default.optional_filter fun value given => Node.resolve_of_spells (document value given),
    ok_bind]
  rfl

end InputDefinition

/-! ### Parts of nodes -/

/-- A target in the short form is a text, and one in the long form is a mapping of texts. -/
theorem RequirementTarget.readsBack (target : RequirementTarget) :
    ReadsBack ofNode target.toValue target where
  set := by cases target <;> nofun
  ok {node} spelled := by
    cases target with
    | node name =>
      rw [ofNode, Node.typed_of_spells_text spelled]
      rfl
    | detailed name capability relationship =>
      have long : ReadsBack detailedOfNode (detailed name capability relationship).toValue
          (.detailed name capability relationship) := by
        refine .record rfl (by decide) ?_
        rintro record ⟨name, capability, relationship⟩
        rw [name.required (.text _), ok_bind, capability.optional .text, ok_bind,
          relationship.optional .text, ok_bind]
        rfl
      obtain ⟨entries, typed, same⟩ := Node.typed_of_spells_texts (by
        cases capability <;> cases relationship <;>
          simp [WrittenField.text, WrittenField.optionalText]) spelled
      rw [ofNode, typed, ok_bind]
      exact long.ok same

/-- An artifact in the short form is a text, and one in the long form is a mapping of texts. -/
theorem Artifact.readsBack (artifact : Artifact) :
    ReadsBack ofNode artifact.toValue artifact where
  set := by cases artifact <;> nofun
  ok {node} spelled := by
    cases artifact with
    | path file =>
      rw [ofNode, Node.typed_of_spells_text spelled]
      rfl
    | full file type description checksum =>
      have long : ReadsBack fullOfNode (full file type description checksum).toValue
          (.full file type description checksum) := by
        refine .record rfl (by decide) ?_
        rintro record ⟨file, type, description, checksum⟩
        rw [file.required (.text _), ok_bind, type.optional .text, ok_bind,
          description.optional .text, ok_bind, checksum.optional .text, ok_bind]
        rfl
      obtain ⟨entries, typed, same⟩ := Node.typed_of_spells_texts (by
        cases type <;> cases description <;> cases checksum <;>
          simp [WrittenField.text, WrittenField.optionalText]) spelled
      rw [ofNode, typed, ok_bind]
      exact long.ok same

namespace Capability

theorem areDocument_of_ofNode {node : Node} {capability : Capability}
    (read : ofNode node = .ok capability) : capability.properties.AreDocument := by
  simp only [ofNode, bind_eq_ok] at read
  obtain ⟨_, -, properties, given, same⟩ := read
  obtain rfl := Except.ok.inj same
  exact Record.areDocument_of_withDefault given

theorem readsBack {capability : Capability} (document : capability.properties.AreDocument) :
    ReadsBack ofNode capability.toValue capability := by
  refine .record rfl (by decide) ?_
  rintro record properties
  rw [Record.Has.entries properties document, ok_bind]
  rfl

end Capability

/-! ### Nodes, groups, policies and types -/

/-- What a node carries can stand in a document. -/
structure NodeTemplate.IsDocument (node : NodeTemplate) : Prop where
  properties : node.properties.AreDocument
  interfaces : node.interfaces.AreDocument
  capabilities : ∀ capability ∈ node.capabilities.values, capability.properties.AreDocument

namespace NodeTemplate

theorem isDocument_of_ofNode {node : Node} {template : NodeTemplate}
    (read : ofNode node = .ok template) : template.IsDocument := by
  simp only [ofNode, bind_eq_ok] at read
  obtain ⟨_, -, _, -, _, -, properties, own, _, -, capabilities, each, _, -, interfaces, others,
    same⟩ := read
  obtain rfl := Except.ok.inj same
  exact ⟨Record.areDocument_of_withDefault own, Record.areDocument_of_withDefault others,
    OrderedMap.forall_of_withDefault each Capability.areDocument_of_ofNode⟩

theorem readsBack {template : NodeTemplate} (document : template.IsDocument) :
    ReadsBack ofNode template.toValue template := by
  refine .record rfl (by decide) ?_
  rintro record ⟨type, description, properties, requirements, capabilities, artifacts, interfaces⟩
  rw [type.required (.text _), ok_bind, description.optional .text, ok_bind,
    properties.entries document.properties, ok_bind,
    requirements.list fun targets => OrderedMap.readsBack fun target _ => target.readsBack,
    ok_bind,
    capabilities.map fun capability member =>
      Capability.readsBack (document.capabilities capability member), ok_bind,
    artifacts.map fun artifact _ => artifact.readsBack, ok_bind,
    interfaces.entries document.interfaces, ok_bind]
  rfl

end NodeTemplate

theorem Group.areDocument_of_ofNode {node : Node} {group : Group}
    (read : ofNode node = .ok group) : group.properties.AreDocument := by
  simp only [ofNode, bind_eq_ok] at read
  obtain ⟨_, -, _, -, _, -, properties, given, _, -, same⟩ := read
  obtain rfl := Except.ok.inj same
  exact Record.areDocument_of_withDefault given

theorem Group.readsBack {group : Group} (document : group.properties.AreDocument) :
    ReadsBack ofNode group.toValue group := by
  refine .record rfl (by decide) ?_
  rintro record ⟨type, description, properties, members⟩
  rw [type.required (.text _), ok_bind, description.optional .text, ok_bind,
    properties.entries document, ok_bind, members.list .text, ok_bind]
  rfl

theorem Policy.areDocument_of_ofNode {node : Node} {policy : Policy}
    (read : ofNode node = .ok policy) : policy.properties.AreDocument := by
  simp only [ofNode, bind_eq_ok] at read
  obtain ⟨_, -, _, -, _, -, properties, given, _, -, same⟩ := read
  obtain rfl := Except.ok.inj same
  exact Record.areDocument_of_withDefault given

theorem Policy.readsBack {policy : Policy} (document : policy.properties.AreDocument) :
    ReadsBack ofNode policy.toValue policy := by
  refine .record rfl (by decide) ?_
  rintro record ⟨type, description, properties, targets⟩
  rw [type.required (.text _), ok_bind, description.optional .text, ok_bind,
    properties.entries document, ok_bind, targets.list .text, ok_bind]
  rfl

theorem TypeDefinition.areDocument_of_ofNode {node : Node} {definition : TypeDefinition}
    (read : ofNode node = .ok definition) : definition.properties.AreDocument := by
  simp only [ofNode, bind_eq_ok] at read
  obtain ⟨_, -, _, -, _, -, properties, given, same⟩ := read
  obtain rfl := Except.ok.inj same
  exact Record.areDocument_of_withDefault given

theorem TypeDefinition.readsBack {definition : TypeDefinition}
    (document : definition.properties.AreDocument) :
    ReadsBack ofNode definition.toValue definition := by
  refine .record rfl (by decide) ?_
  rintro record ⟨parent, description, properties⟩
  rw [parent.optional .text, ok_bind, description.optional .text, ok_bind,
    properties.entries document, ok_bind]
  rfl

/-! ### Topologies -/

/-- What a topology carries can stand in a document. -/
structure Topology.IsDocument (topology : Topology) : Prop where
  inputs : ∀ input ∈ topology.inputs.values, input.IsDocument
  nodes : ∀ node ∈ topology.nodes.values, node.IsDocument
  groups : ∀ group ∈ topology.groups.values, group.properties.AreDocument
  policies : ∀ map ∈ topology.policies, ∀ policy ∈ map.values, policy.properties.AreDocument

namespace Topology

/-- The topology with no default of an input that is null. -/
def withoutNullDefaults (topology : Topology) : Topology :=
  { topology with inputs := topology.inputs.map InputDefinition.withoutNull }

theorem isDocument_empty : IsDocument {} where
  inputs := List.forall_mem_nil _
  nodes := List.forall_mem_nil _
  groups := List.forall_mem_nil _
  policies := List.forall_mem_nil _

theorem isDocument_of_ofNode {node : Node} {topology : Topology}
    (read : ofNode node = .ok topology) : topology.IsDocument := by
  simp only [ofNode, bind_eq_ok] at read
  obtain ⟨_, -, _, -, inputs, input, nodes, node, groups, group, policies, listed, same⟩ := read
  obtain rfl := Except.ok.inj same
  refine ⟨OrderedMap.forall_of_withDefault input InputDefinition.isDocument_of_ofNode,
    OrderedMap.forall_of_withDefault node NodeTemplate.isDocument_of_ofNode,
    OrderedMap.forall_of_withDefault group Group.areDocument_of_ofNode,
    fun map member policy within => ?_⟩
  obtain ⟨_, given⟩ := Record.exists_of_mem_list listed map member
  obtain ⟨_, own⟩ := OrderedMap.exists_of_mem_ofNode given policy within
  exact Policy.areDocument_of_ofNode own

theorem readsBack {topology : Topology} (document : topology.IsDocument) :
    ReadsBack ofNode topology.toValue topology.withoutNullDefaults := by
  refine .record rfl (by decide) ?_
  rintro record ⟨description, inputs, nodes, groups, policies⟩
  have listed := policies.list_of_each fun map member =>
    (OrderedMap.readsBack fun policy within =>
      Policy.readsBack (document.policies map member policy within)).ok
  rw [description.optional .text, ok_bind,
    inputs.map_changed fun input member => InputDefinition.readsBack (document.inputs input member),
    ok_bind,
    nodes.withDefault (OrderedMap.readsBack fun node member =>
      NodeTemplate.readsBack (document.nodes node member)), ok_bind,
    groups.map fun group member => Group.readsBack (document.groups group member), ok_bind,
    listed, ok_bind]
  rfl

end Topology

/-! ### Templates -/

/-- What a template carries can stand in a document. -/
structure Template.IsDocument (template : Template) : Prop where
  metadata : template.metadata.AreDocument
  imports : ∀ value ∈ template.imports, value.IsDocument
  types : ∀ table, ∀ definition ∈ (template.types table).values,
    definition.properties.AreDocument
  topology : template.topology.IsDocument

namespace Template

/-- The template with no default of an input that is null. -/
def withoutNullDefaults (template : Template) : Template :=
  { template with topology := template.topology.withoutNullDefaults }

theorem isDocument_of_ofNode {node : Node} {template : Template}
    (read : ofNode node = .ok template) : template.IsDocument := by
  simp only [ofNode, bind_eq_ok] at read
  obtain ⟨_, -, _, -, _, -, metadata, entries, imports, values, nodeTypes, nodeType, groupTypes,
    groupType, policyTypes, policyType, topology, inner, same⟩ := read
  obtain rfl := Except.ok.inj same
  refine ⟨Record.areDocument_of_withDefault entries, fun value member => ?_, ?_, ?_⟩
  · obtain ⟨_, own⟩ := Record.exists_of_mem_list values value member
    exact Node.isDocument_of_resolve_eq own
  · rintro (_ | _ | _)
    · exact OrderedMap.forall_of_withDefault nodeType TypeDefinition.areDocument_of_ofNode
    · exact OrderedMap.forall_of_withDefault groupType TypeDefinition.areDocument_of_ofNode
    · exact OrderedMap.forall_of_withDefault policyType TypeDefinition.areDocument_of_ofNode
  · exact Record.of_withDefault inner Topology.isDocument_empty Topology.isDocument_of_ofNode

theorem readsBack {template : Template} (document : template.IsDocument) :
    ReadsBack ofNode template.toValue template.withoutNullDefaults := by
  refine .record rfl (by decide) ?_
  rintro record ⟨version, description, metadata, imports, nodeTypes, groupTypes, policyTypes,
    topology⟩
  have types (table : TypeTable) (definition : TypeDefinition)
      (member : definition ∈ (template.types table).values) :=
    TypeDefinition.readsBack (document.types table definition member)
  have inner : record.withDefault "topology_template" { } Topology.ofNode =
      .ok template.topology.withoutNullDefaults :=
    Record.Has.withDefault topology (Topology.readsBack document.topology)
  rw [version.required (.text _), ok_bind, description.optional .text, ok_bind,
    metadata.entries document.metadata, ok_bind, imports.values document.imports, ok_bind]
  beta_reduce
  rw [nodeTypes.map (types .node), ok_bind, groupTypes.map (types .group), ok_bind,
    policyTypes.map (types .policy), ok_bind, inner, ok_bind]
  rfl

end Template

end NfvCatalog.Tosca
