import NfvCatalog.Proofs.Descriptor.Written
import NfvCatalog.Proofs.Tosca.WrittenTemplate
import NfvCatalog.Proofs.Translation.RoundTrip

/-! # Templates that are read again

A template that was read, or that describes descriptors, is written to a text that is read again.
What comes back is the same template, with all orders kept, except that an input whose default is
null has none: the default is written as null, and a null field is an unset one.
-/

/-! ## Templates that describe descriptors

Whatever descriptors a template describes, all that it carries can stand in a document: its
properties have names of their own, a collected mapping has each key once, and a configuration is
JSON data.
-/

namespace NfvCatalog.Translation

open Tosca

/-! ### Properties -/

private theorem areDocument_of_string {α : Type} {name : α → String} {value : α → Value}
    {items : List α} (distinct : (items.map name).Nodup)
    (each : ∀ item ∈ items, (value item).IsDocument) :
    Value.Entries.AreDocument (items.map fun item => (.string (name item), value item)) := by
  have document : (Value.ofFields (items.map fun item => (name item, value item))).IsDocument :=
    .ofFields (by rwa [List.map_map]) (List.forall_mem_map.mpr each)
  rwa [Value.ofFields, List.map_map] at document

/-- Properties with distinct names can stand in a document if their values can. -/
theorem areDocument_properties {fields : List (String × Option Value)}
    (distinct : (fields.map Prod.fst).Nodup)
    (each : ∀ field ∈ fields, ∀ value ∈ field.2, value.IsDocument) :
    (properties fields).AreDocument := by
  refine .mapping ?_ ?_ ?_
  · rw [Value.Entries.Distinct, properties, List.pairwise_filterMap]
    refine (List.pairwise_map.mp distinct).imp fun differ left first right second => ?_
    obtain ⟨_, -, rfl⟩ := Option.map_eq_some_iff.mp first
    obtain ⟨_, -, rfl⟩ := Option.map_eq_some_iff.mp second
    simpa [Value.alike_string] using differ
  all_goals
    intro entry member
    obtain ⟨field, within, given⟩ := List.mem_filterMap.mp member
    obtain ⟨value, own, rfl⟩ := Option.map_eq_some_iff.mp given
  · exact .string field.1
  · exact each field within value own

theorem isDocument_mappingProperty {entries : Value.Entries} (document : entries.AreDocument) :
    ∀ mapping ∈ mappingProperty entries, mapping.IsDocument := by
  intro mapping given
  rw [mappingProperty] at given
  split at given <;> cases given
  exact document

/-- A collected mapping can stand in a document if its values can. -/
theorem isDocument_collected {α : Type} (name : α → String) {value : α → Value} {items : List α}
    (each : ∀ item ∈ items, (value item).IsDocument) :
    ∀ mapping ∈ mappingProperty (collected (items.map fun item => (name item, value item))),
      mapping.IsDocument := by
  rw [collected_map name value]
  exact isDocument_mappingProperty (areDocument_of_string (nodup_keys_latest name items)
    fun item member => each item (mem_of_mem_latest name member))

private theorem isDocument_text (text : String) : (Value.string text).IsDocument := .string text

private theorem isDocument_textProperty (text : Option String) :
    ∀ value ∈ textProperty text, value.IsDocument := by
  cases text <;> simp [textProperty, isDocument_text]

private theorem isDocument_wordValue (n : UInt32) : (wordValue n).IsDocument := .number _

private theorem isDocument_wordProperty (n : Option UInt32) :
    ∀ value ∈ n.map wordValue, value.IsDocument := by
  cases n <;> simp [isDocument_wordValue]

private theorem isDocument_portProperty (n : Option UInt16) :
    ∀ value ∈ n.map portValue, value.IsDocument := by
  cases n <;> simp [portValue, Value.ofNat, Value.IsDocument.number]

private theorem isDocument_truthProperty (b : Option Bool) :
    ∀ value ∈ b.map Value.bool, value.IsDocument := by
  cases b <;> simp [Value.IsDocument.bool]

/-! ### Nodes -/

/-- A node without capabilities and interfaces carries its properties only. -/
private theorem isDocument_of_properties {node : NodeTemplate}
    (properties : node.properties.AreDocument) (capabilities : node.capabilities = .empty)
    (interfaces : node.interfaces = []) : node.IsDocument where
  properties := properties
  interfaces := interfaces ▸ Value.Entries.areDocument_nil
  capabilities := by simp [capabilities, OrderedMap.values]

private theorem linkNode_isDocument (vld : Vld) : (linkNode vld).IsDocument := by
  refine isDocument_of_properties (areDocument_properties (by simp) ?_) rfl rfl
  have segmentation := isDocument_wordProperty (vld.provider.bind (·.segmentation))
  simp only [List.forall_mem_cons]
  exact ⟨by simp [isDocument_text], by simp [isDocument_text], isDocument_textProperty _,
    isDocument_textProperty _, isDocument_textProperty _, isDocument_textProperty _,
    isDocument_textProperty _, isDocument_textProperty _, isDocument_textProperty _, segmentation,
    List.forall_mem_nil _⟩

private theorem pathNode_isDocument (members : List MemberNodes) (path : ServicePath) :
    (pathNode members path).IsDocument :=
  isDocument_of_properties
    (areDocument_properties (by simp) (by simp [isDocument_text])) rfl rfl

private theorem interfaceNode_isDocument (vnfd : Vnfd) (member : UInt32) (links : NamedLinks)
    (machine : String) (interface : ExternalInterface) :
    (interfaceNode vnfd member links machine interface).IsDocument := by
  refine isDocument_of_properties (areDocument_properties (by simp) ?_) rfl rfl
  have virtualType := isDocument_textProperty interface.virtualType
  simpa [isDocument_text] using virtualType

private theorem capabilityPart_eq (name : String) (entries : Value.Entries) :
    capabilityPart name entries = properties [(name, mappingProperty entries)] := by
  cases entries <;> rfl

private theorem properties_append (front back : List (String × Option Value)) :
    properties front ++ properties back = properties (front ++ back) :=
  List.filterMap_append.symm

private theorem computeSections_areDocument (vdu : Vdu) : (computeSections vdu).AreDocument := by
  simp only [computeSections, capabilityPart_eq, properties_append]
  refine areDocument_properties (by simp) ?_
  simp only [List.cons_append, List.nil_append, List.forall_mem_cons]
  refine ⟨isDocument_mappingProperty (areDocument_properties (by simp) ?_),
    isDocument_mappingProperty (areDocument_properties (by simp) ?_),
    isDocument_mappingProperty (areDocument_properties (by simp) ?_), List.forall_mem_nil _⟩
  all_goals simp only [List.forall_mem_cons]
  · exact ⟨isDocument_wordProperty _, isDocument_textProperty _, List.forall_mem_nil _⟩
  · exact ⟨by simp [isDocument_text], isDocument_textProperty _, List.forall_mem_nil _⟩
  · exact ⟨by simp [isDocument_text], List.forall_mem_nil _⟩

private theorem machineNode_isDocument (vdu : Vdu) : (machineNode vdu).IsDocument where
  properties := by
    refine areDocument_properties (by simp) ?_
    simp only [List.forall_mem_cons]
    exact ⟨by simp [isDocument_text], by simp [isDocument_text], isDocument_textProperty _,
      isDocument_wordProperty _, List.forall_mem_nil _⟩
  interfaces := Value.Entries.areDocument_nil
  capabilities := by
    have sections := computeSections_areDocument vdu
    simp only [machineNode]
    split <;> simp [OrderedMap.values, sections]

private theorem dashboardProperties_isDocument (dashboard : Dashboard) :
    (dashboardProperties dashboard).IsDocument := by
  refine areDocument_properties (by simp) ?_
  simp only [List.forall_mem_cons]
  exact ⟨isDocument_textProperty _, isDocument_portProperty _, isDocument_truthProperty _,
    List.forall_mem_nil _⟩

private theorem mgmtProperties_areDocument (machines : List (String × Vdu))
    (mgmt : MgmtInterface) : (mgmtProperties machines mgmt).AreDocument := by
  refine areDocument_properties (by simp) ?_
  simp only [List.forall_mem_cons]
  refine ⟨isDocument_textProperty _, isDocument_textProperty _, isDocument_portProperty _, ?_,
    List.forall_mem_nil _⟩
  simp [dashboardProperties_isDocument]

private theorem functionNode_isDocument {vnfd : Vnfd} (json : vnfd.ConfigurationIsJson)
    (member : ConstituentVnfd) (inService : Bool) (machines : List (String × Vdu)) :
    (functionNode vnfd member inService machines).IsDocument := by
  refine isDocument_of_properties (areDocument_properties (by simp) ?_) rfl rfl
  simp only [List.forall_mem_cons]
  refine ⟨by simp [isDocument_text], by simp [isDocument_text], isDocument_textProperty _,
    isDocument_textProperty _, isDocument_textProperty _, isDocument_textProperty _,
    by simp [isDocument_text], ?_, isDocument_truthProperty _, ?_,
    fun value given => .of_isJson (json value given), List.forall_mem_nil _⟩
  · cases inService <;> simp [isDocument_wordValue]
  · intro value given
    obtain ⟨mgmt, -, given⟩ := Option.bind_eq_some_iff.mp given
    exact isDocument_mappingProperty (mgmtProperties_areDocument machines mgmt) value given

/-! ### Groups and policies -/

private theorem graphGroup_areDocument (graph : ForwardingGraph) (paths : List String) :
    (graphGroup graph paths).properties.AreDocument := by
  refine areDocument_properties (by simp) ?_
  simp only [List.forall_mem_cons]
  exact ⟨by simp [isDocument_text], by simp [isDocument_text], isDocument_textProperty _,
    isDocument_textProperty _, List.forall_mem_nil _⟩

private theorem scalingPolicy_areDocument (members : List MemberNodes) (group : ScalingGroup) :
    (scalingPolicy members group).properties.AreDocument := by
  refine areDocument_properties (by simp) ?_
  simp only [List.forall_mem_cons]
  exact ⟨by simp [isDocument_text], isDocument_wordProperty _, isDocument_wordProperty _,
    isDocument_collected Prod.fst fun entry _ => isDocument_wordValue entry.2,
    isDocument_collected ScalingAction.trigger fun action _ => .string action.primitive,
    List.forall_mem_nil _⟩

private theorem placementPolicy_areDocument (members : List MemberNodes)
    (group : PlacementGroup) : (placementPolicy members group).properties.AreDocument := by
  refine areDocument_properties (by simp) ?_
  simp only [List.forall_mem_cons]
  exact ⟨by simp [isDocument_text], isDocument_textProperty _, isDocument_textProperty _,
    List.forall_mem_nil _⟩

private theorem primitivePolicy_areDocument (primitive : ConfigPrimitive) :
    (primitivePolicy primitive).properties.AreDocument := by
  refine areDocument_properties (by simp) ?_
  simp only [List.forall_mem_cons]
  refine ⟨by simp [isDocument_text], by simp [isDocument_wordValue], isDocument_textProperty _,
    isDocument_collected PrimitiveParameter.name fun parameter _ => ?_, List.forall_mem_nil _⟩
  cases parameter.value with
  | none => exact .null
  | some text => exact .string text

/-! ### Templates -/

private theorem nodes_areDocument {m : MemberNodes} (json : m.vnfd.ConfigurationIsJson)
    (inService : Bool) (links : NamedLinks) :
    ∀ entry ∈ m.nodes inService links, entry.2.IsDocument := by
  simp only [MemberNodes.nodes, List.forall_mem_append, List.forall_mem_cons, List.forall_mem_map]
  exact ⟨⟨functionNode_isDocument json m.member inService m.machines,
    fun machine _ => machineNode_isDocument machine.2⟩,
    fun interface _ => interfaceNode_isDocument m.vnfd m.member.index links interface.2.1.1
      interface.2.2⟩

/-- The template of a layout can stand in a document if the configurations are JSON data. -/
theorem Layout.template_isDocument {layout : Layout}
    (json : ∀ m ∈ layout.members, m.vnfd.ConfigurationIsJson) (nsd : Nsd) (inService : Bool) :
    (layout.template nsd inService).IsDocument where
  metadata := by
    refine areDocument_properties (by simp) ?_
    simp only [List.forall_mem_cons]
    exact ⟨by simp [isDocument_text], isDocument_textProperty _, isDocument_textProperty _,
      isDocument_textProperty _, List.forall_mem_nil _⟩
  imports := nofun
  types := by rintro (_ | _ | _) <;> exact nofun
  topology :=
    { inputs := nofun
      nodes := OrderedMap.forall_values_ofList (by
        simp only [nodes, List.forall_mem_append, List.forall_mem_map, List.forall_mem_flatMap]
        exact ⟨⟨fun link _ => linkNode_isDocument link.2,
          fun m member => nodes_areDocument (json m member) inService layout.links⟩,
          fun g _ path _ => pathNode_isDocument layout.members path.2⟩)
      groups := OrderedMap.forall_values_ofList (by
        simp only [groups, List.forall_mem_map]
        exact fun g _ => graphGroup_areDocument g.graph (g.paths.map Prod.fst))
      policies := by
        simp only [Layout.template, policies, List.map_append, List.forall_mem_append,
          List.forall_mem_map, OrderedMap.values, OrderedMap.entries_single, List.mem_singleton,
          forall_eq]
        exact ⟨⟨fun entry _ => scalingPolicy_areDocument layout.members entry.2,
          fun entry _ => placementPolicy_areDocument layout.members entry.2⟩,
          fun entry _ => primitivePolicy_areDocument entry.2⟩ }

/-- A template of descriptors can stand in a document, and no version but the profile's is
written. -/
theorem isDocument_of_templateOf {set : DescriptorSet} {template : Template}
    (json : set.ConfigurationsAreJson) (described : templateOf set = .ok template) :
    template.IsDocument ∧ template.version = profileVersion := by
  obtain ⟨nsd, inService, members, layout, -, supplied, -, describes, rfl⟩ :=
    exists_layout_of_templateOf described
  refine ⟨layout.template_isDocument (fun m member => ?_) nsd inService, rfl⟩
  refine json m.vnfd (mem_vnfds_of_supplied? supplied (m.member, m.vnfd) ?_)
  exact describes.members ▸ List.mem_map_of_mem member

end NfvCatalog.Translation

/-! ## Reading -/

namespace NfvCatalog

/-- The YAML layer gives a value back: it has a text, and that text is read as a spelling of it. -/
def Yaml.GivesBack (value : Value) : Prop :=
  ∃ text node, Yaml.write value = .ok text ∧ Yaml.read text = .ok node ∧ node.spells value

theorem Yaml.givesBack_iff {value : Value} :
    Yaml.GivesBack value ↔
      (Yaml.write value).toOption.any fun text =>
        (Yaml.read text).toOption.any (·.spells value) := by
  rw [GivesBack]
  cases Yaml.write value with
  | error => simp [Except.toOption]
  | ok text => cases read : Yaml.read text <;> simp [Except.toOption, read]

instance (value : Value) : Decidable (Yaml.GivesBack value) :=
  decidable_of_iff _ Yaml.givesBack_iff.symm

namespace Tosca.Template

/-- Where a template comes from: a text that was read, or descriptors with JSON data for their
configurations. -/
inductive Known (template : Template) : Prop
  | parsed {text : String} (accepted : parse text = .ok template)
  | described {set : DescriptorSet} (json : set.ConfigurationsAreJson)
      (written : Translation.templateOf set = .ok template)

theorem ofDocument_of_parse {text : String} {template : Template}
    (accepted : parse text = .ok template) : ∃ node, ofDocument node = .ok template := by
  rw [parse] at accepted
  split at accepted
  · cases accepted
  · exact ⟨_, accepted⟩

theorem ofDocument_eq_ok {node : Node} {template : Template} :
    ofDocument node = .ok template ↔
      ofNode node = .ok template ∧ supportedVersions.contains template.version = true := by
  rw [ofDocument]
  cases ofNode node with
  | error => simp
  | ok read =>
    by_cases supported : supportedVersions.contains read.version = true
    · simp only [supported, if_true, Except.ok.injEq, iff_self_and]
      rintro rfl
      exact supported
    · simp only [supported, Except.ok.injEq]
      simp only [Bool.false_eq_true, if_false, reduceCtorEq, false_iff]
      rintro ⟨rfl, again⟩
      exact supported again

/-- What a template carries can stand in a document, and its version is supported. -/
theorem Known.isDocument {template : Template} (known : template.Known) :
    template.IsDocument ∧ supportedVersions.contains template.version = true := by
  cases known with
  | parsed accepted =>
    obtain ⟨node, read⟩ := ofDocument_of_parse accepted
    obtain ⟨read, supported⟩ := ofDocument_eq_ok.mp read
    exact ⟨isDocument_of_ofNode read, supported⟩
  | described json written =>
    obtain ⟨document, version⟩ := Translation.isDocument_of_templateOf json written
    exact ⟨document, version ▸ by decide⟩

theorem withoutNullDefaults_eq_self_iff {template : Template} :
    template.withoutNullDefaults = template ↔
      ∀ input ∈ template.topology.inputs.values, input.default ≠ some .null := by
  have inputs : template.withoutNullDefaults = template ↔
      template.topology.inputs.map InputDefinition.withoutNull = template.topology.inputs := by
    obtain ⟨version, description, metadata, imports, nodeTypes, groupTypes, policyTypes,
      ⟨about, inputs, nodes, groups, policies⟩⟩ := template
    simp [withoutNullDefaults, Topology.withoutNullDefaults]
  rw [inputs, OrderedMap.map_eq_self_iff]
  exact forall₂_congr fun input _ => InputDefinition.withoutNull_eq_self_iff

/-- The text of a template is read as the template without null defaults, so as the template itself
exactly if no input has one. -/
theorem parse_write {template : Template} (known : template.Known)
    (back : Yaml.GivesBack template.toValue) :
    ∃ text, template.write = .ok text ∧ parse text = .ok template.withoutNullDefaults ∧
      (parse text = .ok template ↔
        ∀ input ∈ template.topology.inputs.values, input.default ≠ some .null) := by
  obtain ⟨text, node, written, read, spelled⟩ := back
  obtain ⟨document, supported⟩ := known.isDocument
  have again : parse text = .ok template.withoutNullDefaults := by
    have within : (Yaml.read text).bind (·.within shape.extent) = .ok node := by
      rw [read]
      exact Node.within_of_spells shape.extent spelled
    rw [parse, within]
    exact ofDocument_eq_ok.mpr ⟨(readsBack document).ok spelled, supported⟩
  refine ⟨text, ?_, again, ?_⟩
  · rw [write, written]
    rfl
  · rw [again, Except.ok.injEq]
    exact withoutNullDefaults_eq_self_iff

/-- A template with a default that spells no number and a requirement in its short form. -/
def siteText : String :=
  "tosca_definitions_version: tosca_simple_profile_for_nfv_1_0\n" ++
  "topology_template:\n  inputs:\n    site:\n      default: '1.10'\n" ++
  "  node_templates:\n    ping:\n      type: VNF\n      requirements:\n      - vdus: web\n"

/-- The template of the text. -/
def siteTemplate : Template :=
  { version := profileVersion
    topology :=
      { inputs := .single "site" { default := some (.string "1.10") }
        nodes := .single "ping" {
          nodeType := "VNF"
          requirements := [.single "vdus" (.node "web")] } } }

/-- The text is read, and what is written of it is read as the same template. -/
theorem siteTemplate_comes_back :
    parse siteText = .ok siteTemplate ∧ Yaml.GivesBack siteTemplate.toValue ∧
      ∃ text, siteTemplate.write = .ok text ∧ parse text = .ok siteTemplate := by
  have chars : String.ofList _ = siteText :=
    Yaml.ofList_eq_append (Yaml.ofList_eq_append rfl rfl) rfl
  have accepted : parse siteText = .ok siteTemplate := by
    rw [parse, Yaml.read_eq_readChars chars]
    exact toOption_eq_some.mp (by decide +kernel)
  have back : Yaml.GivesBack siteTemplate.toValue := by
    have shown : Yaml.write siteTemplate.toValue = .ok siteText :=
      toOption_eq_some.mp (by decide +kernel)
    rw [Yaml.givesBack_iff, shown, Except.toOption, Option.any_some,
      Yaml.read_eq_readChars chars]
    decide +kernel
  obtain ⟨text, written, -, again⟩ := parse_write (.parsed accepted) back
  exact ⟨accepted, back, text, written, again.mpr (by decide)⟩

/-- A null that is quoted is null by its tag only, and set. -/
example :
    ((parse ("tosca_definitions_version: tosca_simple_profile_for_nfv_1_0\n" ++
      "topology_template:\n  inputs:\n    site:\n      default: !!null 'null'\n")).toOption.map
        fun template => template.topology.inputs.values.map (·.default)) =
      some [some .null] := by
  decide +kernel

end Tosca.Template

end NfvCatalog
