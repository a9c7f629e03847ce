import NfvCatalog.Descriptor.NsdRecord
import NfvCatalog.Descriptor.Set
import NfvCatalog.Proofs.Document.Fields
import NfvCatalog.Proofs.Document.Json

/-! # Written descriptors

A set that was read from a document, printed in any notation and read again is the same set, with
two exceptions: an empty set is printed without any catalog, which is then missed, and a
configuration that is null comes back unset.
-/

/-! ## Configurations of functions

Whatever document a function is read from, its configuration is JSON data.
-/

namespace NfvCatalog

/-- The configuration of a function, if it has one, is JSON data. -/
def Vnfd.ConfigurationIsJson (vnfd : Vnfd) : Prop := ∀ value ∈ vnfd.configuration, value.IsJson

/-- The configurations of a set are JSON data. -/
def DescriptorSet.ConfigurationsAreJson (set : DescriptorSet) : Prop :=
  ∀ vnfd ∈ set.vnfds, vnfd.ConfigurationIsJson

theorem Vnfd.configurationIsJson_of_ofNode {positional : Bool} {node : Node} {vnfd : Vnfd}
    (read : Vnfd.ofNode positional node = .ok vnfd) : vnfd.ConfigurationIsJson := by
  simp only [Vnfd.ofNode, bind_eq_ok] at read
  obtain ⟨_, -, _, -, _, -, _, -, _, -, _, -, _, -, _, -, _, -, _, -, _, -, _, -, configuration,
    given, same⟩ := read
  obtain rfl := Except.ok.inj same
  intro value member
  have configured : configuration = some value := member
  rw [configured] at given
  obtain ⟨node, own⟩ := Record.optional_eq_some given
  obtain ⟨_, -, own⟩ := bind_eq_ok.mp own
  exact Node.isJson_of_toOpaque own

/-- The functions of a document have JSON data for their configurations. -/
theorem DescriptorSet.configurationsAreJson_of_ofNode {positional : Bool} {node : Node}
    {set : DescriptorSet} (read : DescriptorSet.ofNode positional node = .ok set) :
    set.ConfigurationsAreJson := by
  rw [ofNode] at read
  cases catalogs : catalogsOfNode positional node with
  | error fault => simp [catalogs] at read
  | ok found =>
    obtain ⟨vnfds, nsds⟩ := found
    have whole : set.vnfds = vnfds.getD [] := by
      rw [catalogs] at read
      split at read <;> cases read
      next same =>
        obtain ⟨rfl, rfl⟩ := Prod.mk.inj (Except.ok.inj same)
        rfl
    simp only [catalogsOfNode, bind_eq_ok, pure_eq_ok, Prod.mk.injEq] at catalogs
    obtain ⟨record, -, vnfds', given, nsds', -, rfl, rfl⟩ := catalogs
    rw [ConfigurationsAreJson, whole]
    cases vnfds' with
    | none => simp
    | some vnfds' =>
      obtain ⟨catalog, listed⟩ := Record.optional_eq_some given
      obtain ⟨_, -, listed⟩ := bind_eq_ok.mp listed
      intro vnfd member
      obtain ⟨own, read⟩ := Record.exists_of_mem_list listed vnfd member
      exact Vnfd.configurationIsJson_of_ofNode read

/-! ## Written functions

A function that was written is read back as it was, part by part, apart from a configuration that is
null: it is written as null, and a null field is an unset one.
-/

namespace Record.Has

variable {record : Record} {name : String} {text : Option String}

/-- A text is not taken for a value of another kind. -/
theorem looseText (has : record.Has (.optionalText name text)) :
    record.looseText name = .ok text := by
  have read := has.optionalData fun value member => by
    obtain ⟨s, -, rfl⟩ := Option.mem_map.mp member
    exact .string s
  rw [Record.looseText, read, ok_bind]
  cases text <;> rfl

/-- A text that is written as null when there is none. -/
theorem looseText_getD (has : record.Has ⟨name, some ((text.map Value.string).getD .null)⟩) :
    record.looseText name = .ok text := by
  have read := has.optionalData fun value member => by
    obtain rfl := Option.mem_some.mp member
    cases text with
    | none => exact .null
    | some s => exact .string s
  rw [Record.looseText, read, ok_bind]
  cases text <;> rfl

end Record.Has

variable (positional : Bool)

/-! ### Parts of a function -/

theorem ConnectionPoint.readsBack (point : ConnectionPoint) :
    ReadsBack (ofNode positional) point.toValue point := by
  refine .record rfl (by decide) ?_
  rintro record ⟨name, pointType⟩
  rw [name.required (.text _), ok_bind, pointType.withDefault (.text _), ok_bind]
  rfl

theorem Dashboard.readsBack (dashboard : Dashboard) :
    ReadsBack (ofNode positional) dashboard.toValue dashboard := by
  refine .record rfl (by decide) ?_
  rintro record ⟨path, port, https⟩
  rw [path.optional .text, ok_bind, port.optionalNatural .uint16, ok_bind, https.optional .bool,
    ok_bind]
  rfl

theorem MgmtInterface.readsBack (mgmt : MgmtInterface) :
    ReadsBack (ofNode positional) mgmt.toValue mgmt := by
  refine .record rfl (by decide) ?_
  rintro record ⟨vdu, cp, port, dashboard⟩
  rw [vdu.optional .text, ok_bind, cp.optional .text, ok_bind, port.optionalNatural .uint16,
    ok_bind, dashboard.optional (Dashboard.readsBack positional), ok_bind]
  rfl

theorem VmFlavor.readsBack (flavor : VmFlavor) :
    ReadsBack (ofNode positional) flavor.toValue flavor := by
  refine .record rfl (by decide) ?_
  rintro record ⟨vcpus, memory, storage⟩
  rw [vcpus.optionalNatural .uint32, ok_bind, memory.optionalNatural .uint64, ok_bind,
    storage.optionalNatural .uint64, ok_bind]
  rfl

theorem GuestEpa.readsBack (epa : GuestEpa) : ReadsBack (ofNode positional) epa.toValue epa := by
  refine .record rfl (by decide) ?_
  rintro record ⟨cpuPinning, mempageSize⟩
  rw [cpuPinning.optional .text, ok_bind, mempageSize.optional .text, ok_bind]
  rfl

theorem ExternalInterface.virtualType_readsBack (type : String) :
    ReadsBack (virtualTypeOfNode positional) (.ofWritten [.text "type" type]) type := by
  refine .record rfl (by decide) ?_
  rintro record written
  exact Record.Has.withDefault written (.text type)

theorem ExternalInterface.readsBack (interface : ExternalInterface) :
    ReadsBack (ofNode positional) interface.toValue interface := by
  refine .record rfl (by decide) ?_
  rintro record ⟨name, pointRef, virtualType⟩
  rw [name.required (.text _), ok_bind, pointRef.required (.text _), ok_bind,
    virtualType.optional (virtualType_readsBack positional), ok_bind]
  rfl

theorem InternalPoint.readsBack (point : InternalPoint) :
    ReadsBack (ofNode positional) point.toValue point := by
  refine .record rfl (by decide) ?_
  rintro record ⟨id, name, pointType⟩
  rw [id.required (.text _), ok_bind, name.optional .text, ok_bind,
    pointType.withDefault (.text _), ok_bind]
  rfl

theorem Vdu.readsBack (vdu : Vdu) : ReadsBack (ofNode positional) vdu.toValue vdu := by
  refine .record rfl (by decide) ?_
  rintro record ⟨id, name, description, count, flavor, epa, image, checksum, cloudInit, interfaces,
    internalPoints⟩
  rw [id.required (.text _), ok_bind, name.withDefault (.text _), ok_bind,
    description.optional .text, ok_bind, count.optionalNatural .uint32, ok_bind,
    flavor.optional (VmFlavor.readsBack positional), ok_bind,
    epa.optional (GuestEpa.readsBack positional), ok_bind, image.optional .text, ok_bind,
    checksum.optional .text, ok_bind, cloudInit.optional .text, ok_bind,
    interfaces.list (ExternalInterface.readsBack positional), ok_bind,
    internalPoints.list (InternalPoint.readsBack positional), ok_bind]
  rfl

theorem InternalVld.ref_readsBack (ref : String) :
    ReadsBack (refOfNode positional) (refToValue ref) ref := by
  show ReadsBack _ (.ofWritten [.text "id-ref" ref]) ref
  refine .record rfl (by decide) ?_
  rintro record written
  exact Record.Has.required written (.text ref)

theorem InternalVld.readsBack (vld : InternalVld) :
    ReadsBack (ofNode positional) vld.toValue vld := by
  refine .record rfl (by decide) ?_
  rintro record ⟨id, name, shortName, linkType, pointRefs⟩
  rw [id.required (.text _), ok_bind, name.withDefault (.text _), ok_bind,
    shortName.optional .text, ok_bind, linkType.optional .text, ok_bind,
    pointRefs.list (ref_readsBack positional), ok_bind]
  rfl

/-! ### Functions -/

/-- The function without a configuration that is null. -/
def Vnfd.withoutNull (vnfd : Vnfd) : Vnfd :=
  { vnfd with configuration := vnfd.configuration.filter (· ≠ .null) }

/-- Nothing is lost of a function unless its configuration is null. -/
theorem Vnfd.withoutNull_eq_self_iff {vnfd : Vnfd} :
    vnfd.withoutNull = vnfd ↔ vnfd.configuration ≠ some .null := by
  have same : vnfd.withoutNull = vnfd ↔
      vnfd.configuration.filter (· ≠ .null) = vnfd.configuration := by
    cases vnfd
    simp [withoutNull]
  rw [same]
  cases vnfd.configuration with
  | none => simp
  | some value => simp [Option.filter_eq_some_iff]

theorem Vnfd.readsBack {vnfd : Vnfd} (json : vnfd.ConfigurationIsJson) :
    ReadsBack (ofNode positional) vnfd.toValue vnfd.withoutNull := by
  refine .record rfl (by decide) ?_
  rintro record ⟨id, name, shortName, vendor, description, version, logo, mgmt, points, vdus, vlds,
    configuration⟩
  rw [id.required (.text _), ok_bind, name.withDefault (.text _), ok_bind,
    shortName.optional .text, ok_bind, vendor.optional .text, ok_bind, description.optional .text,
    ok_bind, version.looseText, ok_bind, logo.optional .text, ok_bind,
    mgmt.optional (MgmtInterface.readsBack positional), ok_bind,
    points.list (ConnectionPoint.readsBack positional), ok_bind,
    vdus.list (Vdu.readsBack positional), ok_bind,
    vlds.list (InternalVld.readsBack positional), ok_bind,
    configuration.optionalData json, ok_bind]
  rfl

end NfvCatalog

/-! ## Written services

A service that was written is read back as it was, part by part. The value of a parameter is written
even when there is none, and null is read as none.
-/

namespace NfvCatalog

variable (positional : Bool)

/-! ### Constituents and links -/

theorem ConstituentVnfd.readsBack (constituent : ConstituentVnfd) :
    ReadsBack (ofNode positional) constituent.toValue constituent := by
  refine .record rfl (by decide) ?_
  rintro record ⟨index, vnfd, startByDefault⟩
  rw [index.required (.uint32 _), ok_bind, vnfd.required (.text _), ok_bind,
    startByDefault.optional .bool, ok_bind]
  rfl

theorem ProviderNetwork.readsBack (provider : ProviderNetwork) :
    ReadsBack (ofNode positional) provider.toValue provider := by
  refine .record rfl (by decide) ?_
  rintro record ⟨physicalNetwork, overlayType, segmentation⟩
  rw [physicalNetwork.optional .text, ok_bind, overlayType.optional .text, ok_bind,
    segmentation.optionalNatural .uint32, ok_bind]
  rfl

theorem PointRef.readsBack (ref : PointRef) : ReadsBack (ofNode positional) ref.toValue ref := by
  refine .record rfl (by decide) ?_
  rintro record ⟨member, vnfd, point⟩
  rw [member.required (.uint32 _), ok_bind, vnfd.required (.text _), ok_bind,
    point.required (.text _), ok_bind]
  rfl

theorem Vld.readsBack (vld : Vld) : ReadsBack (ofNode positional) vld.toValue vld := by
  refine .record rfl (by decide) ?_
  rintro record ⟨id, name, shortName, description, vendor, linkType, vimNetwork, provider,
    pointRefs⟩
  rw [id.required (.text _), ok_bind, name.withDefault (.text _), ok_bind,
    shortName.optional .text, ok_bind, description.optional .text, ok_bind, vendor.optional .text,
    ok_bind, linkType.optional .text, ok_bind, vimNetwork.optional .text, ok_bind,
    provider.optional (ProviderNetwork.readsBack positional), ok_bind,
    pointRefs.list (PointRef.readsBack positional), ok_bind]
  rfl

/-! ### Groups -/

theorem ScalingMember.readsBack (member : ScalingMember) :
    ReadsBack (ofNode positional) member.toValue member := by
  refine .record rfl (by decide) ?_
  rintro record ⟨ref, count⟩
  rw [ref.required (.uint32 _), ok_bind, count.withDefault (.uint32 _), ok_bind]
  rfl

theorem ScalingAction.readsBack (action : ScalingAction) :
    ReadsBack (ofNode positional) action.toValue action := by
  refine .record rfl (by decide) ?_
  rintro record ⟨trigger, primitive⟩
  rw [trigger.required (.text _), ok_bind, primitive.required (.text _), ok_bind]
  rfl

theorem ScalingGroup.readsBack (group : ScalingGroup) :
    ReadsBack (ofNode positional) group.toValue group := by
  refine .record rfl (by decide) ?_
  rintro record ⟨name, minInstances, maxInstances, members, actions⟩
  rw [name.required (.text _), ok_bind, minInstances.optionalNatural .uint32, ok_bind,
    maxInstances.optionalNatural .uint32, ok_bind,
    members.list (ScalingMember.readsBack positional), ok_bind,
    actions.list (ScalingAction.readsBack positional), ok_bind]
  rfl

theorem PlacementMember.readsBack (member : PlacementMember) :
    ReadsBack (ofNode positional) member.toValue member := by
  refine .record rfl (by decide) ?_
  rintro record ⟨ref, vnfd⟩
  rw [ref.required (.uint32 _), ok_bind, vnfd.required (.text _), ok_bind]
  rfl

theorem PlacementGroup.readsBack (group : PlacementGroup) :
    ReadsBack (ofNode positional) group.toValue group := by
  refine .record rfl (by decide) ?_
  rintro record ⟨name, requirement, strategy, members⟩
  rw [name.required (.text _), ok_bind, requirement.optional .text, ok_bind,
    strategy.optional .text, ok_bind, members.list (PlacementMember.readsBack positional), ok_bind]
  rfl

/-! ### Primitives -/

theorem PrimitiveParameter.readsBack (parameter : PrimitiveParameter) :
    ReadsBack (ofNode positional) parameter.toValue parameter := by
  refine .record rfl (by decide) ?_
  rintro record ⟨name, value⟩
  rw [name.required (.text _), ok_bind, value.looseText_getD, ok_bind]
  rfl

theorem ConfigPrimitive.readsBack (primitive : ConfigPrimitive) :
    ReadsBack (ofNode positional) primitive.toValue primitive := by
  refine .record rfl (by decide) ?_
  rintro record ⟨seq, name, script, parameters⟩
  rw [seq.required (.uint32 _), ok_bind, name.required (.text _), ok_bind,
    script.optional .text, ok_bind, parameters.list (PrimitiveParameter.readsBack positional),
    ok_bind]
  rfl

/-! ### Forwarding graphs -/

theorem PathHop.readsBack (hop : PathHop) : ReadsBack (ofNode positional) hop.toValue hop := by
  refine .record rfl (by decide) ?_
  rintro record ⟨member, order, vnfd, point⟩
  rw [member.required (.uint32 _), ok_bind, order.required (.uint32 _), ok_bind,
    vnfd.required (.text _), ok_bind, point.required (.text _), ok_bind]
  rfl

theorem ServicePath.readsBack (path : ServicePath) :
    ReadsBack (ofNode positional) path.toValue path := by
  refine .record rfl (by decide) ?_
  rintro record ⟨id, name, hops⟩
  rw [id.required (.text _), ok_bind, name.withDefault (.text _), ok_bind,
    hops.list (PathHop.readsBack positional), ok_bind]
  rfl

theorem ForwardingGraph.readsBack (graph : ForwardingGraph) :
    ReadsBack (ofNode positional) graph.toValue graph := by
  refine .record rfl (by decide) ?_
  rintro record ⟨id, name, vendor, version, paths⟩
  rw [id.required (.text _), ok_bind, name.withDefault (.text _), ok_bind, vendor.optional .text,
    ok_bind, version.looseText, ok_bind, paths.list (ServicePath.readsBack positional), ok_bind]
  rfl

/-! ### Services -/

theorem InputParameter.readsBack (input : InputParameter) :
    ReadsBack (ofNode positional) input.toValue input := by
  refine .record rfl (by decide) ?_
  rintro record ⟨xpath, label, default⟩
  rw [xpath.required (.text _), ok_bind, label.optional .text, ok_bind, default.looseText, ok_bind]
  rfl

theorem Nsd.readsBack (nsd : Nsd) : ReadsBack (ofNode positional) nsd.toValue nsd := by
  refine .record rfl (by decide) ?_
  rintro record ⟨id, name, shortName, vendor, description, version, logo, constituents, vlds,
    scalingGroups, placementGroups, primitives, graphs, inputs⟩
  rw [id.required (.text _), ok_bind, name.withDefault (.text _), ok_bind,
    shortName.optional .text, ok_bind, vendor.optional .text, ok_bind, description.optional .text,
    ok_bind, version.looseText, ok_bind, logo.optional .text, ok_bind,
    constituents.list (ConstituentVnfd.readsBack positional), ok_bind,
    vlds.list (Vld.readsBack positional), ok_bind,
    scalingGroups.list (ScalingGroup.readsBack positional), ok_bind,
    placementGroups.list (PlacementGroup.readsBack positional), ok_bind,
    primitives.list (ConfigPrimitive.readsBack positional), ok_bind,
    graphs.list (ForwardingGraph.readsBack positional), ok_bind,
    inputs.list (InputParameter.readsBack positional), ok_bind]
  rfl

end NfvCatalog

/-! ## Sets -/

namespace NfvCatalog

namespace DescriptorSet

/-! ### Null configurations -/

/-- The set with no configuration that is null. -/
def withoutNulls (set : DescriptorSet) : DescriptorSet :=
  { set with vnfds := set.vnfds.map Vnfd.withoutNull }

theorem withoutNulls_eq_self_iff {set : DescriptorSet} :
    set.withoutNulls = set ↔ ∀ vnfd ∈ set.vnfds, vnfd.configuration ≠ some .null := by
  have same : set.withoutNulls = set ↔ set.vnfds.map Vnfd.withoutNull = set.vnfds.map id := by
    cases set
    simp [withoutNulls]
  rw [same, List.map_inj_left]
  exact forall₂_congr fun vnfd _ => Vnfd.withoutNull_eq_self_iff

/-! ### Catalogs -/

variable (positional : Bool)

theorem vnfds_readBack {vnfds : List Vnfd} (json : ∀ vnfd ∈ vnfds, vnfd.ConfigurationIsJson) :
    ReadsBack (vnfdsOfNode positional) (.ofFields [("vnfd", .sequence (vnfds.map Vnfd.toValue))])
      (vnfds.map Vnfd.withoutNull) := by
  show ReadsBack _ (.ofWritten [⟨"vnfd", some (.sequence (vnfds.map Vnfd.toValue))⟩]) _
  refine .record rfl (by decide) ?_
  rintro record written
  exact Record.Has.list_map written fun vnfd member => vnfd.readsBack positional (json vnfd member)

theorem nsds_readBack (nsds : List Nsd) :
    ReadsBack (nsdsOfNode positional) (.ofFields [("nsd", .sequence (nsds.map Nsd.toValue))])
      nsds := by
  show ReadsBack _ (.ofWritten [⟨"nsd", some (.sequence (nsds.map Nsd.toValue))⟩]) _
  refine .record rfl (by decide) ?_
  rintro record written
  have all := Record.Has.list_map written fun nsd _ => nsd.readsBack positional
  rwa [List.map_id'] at all

/-- A set is read from a spelling of it, unless it is empty. -/
theorem ofNode_of_spells {set : DescriptorSet} {node : Node} (json : set.ConfigurationsAreJson)
    (spelled : node.spells set.toValue) :
    ofNode positional node = if set.isEmpty then .error .noCatalog else .ok set.withoutNulls := by
  obtain ⟨record, read, vnfds, nsds⟩ :=
    Record.ofNode_of_spells positional shape rfl (by decide) spelled
  obtain ⟨services, functions⟩ := set
  cases services with
  | nil =>
    cases functions with
    | nil => simp [ofNode, catalogsOfNode, read, vnfds.optional_none, nsds.optional_none, isEmpty]
    | cons _ _ =>
      have functions := vnfds.optional_some (vnfds_readBack positional json)
      simp [ofNode, catalogsOfNode, read, functions, nsds.optional_none, isEmpty, withoutNulls]
  | cons _ _ =>
    have services := nsds.optional_some (nsds_readBack positional _)
    cases functions with
    | nil =>
      simp [ofNode, catalogsOfNode, read, vnfds.optional_none, services, isEmpty, withoutNulls]
    | cons _ _ =>
      have functions := vnfds.optional_some (vnfds_readBack positional json)
      simp [ofNode, catalogsOfNode, read, functions, services, isEmpty, withoutNulls]

/-! ### Documents -/

theorem configurationsAreJson_of_parse {format : Format} {text : String} {set : DescriptorSet}
    (accepted : parse format text = .ok set) : set.ConfigurationsAreJson := by
  rw [parse] at accepted
  split at accepted
  · cases accepted
  · exact configurationsAreJson_of_ofNode accepted

/-- What is printed of a set is read as the set without null configurations, unless the set is
empty. -/
theorem parse_print_eq {format : Format} {set : DescriptorSet} (json : set.ConfigurationsAreJson)
    (back : format.GivesBack set.toValue) :
    parse format (print format set) =
      if set.isEmpty then .error .noCatalog else .ok set.withoutNulls := by
  obtain ⟨node, read, spelled⟩ := back
  have within : (format.read (print format set)).bind (·.within shape.extent) = .ok node := by
    rw [print, read]
    exact Node.within_of_spells shape.extent spelled
  rw [parse, within]
  exact ofNode_of_spells format.positional json spelled

/-- A set that was read, printed in either notation and read again is refused if it is empty, and
otherwise comes back with the configurations that are null unset. So it is the same set exactly if
it has a descriptor and no configuration that is null. -/
theorem parse_print {source target : Format} {text : String} {set : DescriptorSet}
    (accepted : parse source text = .ok set) (back : target.GivesBack set.toValue) :
    parse target (print target set) =
      (if set.isEmpty then .error .noCatalog else .ok set.withoutNulls) ∧
    (parse target (print target set) = .ok set ↔
      set.isEmpty = false ∧ ∀ vnfd ∈ set.vnfds, vnfd.configuration ≠ some .null) := by
  have again := parse_print_eq (configurationsAreJson_of_parse accepted) back
  refine ⟨again, ?_⟩
  rw [again, ← withoutNulls_eq_self_iff]
  cases set.isEmpty with
  | true => simp
  | false => simp

/-- A function with a number for its version and with a configuration. -/
def pingDocument : String :=
  "vnfd-catalog:\n  vnfd:\n  - id: ping\n    version: 1.0\n" ++
    "    vnf-configuration:\n      retries: 3\n"

/-- The function of the document. -/
def pingSet : DescriptorSet :=
  { vnfds := [
      { id := "ping"
        version := some "1.0"
        configuration := some (.ofFields [("retries", .ofNat 3)]) }] }

/-- The document is read, and what is printed of it in either notation is read as the same set. -/
theorem pingSet_comes_back :
    parse .yaml pingDocument = .ok pingSet ∧
      ∀ target : Format, target.GivesBack pingSet.toValue ∧
        parse target (print target pingSet) = .ok pingSet := by
  have accepted : parse .yaml pingDocument = .ok pingSet := by
    have chars : String.ofList _ = pingDocument := Yaml.ofList_eq_append rfl rfl
    rw [parse, Format.read, Yaml.read_eq_readChars chars]
    exact toOption_eq_some.mp (by decide +kernel)
  refine ⟨accepted, fun target => ?_⟩
  have back : target.GivesBack pingSet.toValue := by
    cases target with
    | yaml =>
      have chars : String.ofList _ =
          "vnfd:vnfd-catalog:\n  vnfd:\n  - id: ping\n    name: ''\n    version: '1.0'\n" ++
            "    vnf-configuration:\n      retries: 3\n" := Yaml.ofList_eq_append rfl rfl
      exact Format.yaml_givesBack chars (by decide +kernel) (by decide +kernel)
    | json => decide +kernel
  exact ⟨back, (parse_print accepted back).2.mpr (by decide)⟩

/-- An empty catalog is a catalog, but it is not printed. -/
example :
    (parse .yaml "nsd-catalog:\n  nsd: []\n").toOption = some {} ∧
      (parse .yaml (print .yaml {})).toOption = none := by
  decide +kernel

/-- A configuration without a JSON form is null, and set. -/
example :
    (parse .yaml "vnfd-catalog:\n  vnfd:\n  - id: ping\n    vnf-configuration: .nan\n").toOption =
      some { vnfds := [{ id := "ping", configuration := some .null }] } := by
  decide +kernel

end DescriptorSet

end NfvCatalog
