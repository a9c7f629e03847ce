import NfvCatalog.Proofs.Descriptor.Written
import NfvCatalog.Proofs.Translation.Closure
import NfvCatalog.Proofs.Translation.WrittenFiles

/-! # Written services

The files that a service is written to are read and merged to the descriptors of the service, in
order, with the one exception of every written descriptor: a configuration that is null comes back
unset.
-/

/-! ## Configurations of translated functions

A configuration is taken over as JSON data, and no later step touches it. So the descriptors of
every accepted template can be written and read as far as their configurations are concerned.
-/

namespace NfvCatalog.Translation

open Tosca

/-- The functions drafted so far have JSON data for their configurations. -/
def Drafts.ConfigurationsAreJson (d : Drafts) : Prop :=
  ∀ f ∈ d.functions, f.vnfd.ConfigurationIsJson

theorem isJson_of_configurationOf {name : String} {properties : Value.Entries}
    {configuration : Option Value} (read : configurationOf name properties = .ok configuration) :
    ∀ value ∈ configuration, value.IsJson := by
  rw [configurationOf] at read
  cases given : properties.get? "vnf_configuration" with
  | none =>
    simp only [given] at read
    obtain rfl := Except.ok.inj read
    simp
  | some value =>
    cases form : value.toOpaque with
    | error fault => simp [given, form] at read
    | ok data =>
      obtain rfl : some data = configuration := by simpa [given, form] using read
      rintro _ ⟨⟩
      exact Value.isJson_of_toOpaque form

namespace Drafts.ConfigurationsAreJson

variable {s : Surroundings} {name : String} {node : NodeTemplate} {d d' : Drafts}
  (json : d.ConfigurationsAreJson)
include json

theorem function (added : addFunction s name node d = .ok d') : d'.ConfigurationsAreJson := by
  obtain ⟨id, drawn, taken, -⟩ := idOf_eq s node.properties d
  simp only [addFunction, taken, bind_eq_ok, pure_eq_ok] at added
  obtain ⟨configuration, given, ⟨claimed, _⟩, ran, mgmt, -, index, -, rfl⟩ := added
  obtain ⟨-, machines, rfl, -⟩ := claimMachines_keeps ran
  intro f member
  rcases List.mem_append.mp member with old | new
  · exact json f old
  · obtain rfl := List.mem_singleton.mp new
    exact isJson_of_configurationOf given

theorem point (added : addPoint s name node d = .ok d') : d'.ConfigurationsAreJson := by
  obtain ⟨machine, -, -, owner, links, -, -, -, -, rfl⟩ := addPoint_ok added
  intro f member
  obtain ⟨place, inside, rfl⟩ := List.mem_iff_getElem.mp member
  have inside : place < d.functions.length := by simpa using inside
  have before : d.functions[place].vnfd.ConfigurationIsJson := json _ (List.getElem_mem inside)
  rw [List.getElem_modify]
  split
  · exact before
  · exact before

theorem step {item : WorkItem} (does : item.Does s d d') : d'.ConfigurationsAreJson := by
  cases does with
  | link added =>
    obtain ⟨vld, drawn, -, rfl⟩ := addLink_ok added
    exact json
  | machine added =>
    obtain ⟨m, drawn, -, -, -, -, -, rfl⟩ := addMachine_ok added
    exact json
  | function added => exact json.function added
  | point added => exact json.point added
  | other _ _ _ functions =>
    rw [Drafts.ConfigurationsAreJson, functions]
    exact json

end Drafts.ConfigurationsAreJson

/-- The configurations in the descriptors of an accepted template are JSON data. -/
theorem configurationsAreJson_of_serviceOf {freshId : Nat → String} {options : Options}
    {template : Template} {service : Service}
    (accepted : serviceOf freshId options template = .ok service) :
    service.descriptors.ConfigurationsAreJson := by
  rw [serviceOf] at accepted
  split at accepted
  · cases accepted
  · next resolved _ =>
    simp only [translate, bind_eq_ok] at accepted
    obtain ⟨work, -, d, ran, assembled⟩ := accepted
    have json : d.ConfigurationsAreJson :=
      runWork_induction (fun _ d => d.ConfigurationsAreJson)
        (by simp [Drafts.ConfigurationsAreJson])
        (fun _ _ _ _ _ _ kept does => kept.step does) ran
    obtain ⟨indices, assembled⟩ := assemble_ok assembled
    intro vnfd member
    have member : vnfd ∈ vnfdsOf d.functions := assembled.vnfds ▸ member
    have drafted := DescriptorSet.mem_of_mem_appendNew Vnfd.id member
    obtain ⟨f, inDrafts, rfl⟩ := List.mem_map.mp (by simpa using drafted)
    exact json f inDrafts

/-- The functions of an accepted template have distinct ids. -/
theorem nodup_ids_of_serviceOf {freshId : Nat → String} {options : Options}
    {template : Template} {service : Service}
    (accepted : serviceOf freshId options template = .ok service) :
    (service.vnfds.map (·.id)).Nodup := by
  rw [serviceOf] at accepted
  split at accepted
  · cases accepted
  · simp only [translate, bind_eq_ok] at accepted
    obtain ⟨_, -, d, -, assembled⟩ := accepted
    obtain ⟨indices, assembled⟩ := assemble_ok assembled
    rw [assembled.vnfds]
    exact DescriptorSet.nodup_map_id_appendNew Vnfd.id (by simp) _

end NfvCatalog.Translation

/-! ## Files -/

namespace NfvCatalog

namespace DescriptorSet

/-- A file that is read as text and whose name tells its notation is loaded as that text says. -/
theorem load_eq {tree : FileTree} {path text : String} {format : Format} {set : DescriptorSet}
    (held : tree.readText path = .ok text) (named : Format.ofPath? path = some format)
    (parsed : parse format text = .ok set) : load tree path = .ok set := by
  rw [load, held]
  simp only [named, Option.getD_some, parsed]

/-- Files that are loaded one by one are merged in order. -/
theorem loadAll_eq {tree : FileTree} {paths : List String} {sets : List DescriptorSet}
    (loaded : List.Forall₂ (fun path set => load tree path = .ok set) paths sets) :
    loadAll tree paths = .ok (sets.foldl merge {}) := by
  rw [loadAll]
  generalize ({} : DescriptorSet) = done
  induction loaded generalizing done with
  | nil => rfl
  | @cons path set paths sets first _ ih =>
    rw [List.foldlM_cons, first]
    exact ih (done.merge set)

/-- Files with the texts of documents are loaded as these. -/
theorem loaded_of_texts {tree : FileTree} {format : Format} {paths : List String}
    {sets : List DescriptorSet}
    (held : List.Forall₂ (fun set path => tree.readText path = .ok (print format set) ∧
      Format.ofPath? path = some format) sets paths)
    (parsed : ∀ set ∈ sets, parse format (print format set) = .ok set.withoutNulls) :
    List.Forall₂ (fun path set => load tree path = .ok set) paths (sets.map withoutNulls) := by
  induction held with
  | nil => exact .nil
  | cons first _ ih =>
    obtain ⟨own, others⟩ := List.forall_mem_cons.mp parsed
    exact .cons (load_eq first.1 first.2 own) (ih others)

end DescriptorSet

namespace Translation

open Tosca

/-- The documents that a service is written as. -/
def Service.documents (service : Service) : List DescriptorSet :=
  service.vnfds.map (fun vnfd => { vnfds := [vnfd] }) ++ [{ nsds := [service.nsd] }]

theorem map_text_items (service : Service) (format : Format) :
    (service.items format).map (·.text) = service.documents.map (DescriptorSet.print format) := by
  simp only [Service.items, Service.documents, List.map_append, List.map_map]
  rfl

/-- A document of an accepted service is read without its null configuration. -/
theorem parse_document {service : Service} {format : Format}
    (json : service.descriptors.ConfigurationsAreJson) {set : DescriptorSet}
    (member : set ∈ service.documents) (back : format.GivesBack set.toValue) :
    DescriptorSet.parse format (DescriptorSet.print format set) = .ok set.withoutNulls := by
  rcases List.mem_append.mp member with function | network
  · obtain ⟨vnfd, inService, rfl⟩ := List.mem_map.mp function
    have own : DescriptorSet.ConfigurationsAreJson { vnfds := [vnfd] } := by
      intro other isOwn
      obtain rfl := List.mem_singleton.mp isOwn
      exact json other inService
    exact (DescriptorSet.parse_print_eq own back).trans rfl
  · obtain rfl := List.mem_singleton.mp network
    have own : DescriptorSet.ConfigurationsAreJson { nsds := [service.nsd] } := by
      intro vnfd isOwn
      cases isOwn
    exact (DescriptorSet.parse_print_eq own back).trans rfl

/-- The documents of a service with distinct functions are merged to its descriptors. -/
theorem merge_documents {service : Service} (distinct : (service.vnfds.map (·.id)).Nodup) :
    (service.documents.map DescriptorSet.withoutNulls).foldl DescriptorSet.merge {} =
      service.descriptors.withoutNulls := by
  have nsds : (service.documents.map DescriptorSet.withoutNulls).flatMap (·.nsds) =
      [service.nsd] := by
    simp [Service.documents, DescriptorSet.withoutNulls, Function.comp_def]
  have vnfds : (service.documents.map DescriptorSet.withoutNulls).flatMap (·.vnfds) =
      service.vnfds.map Vnfd.withoutNull := by
    simp [Service.documents, DescriptorSet.withoutNulls, List.flatMap_map, ← List.map_eq_flatMap]
  have ids : ((service.vnfds.map Vnfd.withoutNull).map Vnfd.id).Nodup := by
    rw [List.map_map]
    exact distinct
  rw [DescriptorSet.foldl_merge_of_distinct (by simp [nsds]) (by rwa [vnfds]), nsds, vnfds]
  rfl

/-- A service that was translated, written and loaded again has the same descriptors, but for
configurations that are null. So nothing is lost exactly if no configuration is null. -/
theorem loadAll_of_write {freshId : Nat → String} {options : Options} {template : Template}
    {service : Service} {format : Format} {tree after : FileTree} {target source : String}
    {paths : List String} (accepted : serviceOf freshId options template = .ok service)
    (written : service.write tree target source { format := format } = (after, .ok paths))
    (back : ∀ set ∈ service.documents, format.GivesBack set.toValue) :
    DescriptorSet.loadAll after paths = .ok service.descriptors.withoutNulls ∧
      (DescriptorSet.loadAll after paths = .ok service.descriptors ↔
        ∀ vnfd ∈ service.vnfds, vnfd.configuration ≠ some .null) := by
  have loaded : DescriptorSet.loadAll after paths = .ok service.descriptors.withoutNulls := by
    have json := configurationsAreJson_of_serviceOf accepted
    rw [Service.write] at written
    split at written
    · cases written
    · next start _ =>
      have texts : List.Forall₂ (fun text path => after.readText path = .ok text ∧
          Format.ofPath? path = some format) ((service.items format).map (·.text)) paths :=
        List.forall₂_map_left_iff.mpr (texts_of_writeItems rfl written)
      rw [map_text_items, List.forall₂_map_left_iff] at texts
      have each := DescriptorSet.loaded_of_texts texts fun set member =>
        parse_document json member (back set member)
      rw [DescriptorSet.loadAll_eq each, merge_documents (nodup_ids_of_serviceOf accepted)]
  refine ⟨loaded, ?_⟩
  rw [loaded, Except.ok.injEq]
  exact DescriptorSet.withoutNulls_eq_self_iff

/-- A template of one function with a configuration. -/
def configuredTemplate : Template :=
  { version := profileVersion
    metadata := [(.string "ID", .string "pair")]
    topology :=
      { nodes := .ofList [
          ("ping", {
            nodeType := "tosca.nodes.nfv.VNF"
            properties := [
              (.string "id", .string "ping"),
              (.string "vnf_configuration", .ofFields [("retries", .ofNat 3)])] })] } }

/-- The service that the template translates to. -/
def configuredService : Service :=
  { nsd := { id := "pair", name := "pair", constituents := [{ index := 1, vnfd := "ping" }] }
    vnfds := [{
      id := "ping", name := "ping"
      configuration := some (.ofFields [("retries", .ofNat 3)]) }] }

/-- What its function is drafted as. -/
def configuredDrafts : Drafts :=
  { functions := [{ node := "ping", vnfd := configuredService.vnfds[0] }] }

theorem configuredTemplate_accepted :
    serviceOf (fun _ => "") {} configuredTemplate = .ok configuredService := by
  let item : WorkItem :=
    { name := "ping", entity := (Entity.ofTopology configuredTemplate.topology)[0].2
      resource := .vnf }
  have resolved : configuredTemplate.resolveInputs [] = .ok configuredTemplate :=
    toOption_eq_some.mp (by decide +kernel)
  have made : workOf configuredTemplate false (Entity.ofTopology configuredTemplate.topology) =
      .ok [item] := toOption_eq_some.mp (by decide +kernel)
  have phases : nodePhases [item] = [("ping", .vnf)] := by decide +kernel
  have ran : runWork ⟨configuredTemplate, [("ping", .vnf)], fun _ => ""⟩ [item] { } =
      .ok configuredDrafts := toOption_eq_some.mp (by decide +kernel)
  rw [serviceOf, resolved]
  simp only [translate, made, ok_bind, inPhases, List.mergeSort_singleton]
  rw [phases, ran, ok_bind, assemble]
  simp only [configuredDrafts, List.mergeSort_nil]
  decide +kernel

/-- The service is written to two files, and these are loaded as its descriptors. -/
theorem configuredService_loads :
    serviceOf (fun _ => "") {} configuredTemplate = .ok configuredService ∧
      (configuredService.write {} "out" "" { format := .yaml }).2 =
        .ok ["out/ping_vnfd.yaml", "out/pair_nsd.yaml"] ∧
      DescriptorSet.loadAll (configuredService.write {} "out" "" { format := .yaml }).1
        ["out/ping_vnfd.yaml", "out/pair_nsd.yaml"] = .ok configuredService.descriptors := by
  have written : (configuredService.write {} "out" "" { format := .yaml }).2 =
      .ok ["out/ping_vnfd.yaml", "out/pair_nsd.yaml"] :=
    toOption_eq_some.mp (by decide +kernel)
  have back : ∀ set ∈ configuredService.documents, Format.yaml.GivesBack set.toValue := by
    refine List.forall_mem_cons.mpr ⟨?function, List.forall_mem_singleton.mpr ?service⟩
    case function =>
      have chars : String.ofList _ = "vnfd:vnfd-catalog:\n  vnfd:\n  - id: ping\n" ++
          "    name: ping\n    vnf-configuration:\n      retries: 3\n" :=
        Yaml.ofList_eq_append rfl rfl
      exact Format.yaml_givesBack chars (by decide +kernel) (by decide +kernel)
    case service =>
      have chars : String.ofList _ = "nsd:nsd-catalog:\n  nsd:\n  - id: pair\n    name: pair\n" ++
          "    constituent-vnfd:\n    - member-vnf-index: 1\n      vnfd-id-ref: ping\n" :=
        Yaml.ofList_eq_append rfl rfl
      exact Format.yaml_givesBack chars (by decide +kernel) (by decide +kernel)
  have plain : ∀ vnfd ∈ configuredService.vnfds, vnfd.configuration ≠ some .null := by decide
  refine ⟨configuredTemplate_accepted, written, ?_⟩
  generalize run : configuredService.write {} "out" "" { format := .yaml } = result at written ⊢
  obtain ⟨after, outcome⟩ := result
  obtain rfl : outcome = .ok _ := written
  exact (loadAll_of_write configuredTemplate_accepted run back).2.mpr plain

end Translation

end NfvCatalog
