import Mathlib.Algebra.Group.Nat.Defs
import NfvCatalog.Proofs.Outcome
import NfvCatalog.Proofs.Tosca.Size
import NfvCatalog.Proofs.Translation.Work
import NfvCatalog.Translation.Function
import NfvCatalog.Translation.Policies
import NfvCatalog.Translation.Profile

/-! # Links and machines that come back

The node of a link becomes the link without its references. The node of a machine becomes the
machine without its interfaces, if the sizes in its flavor are small enough to be counted in bytes;
otherwise it is refused.
-/

/-! ## Properties that were written

The readers of properties give back what the writers of the profile put there: a text, a number of
32 bits, a port or a truth value is read as itself, and a property that was left out as none.
-/

namespace NfvCatalog.Translation

open Tosca

/-! ### Places of properties -/

@[simp] theorem get?_properties_nil (key : String) : (properties []).get? key = none := rfl

@[simp] theorem get?_properties_cons (name : String) (value : Option Value)
    (rest : List (String × Option Value)) (key : String) :
    (properties ((name, value) :: rest)).get? key =
      if name = key then value.or ((properties rest).get? key)
      else (properties rest).get? key := by
  cases value with
  | none => simp [properties]
  | some value =>
    by_cases same : name = key <;> simp [properties, Value.Entries.get?, same]

theorem get?_append (front back : Value.Entries) (key : String) :
    Value.Entries.get? (front ++ back) key = (front.get? key).or (back.get? key) := by
  simp only [Value.Entries.get?, List.find?_append, Option.map_or]

theorem get?_capabilityPart (name key : String) (entries : Value.Entries) :
    Value.Entries.get? (capabilityPart name entries) key =
      if name = key ∧ entries ≠ [] then some (.mapping entries) else none := by
  cases entries with
  | nil => simp [capabilityPart, Value.Entries.get?]
  | cons entry rest => by_cases same : name = key <;>
      simp [capabilityPart, Value.Entries.get?, same]

/-! ### Kinds of properties -/

@[simp] theorem scalarText?_string (text : String) :
    (Value.string text).scalarText? = some text := rfl

@[simp] theorem scalarText?_textProperty (value : Option String) :
    (textProperty value).bind Value.scalarText? = value := by
  cases value <;> rfl

@[simp] theorem asTruth?_map_bool (value : Option Bool) :
    (value.map Value.bool).bind Value.asTruth? = value := by
  cases value <;> rfl

/-- A whole number that fits into a word is read as that word. -/
private theorem asWord?_ofNat {n : Nat} (fits : n < UInt64.size) :
    (Value.ofNat n).asWord? = some (UInt64.ofNat n) := by
  have bound : (n : Int) < UInt64.size := by exact_mod_cast fits
  simp only [Value.ofNat, Value.asWord?, Number.word?]
  rw [if_pos ⟨Int.natCast_nonneg n, bound⟩, Int.toNat_natCast]

private theorem toNat_ofNat {n : Nat} (fits : n < UInt64.size) : (UInt64.ofNat n).toNat = n :=
  Nat.mod_eq_of_lt fits

private theorem asWord?_wordValue (n : UInt32) :
    ∃ word, (wordValue n).asWord? = some word ∧ word.toNat < UInt32.size ∧ word.toUInt32 = n := by
  have bound : n.toNat < UInt32.size := n.toNat_lt_size
  have fits : n.toNat < UInt64.size := Nat.lt_trans bound (by decide)
  refine ⟨UInt64.ofNat n.toNat, asWord?_ofNat fits, by rwa [toNat_ofNat fits], ?_⟩
  rw [← UInt32.toNat_inj, UInt64.toNat_toUInt32, toNat_ofNat fits]
  exact Nat.mod_eq_of_lt bound

private theorem asWord?_portValue (n : UInt16) :
    ∃ word, (portValue n).asWord? = some word ∧ word.toNat < UInt16.size ∧ word.toUInt16 = n := by
  have bound : n.toNat < UInt16.size := n.toNat_lt_size
  have fits : n.toNat < UInt64.size := Nat.lt_trans bound (by decide)
  refine ⟨UInt64.ofNat n.toNat, asWord?_ofNat fits, by rwa [toNat_ofNat fits], ?_⟩
  rw [← UInt16.toNat_inj, UInt64.toNat_toUInt16, toNat_ofNat fits]
  exact Nat.mod_eq_of_lt bound

private theorem wholeProperty?_of_asWord? {entries : Value.Entries} {key : String} {value : Value}
    {word : UInt64} (written : entries.get? key = some value) (read : value.asWord? = some word)
    (small : word.toNat < UInt32.size) (entity : String) :
    wholeProperty? entries entity key = .ok (some word.toUInt32) := by
  cases value with
  | null => cases read
  | _ => simp only [wholeProperty?, written, read, if_pos small]

theorem wholeProperty?_of_get? {entries : Value.Entries} {key : String} {value : Option UInt32}
    (written : entries.get? key = value.map wordValue) (entity : String) :
    wholeProperty? entries entity key = .ok value := by
  cases value with
  | none => simp [wholeProperty?, written]
  | some n =>
    obtain ⟨word, read, small, rfl⟩ := asWord?_wordValue n
    exact wholeProperty?_of_asWord? written read small entity

private theorem portProperty?_of_asWord? {entries : Value.Entries} {key : String} {value : Value}
    {word : UInt64} (written : entries.get? key = some value) (read : value.asWord? = some word)
    (small : word.toNat < UInt16.size) (entity : String) :
    portProperty? entries entity key = .ok (some word.toUInt16) := by
  simp only [portProperty?, written, read, if_pos small]

theorem portProperty?_of_get? {entries : Value.Entries} {key : String} {value : Option UInt16}
    (written : entries.get? key = value.map portValue) (entity : String) :
    portProperty? entries entity key = .ok value := by
  cases value with
  | none => simp [portProperty?, written]
  | some n =>
    obtain ⟨word, read, small, rfl⟩ := asWord?_portValue n
    exact portProperty?_of_asWord? written read small entity

private theorem countOf_of_asWord? {value : Value} {word : UInt64}
    (read : value.asWord? = some word) (small : word.toNat < UInt32.size) (entity key : String) :
    countOf value entity key = .ok word.toUInt32 := by
  simp only [countOf, read, if_pos small]

theorem countOf_wordValue (n : UInt32) (entity key : String) :
    countOf (wordValue n) entity key = .ok n := by
  obtain ⟨word, read, small, same⟩ := asWord?_wordValue n
  rw [countOf_of_asWord? read small, same]

private theorem scaledCount_of_asWord? {number : Number} {word : UInt64}
    (read : (Value.number number).asWord? = some word) (small : word.toNat < UInt32.size)
    (policy : String) :
    scaledCount policy (.number number) = .ok word.toUInt32 := by
  have whole : number.word? = some word := read
  simp only [scaledCount, whole, if_pos small]

theorem scaledCount_wordValue (n : UInt32) (policy : String) :
    scaledCount policy (wordValue n) = .ok n := by
  obtain ⟨word, read, small, same⟩ := asWord?_wordValue n
  have counted := scaledCount_of_asWord? read small policy
  rwa [same] at counted

end NfvCatalog.Translation

/-! ## Nodes -/

namespace NfvCatalog

/-- The sizes in a flavor fit into a word when they are counted in bytes. -/
structure VmFlavor.SizesFit (flavor : VmFlavor) : Prop where
  memory : ∀ mb ∈ flavor.memoryMb, mb.toNat * Tosca.SizeUnit.mb.bytes < UInt64.size
  storage : ∀ gb ∈ flavor.storageGb, gb.toNat * Tosca.SizeUnit.gb.bytes < UInt64.size

/-- The sizes in a machine's flavor, if it has one, fit into a word. -/
def Vdu.SizesFit (vdu : Vdu) : Prop := ∀ flavor ∈ vdu.flavor, flavor.SizesFit

end NfvCatalog

namespace NfvCatalog.Translation

open Tosca

theorem idOf_of_text? {entries : Value.Entries} {id : String}
    (written : entries.text? "id" = some id)
    (s : Surroundings) (d : Drafts) : d.idOf s entries = (id, d) := by
  simp [Drafts.idOf, written]

/-! ### Links -/

/-- The draft of a link before any connection point joins it. -/
def linkDraft (link : String × Vld) : LinkDraft :=
  { node := link.1, vld := restoredLink link.2 }

private theorem providerOf_linkNode (entity : String) (vld : Vld) :
    providerOf entity (linkNode vld).properties = .ok (restoredProvider vld.provider) := by
  have segmentation : wholeProperty? (linkNode vld).properties entity "segmentation_id" =
      .ok (vld.provider.bind (·.segmentation)) :=
    wholeProperty?_of_get? (by simp [linkNode]) entity
  rw [providerOf, segmentation]
  cases provider : vld.provider with
  | none => simp [linkNode, restoredProvider, Value.Entries.text?, provider]
  | some p =>
    rw [restoredProvider, Option.map_some, filter_ne_some]
    simp [linkNode, Value.Entries.text?, provider]

theorem addLink_linkNode (s : Surroundings) (entity : String) (vld : Vld) (d : Drafts) :
    addLink s entity (linkNode vld) d =
      .ok { d with links := d.links ++ [linkDraft (entity, vld)] } := by
  have id : d.idOf s (linkNode vld).properties = (vld.id, d) :=
    idOf_of_text? (by simp [linkNode, Value.Entries.text?]) s d
  have linkType : (((linkNode vld).properties.text? "type").or
      ((linkNode vld).properties.text? "vld_type")).getD (defaultLinkType (linkNode vld).nodeType) =
        vld.linkType.getD "ELAN" := by
    cases given : vld.linkType with
    | none =>
      have plain : defaultLinkType "tosca.nodes.nfv.VL.ELAN" = "ELAN" := by decide
      simp [linkNode, Value.Entries.text?, given, plain]
    | some given => simp [linkNode, Value.Entries.text?, given]
  simp only [addLink, providerOf_linkNode, id, ok_bind, linkType]
  simp [linkNode, linkDraft, restoredLink, Value.Entries.text?, nameOf, descriptionOf]

/-! ### Compute requirements -/

/-- A property of a capability is found behind the capability's name, and nothing is found when the
capability is left out for being empty. -/
private theorem follow?_capability {sections inner : Value.Entries} {name : String}
    (written : sections.get? name = if inner = [] then none else some (.mapping inner))
    (key : String) : sections.follow? [name, key] = inner.get? key := by
  cases inner with
  | nil =>
    have absent : sections.get? name = none := by simpa using written
    simp only [Value.Entries.follow?, Value.Entries.mapping?, absent]
    rfl
  | cons entry rest =>
    have present : sections.get? name = some (.mapping (entry :: rest)) := by simpa using written
    simp only [Value.Entries.follow?, Value.Entries.mapping?, present]
    rfl

private theorem lookup?_cpu (vdu : Vdu) (key : String) :
    (computeSections vdu).follow? ["virtual_cpu", key] =
      (properties [
        ("num_virtual_cpu", (vdu.flavor.getD { }).vcpus.map wordValue),
        ("cpu_pinning_policy", textProperty (vdu.epa.getD { }).cpuPinning)]).get? key :=
  follow?_capability (by simp [computeSections, get?_append, get?_capabilityPart]) key

private theorem lookup?_memory (vdu : Vdu) (key : String) :
    (computeSections vdu).follow? ["virtual_memory", key] =
      (properties [
        ("virtual_mem_size", (vdu.flavor.getD { }).memoryMb.map fun mb => .string (formatMb mb)),
        ("mem_page_size", textProperty (vdu.epa.getD { }).mempageSize)]).get? key :=
  follow?_capability (by simp [computeSections, get?_append, get?_capabilityPart]) key

private theorem lookup?_storage (vdu : Vdu) (key : String) :
    (computeSections vdu).follow? ["virtual_storage", key] =
      (properties [
        ("size_of_storage",
          (vdu.flavor.getD { }).storageGb.map fun gb => .string (formatGb gb))]).get? key :=
  follow?_capability (by simp [computeSections, get?_append, get?_capabilityPart]) key

section Sizes

variable (written : UInt64 → Value) (read : Value → Except TranslationError UInt64)
  {unit : SizeUnit} {refusal : UInt64 → TranslationError}
  (sized : ∀ n, read (written n) =
    if n.toNat * unit.bytes < UInt64.size then .ok n else .error (refusal n))
include sized

/-- A size that is set is read back if it fits, and one that is not set always. -/
private theorem readOptional_size (value result : Option UInt64) :
    readOptional (value.map written) read = .ok result ↔
      (∀ n ∈ value, n.toNat * unit.bytes < UInt64.size) ∧ result = value := by
  cases value with
  | none => simp [readOptional, eq_comm]
  | some n =>
    rw [Option.map_some, readOptional, sized]
    by_cases small : n.toNat * unit.bytes < UInt64.size <;> simp [small, Except.map, eq_comm]

private theorem readOptional_size_error {value : Option UInt64} {error : TranslationError}
    (refused : readOptional (value.map written) read = .error error) :
    ∃ n, value = some n ∧ UInt64.size ≤ n.toNat * unit.bytes ∧ error = refusal n := by
  cases value with
  | none => cases refused
  | some n =>
    rw [Option.map_some, readOptional, map_eq_error, sized] at refused
    by_cases small : n.toNat * unit.bytes < UInt64.size
    · simp [small] at refused
    · rw [if_neg small] at refused
      exact ⟨n, rfl, Nat.le_of_not_lt small, (Except.error.inj refused).symm⟩

end Sizes

private theorem readOptional_count (value : Option UInt32) (entity key : String) :
    readOptional (value.map wordValue) (countOf · entity key) = .ok value := by
  cases value with
  | none => rfl
  | some n => rw [Option.map_some, readOptional, countOf_wordValue, Except.map]

/-- Of the flavor of a machine, the sizes have to be read. -/
private theorem virtualFlavor_computeSections_eq (vdu : Vdu) (entity : String) :
    virtualFlavor (computeSections vdu) entity = (do
      let memory ← readOptional
        ((vdu.flavor.getD { }).memoryMb.map fun mb => .string (formatMb mb))
        (sizeIn · .mb entity "virtual_mem_size")
      let storage ← readOptional
        ((vdu.flavor.getD { }).storageGb.map fun gb => .string (formatGb gb))
        (sizeIn · .gb entity "size_of_storage")
      return {
        vcpus := (vdu.flavor.getD { }).vcpus, memoryMb := memory, storageGb := storage }) := by
  have vcpus := readOptional_count (vdu.flavor.getD { }).vcpus entity "num_virtual_cpu"
  have cpuPath : Text.split '.' "virtual_cpu.num_virtual_cpu" =
    ["virtual_cpu", "num_virtual_cpu"] := by decide
  have memoryPath : Text.split '.' "virtual_memory.virtual_mem_size" =
    ["virtual_memory", "virtual_mem_size"] := by decide
  have storagePath : Text.split '.' "virtual_storage.size_of_storage" =
    ["virtual_storage", "size_of_storage"] := by decide
  simp only [virtualFlavor, Value.Entries.lookup?, cpuPath, memoryPath, storagePath, lookup?_cpu,
    lookup?_memory, lookup?_storage, get?_properties_cons, get?_properties_nil, reduceIte,
    String.reduceEq, Option.or_none, vcpus, ok_bind]

private theorem virtualFlavor_computeSections (vdu : Vdu) (entity : String) (flavor : VmFlavor) :
    virtualFlavor (computeSections vdu) entity = .ok flavor ↔
      (vdu.flavor.getD { }).SizesFit ∧ flavor = vdu.flavor.getD { } := by
  have memory := readOptional_size (fun mb => .string (formatMb mb))
    (sizeIn · .mb entity "virtual_mem_size")
    (fun n => sizeIn_formatMb n entity "virtual_mem_size") (vdu.flavor.getD { }).memoryMb
  have storage := readOptional_size (fun gb => .string (formatGb gb))
    (sizeIn · .gb entity "size_of_storage")
    (fun n => sizeIn_formatGb n entity "size_of_storage") (vdu.flavor.getD { }).storageGb
  simp only [virtualFlavor_computeSections_eq, memory, storage, bind_eq_ok, pure_eq_ok]
  constructor
  · rintro ⟨_, ⟨memoryFits, rfl⟩, _, ⟨storageFits, rfl⟩, rfl⟩
    exact ⟨⟨memoryFits, storageFits⟩, rfl⟩
  · rintro ⟨⟨memoryFits, storageFits⟩, rfl⟩
    exact ⟨_, ⟨memoryFits, rfl⟩, _, ⟨storageFits, rfl⟩, rfl⟩

/-- The error of a machine with a size that cannot be counted in bytes. It names the size. -/
inductive Oversized (entity : String) (vdu : Vdu) : TranslationError → Prop
  | memory {flavor : VmFlavor} {mb : UInt64} (given : vdu.flavor = some flavor)
    (size : flavor.memoryMb = some mb) (large : 2 ^ 64 ≤ mb.toNat * 10 ^ 6) :
    Oversized entity vdu
      (.invalidProperty entity "virtual_mem_size" (.notSize (.invalidSize (formatMb mb))))
  | storage {flavor : VmFlavor} {gb : UInt64} (given : vdu.flavor = some flavor)
    (size : flavor.storageGb = some gb) (large : 2 ^ 64 ≤ gb.toNat * 10 ^ 9) :
    Oversized entity vdu
      (.invalidProperty entity "size_of_storage" (.notSize (.invalidSize (formatGb gb))))

private theorem virtualFlavor_computeSections_error {vdu : Vdu} {entity : String}
    {error : TranslationError}
    (refused : virtualFlavor (computeSections vdu) entity = .error error) :
    Oversized entity vdu error := by
  have given {n : UInt64} {size : VmFlavor → Option UInt64} (unset : size { } = none)
      (set : size (vdu.flavor.getD { }) = some n) :
      ∃ flavor, vdu.flavor = some flavor ∧ size flavor = some n := by
    cases flavor : vdu.flavor with
    | none => simp [flavor, unset] at set
    | some flavor' => exact ⟨flavor', rfl, by simpa [flavor] using set⟩
  rw [virtualFlavor_computeSections_eq, bind_eq_error] at refused
  rcases refused with refused | ⟨memory, -, refused⟩
  · obtain ⟨mb, set, large, rfl⟩ :=
      readOptional_size_error (fun mb => .string (formatMb mb))
        (sizeIn · .mb entity "virtual_mem_size")
        (fun n => sizeIn_formatMb n entity "virtual_mem_size") refused
    obtain ⟨flavor, given, size⟩ := @given mb VmFlavor.memoryMb rfl set
    exact .memory given size large
  · rcases bind_eq_error.mp refused with refused | ⟨storage, -, refused⟩
    · obtain ⟨gb, set, large, rfl⟩ :=
        readOptional_size_error (fun gb => .string (formatGb gb))
          (sizeIn · .gb entity "size_of_storage")
          (fun n => sizeIn_formatGb n entity "size_of_storage") refused
      obtain ⟨flavor, given, size⟩ := @given gb VmFlavor.storageGb rfl set
      exact .storage given size large
    · cases refused

private theorem virtualEpa_computeSections (vdu : Vdu) :
    virtualEpa (computeSections vdu) =
      { cpuPinning := (vdu.epa.getD { }).cpuPinning.map Text.asciiUpper
        mempageSize := (vdu.epa.getD { }).mempageSize.map Text.asciiUpper } := by
  have upper (text : Option String) :
      (textProperty text).bind upperText = text.map Text.asciiUpper := by
    cases text <;> rfl
  have cpuPath : Text.split '.' "virtual_cpu.cpu_pinning_policy" =
    ["virtual_cpu", "cpu_pinning_policy"] := by decide
  have memoryPath : Text.split '.' "virtual_memory.mem_page_size" =
    ["virtual_memory", "mem_page_size"] := by decide
  simp only [virtualEpa, Value.Entries.lookup?, cpuPath, memoryPath, lookup?_cpu, lookup?_memory,
    get?_properties_cons, get?_properties_nil, reduceIte, String.reduceEq, Option.or_none, upper]

/-- The capability of a machine, which is left out when there is nothing in it. -/
private theorem capability_machineNode (vdu : Vdu) :
    (machineNode vdu).capabilities.get? "virtual_compute" =
      if computeSections vdu = [] then none else some ⟨computeSections vdu⟩ := by
  cases sections : computeSections vdu <;>
    simp [machineNode, sections, OrderedMap.get?]

/-- The older capabilities of a machine are not written. -/
private theorem olderCapability_machineNode (vdu : Vdu) :
    ((machineNode vdu).capabilities.get? "nfv_compute").or
      ((machineNode vdu).capabilities.get? "host") = none := by
  cases sections : computeSections vdu <;> simp [machineNode, sections, OrderedMap.get?]

/-- Reading an empty capability gives what reading none gives. -/
private theorem computeOf_machineNode_eq (vdu : Vdu) (entity : String) :
    computeOf entity (machineNode vdu) =
      (virtualFlavor (computeSections vdu) entity).map fun flavor =>
        ((if flavor = { } then none else some flavor),
          (if (virtualEpa (computeSections vdu)).isEmpty then none
            else some (virtualEpa (computeSections vdu)))) := by
  rw [computeOf, capability_machineNode, olderCapability_machineNode]
  by_cases empty : computeSections vdu = []
  · have nothing : virtualFlavor [] entity = .ok { } := rfl
    have none_said : virtualEpa [] = { } := rfl
    simp [empty, nothing, none_said, Except.map, pure, Except.pure]
  · rw [if_neg empty]
    cases read : virtualFlavor (computeSections vdu) entity <;> simp only [read] <;> rfl

private theorem computeOf_machineNode (vdu : Vdu) (entity : String)
    (result : Option VmFlavor × Option GuestEpa) :
    computeOf entity (machineNode vdu) = .ok result ↔
      vdu.SizesFit ∧ result = (restoredFlavor vdu.flavor, restoredEpa vdu.epa) := by
  have fits : (vdu.flavor.getD { }).SizesFit ↔ vdu.SizesFit := by
    cases flavor : vdu.flavor with
    | none => simpa [Vdu.SizesFit, flavor] using (⟨by simp, by simp⟩ : VmFlavor.SizesFit { })
    | some flavor' => simp [Vdu.SizesFit, flavor]
  have flavor : (if vdu.flavor.getD { } = { } then none else some (vdu.flavor.getD { })) =
      restoredFlavor vdu.flavor := by
    rw [restoredFlavor]
    cases vdu.flavor with
    | none => rfl
    | some flavor => rw [filter_ne_some]; rfl
  have epa : (if (virtualEpa (computeSections vdu)).isEmpty then none
      else some (virtualEpa (computeSections vdu))) = restoredEpa vdu.epa := by
    have said (epa : GuestEpa) : epa.isEmpty = true ↔ epa = { } := by
      cases epa
      simp [GuestEpa.isEmpty]
    simp only [virtualEpa_computeSections, restoredEpa, said]
    cases vdu.epa with
    | none => rfl
    | some epa => rw [Option.map_some, filter_ne_some]; rfl
  rw [computeOf_machineNode_eq, map_eq_ok, epa, ← fits, ← flavor]
  constructor
  · rintro ⟨written, read, rfl⟩
    obtain ⟨sized, rfl⟩ := (virtualFlavor_computeSections vdu entity written).mp read
    exact ⟨sized, rfl⟩
  · rintro ⟨sized, rfl⟩
    exact ⟨_, (virtualFlavor_computeSections vdu entity _).mpr ⟨sized, rfl⟩, rfl⟩

/-! ### Artifacts -/

/-- The files of a machine with what they are for. -/
def machineFiles (vdu : Vdu) : List (ArtifactKind × String) :=
  (vdu.image.map fun file => (ArtifactKind.image, "images/" ++ file)).toList ++
    (vdu.cloudInit.map fun file => (ArtifactKind.cloudInit, "cloud_init/" ++ file)).toList

private theorem machineArtifacts_machineNode (vdu : Vdu) :
    machineArtifacts (machineNode vdu) =
      (imageArtifact vdu).map (fun entry => (ArtifactKind.image, entry.2)) ++
        (cloudInitArtifact vdu).map fun entry => (ArtifactKind.cloudInit, entry.2) := by
  have distinct : ((imageArtifact vdu ++ cloudInitArtifact vdu).map Prod.fst).Nodup := by
    cases image : vdu.image <;> cases cloudInit : vdu.cloudInit <;>
      simp [imageArtifact, cloudInitArtifact, image, cloudInit]
  have imageKind (file : String) (checksum : Option String) :
      artifactKind? "image"
          (.full file (some "tosca.artifacts.Deployment.Image.VM") none checksum) =
        some .image := by
    have prefixed : Text.startsWith "tosca.artifacts.Deployment.Image.VM" imageType = true := by
      decide
    simp [artifactKind?, Artifact.artifactType?, prefixed]
  have cloudInitKind (file : String) :
      artifactKind? "cloud_init"
          (.full file (some "tosca.artifacts.Deployment.CloudInit") none none) =
        some .cloudInit := by
    have other : Text.startsWith "tosca.artifacts.Deployment.CloudInit" imageType = false := by
      decide
    simp [artifactKind?, Artifact.artifactType?, other, cloudInitType]
  rw [machineArtifacts, machineNode, OrderedMap.entries_ofList distinct]
  cases image : vdu.image <;> cases cloudInit : vdu.cloudInit <;>
    simp [imageArtifact, cloudInitArtifact, image, cloudInit, imageKind, cloudInitKind]

/-! ### Machines -/

/-- The draft of a machine, with the place of the VNF that owns it. -/
def machineDraft (owner : Option Nat) (machine : String × Vdu) : MachineDraft :=
  { node := machine.1
    vdu := restoredVdu machine.2
    files := machineFiles machine.2
    owner := owner }

/-- The artifacts of a machine give it back its files. -/
private theorem foldl_withArtifact (vdu : Vdu) :
    (machineArtifacts (machineNode vdu)).foldl
      (fun vdu artifact => withArtifact vdu artifact.1 artifact.2)
      { id := vdu.id, name := vdu.name, description := vdu.description, count := vdu.count
        flavor := restoredFlavor vdu.flavor, epa := restoredEpa vdu.epa } = restoredVdu vdu := by
  rw [machineArtifacts_machineNode]
  cases image : vdu.image <;> cases cloudInit : vdu.cloudInit <;>
    simp [imageArtifact, cloudInitArtifact, image, cloudInit, withArtifact, restoredVdu,
      Artifact.file, Artifact.checksum?]

private theorem files_machineNode (vdu : Vdu) :
    (machineArtifacts (machineNode vdu)).map (fun artifact => (artifact.1, artifact.2.file)) =
      machineFiles vdu := by
  rw [machineArtifacts_machineNode]
  cases image : vdu.image <;> cases cloudInit : vdu.cloudInit <;>
    simp [imageArtifact, cloudInitArtifact, image, cloudInit, machineFiles, Artifact.file]

/-- The node of a machine becomes the machine exactly if its sizes fit. -/
theorem addMachine_machineNode (s : Surroundings) (entity : String) (vdu : Vdu) (d d' : Drafts) :
    addMachine s entity (machineNode vdu) d = .ok d' ↔
      vdu.SizesFit ∧
        d' = { d with machines := d.machines ++ [machineDraft none (entity, vdu)] } := by
  have id : d.idOf s (machineNode vdu).properties = (vdu.id, d) :=
    idOf_of_text? (by simp [machineNode, Value.Entries.text?]) s d
  have count : wholeProperty? (machineNode vdu).properties entity "count" = .ok vdu.count :=
    wholeProperty?_of_get? (by simp [machineNode]) entity
  have plain : plainVdu vdu.id vdu.count entity (machineNode vdu) =
      { id := vdu.id, name := vdu.name, description := vdu.description, count := vdu.count } := by
    simp [plainVdu, machineNode, Value.Entries.text?, nameOf, descriptionOf]
  simp only [addMachine, id, count, ok_bind, bind_eq_ok, computeOf_machineNode, plain,
    files_machineNode, pure_eq_ok]
  constructor
  · rintro ⟨_, ⟨sized, rfl⟩, rfl⟩
    refine ⟨sized, ?_⟩
    rw [foldl_withArtifact]
    rfl
  · rintro ⟨sized, rfl⟩
    refine ⟨_, ⟨sized, rfl⟩, ?_⟩
    rw [foldl_withArtifact]
    rfl

/-- The node of a machine is refused only for its sizes. -/
private theorem addMachine_machineNode_error {s : Surroundings} {entity : String} {vdu : Vdu}
    {d : Drafts} {error : TranslationError}
    (refused : addMachine s entity (machineNode vdu) d = .error error) :
    Oversized entity vdu error := by
  have id : d.idOf s (machineNode vdu).properties = (vdu.id, d) :=
    idOf_of_text? (by simp [machineNode, Value.Entries.text?]) s d
  have count : wholeProperty? (machineNode vdu).properties entity "count" = .ok vdu.count :=
    wholeProperty?_of_get? (by simp [machineNode]) entity
  simp only [addMachine, id, count, ok_bind, computeOf_machineNode_eq] at refused
  rcases bind_eq_error.mp refused with refused | ⟨compute, -, refused⟩
  · exact virtualFlavor_computeSections_error (map_eq_error.mp refused)
  · cases refused

/-! ### Runs -/

/-- The links of a layout are drafted in order. -/
theorem runWork_links (s : Surroundings) (links : NamedLinks) (d : Drafts) :
    runWork s (links.map linkItem) d = .ok { d with links := d.links ++ links.map linkDraft } := by
  induction links generalizing d with
  | nil => simp [runWork]
  | cons link rest ih =>
    have first : (linkItem link).run s d = .ok { d with links := d.links ++ [linkDraft link] } :=
      addLink_linkNode s link.1 link.2 d
    simp [runWork, first, ih]

/-- Machines are drafted in order exactly if the sizes of all of them fit. -/
theorem runWork_machines (s : Surroundings) (machines : List (String × Vdu)) (d d' : Drafts) :
    runWork s (machines.map machineItem) d = .ok d' ↔
      (∀ machine ∈ machines, machine.2.SizesFit) ∧
        d' = { d with machines := d.machines ++ machines.map (machineDraft none) } := by
  induction machines generalizing d with
  | nil => simp [runWork, eq_comm]
  | cons machine rest ih =>
    have first : ∀ between, (machineItem machine).run s d = .ok between ↔ machine.2.SizesFit ∧
        between = { d with machines := d.machines ++ [machineDraft none machine] } :=
      addMachine_machineNode s machine.1 machine.2 d
    simp only [List.map_cons, runWork, bind_eq_ok, first, ih, List.forall_mem_cons]
    constructor
    · rintro ⟨_, ⟨sized, rfl⟩, others, rfl⟩
      exact ⟨⟨sized, others⟩, by simp⟩
    · rintro ⟨⟨sized, others⟩, rfl⟩
      exact ⟨_, ⟨sized, rfl⟩, others, by simp⟩

/-- Machines are refused only for the sizes of one of them. -/
theorem runWork_machines_error {s : Surroundings} {machines : List (String × Vdu)} {d : Drafts}
    {error : TranslationError} (refused : runWork s (machines.map machineItem) d = .error error) :
    ∃ machine ∈ machines, Oversized machine.1 machine.2 error := by
  obtain ⟨before, item, after, between, split, -, failed⟩ := runWork_eq_error.mp refused
  obtain ⟨machine, member, rfl⟩ : ∃ machine ∈ machines, machineItem machine = item :=
    List.mem_map.mp (by simp [split])
  have failed : addMachine s machine.1 (machineNode machine.2) between = .error error := failed
  exact ⟨machine, member, addMachine_machineNode_error failed⟩

end NfvCatalog.Translation
