import NfvCatalog.Proofs.Descriptor.Valid
import NfvCatalog.Proofs.Lists.Basic
import NfvCatalog.Proofs.Lists.Ranked
import NfvCatalog.Proofs.Translation.RoundTrip

/-! # Groups, policies and paths that come back

What a service says beside its constituents and links comes back in order, up to what is collected
under keys, ordered by numbers or left out.
-/

/-! ## Policies that come back

Scaling groups, placement groups and initial primitives come back in order, the primitives in the
order of their sequence numbers. Members of a scaling group, its actions and the parameters of a
primitive are collected under their keys: if a key repeats, its last item counts.
-/

namespace NfvCatalog

/-- A scaling group is a source, with its members and actions collected under their keys. -/
structure ScalingGroup.KeptFrom (group source : ScalingGroup) : Prop where
  name : group.name = source.name
  minInstances : group.minInstances = source.minInstances
  maxInstances : group.maxInstances = source.maxInstances
  members : CollectedFrom ScalingMember.member group.members source.members
  actions : CollectedFrom ScalingAction.trigger group.actions source.actions

/-- A placement group is a source with its strategy in capital letters. -/
structure PlacementGroup.KeptFrom (group source : PlacementGroup) : Prop where
  name : group.name = source.name
  requirement : group.requirement = source.requirement
  members : group.members = source.members
  strategy : group.strategy = source.strategy.map Text.asciiUpper

/-- An initial primitive is a source, with its parameters collected under their names. -/
structure ConfigPrimitive.KeptFrom (primitive source : ConfigPrimitive) : Prop where
  seq : primitive.seq = source.seq
  name : primitive.name = source.name
  script : primitive.script = source.script
  parameters : CollectedFrom PrimitiveParameter.name primitive.parameters source.parameters

end NfvCatalog

namespace NfvCatalog.Translation

/-! ### Groups of constituents -/

section Groups

variable {nsd : Nsd} {members : List Supplied} {vnfds : List Vnfd}
  (supplies : Supplies nsd members) (valid : Issue.hasErrors (nsd.validate vnfds) = false)
include supplies valid

/-- In a service without errors an index stands for the same function in validation and in
translation. -/
private theorem member?_of_memberVnfd? {index : UInt32} {id : String}
    (found : nsd.memberVnfd? index = some id) :
    ∃ m, member? members index = some m ∧ m.2.id = id := by
  have distinct := Nsd.nodup_indices_of_valid valid
  obtain ⟨constituent, first, rfl⟩ := Option.map_eq_some_iff.mp found
  have own : constituent.index = index := by simpa using List.find?_some first
  have inConstituents := List.mem_reverse.mp (List.mem_of_find?_eq_some first)
  rw [← supplies.constituents] at inConstituents
  obtain ⟨m, inMembers, rfl⟩ := List.mem_map.mp inConstituents
  exact ⟨m, own ▸ supplies.member?_of_mem distinct inMembers, supplies.named m inMembers⟩

theorem restoredScaling_keptFrom {group : ScalingGroup} (inService : group ∈ nsd.scalingGroups) :
    (restoredScaling members group).KeptFrom group where
  name := rfl
  minInstances := rfl
  maxInstances := rfl
  members := by
    have all_known : group.members.filter (fun m => (member? members m.member).isSome) =
        group.members := by
      refine List.filter_eq_self.mpr fun m inGroup => ?_
      have known := Nsd.memberVnfd?_isSome_of_valid valid inService inGroup
      obtain ⟨id, found⟩ := Option.isSome_iff_exists.mp known
      obtain ⟨supplied, is, -⟩ := member?_of_memberVnfd? supplies valid found
      rw [is, Option.isSome_some]
    rw [restoredScaling, all_known]
    exact latest_collectedFrom ScalingMember.member group.members
  actions := latest_collectedFrom ScalingAction.trigger group.actions

theorem restoredPlacement_keptFrom {group : PlacementGroup}
    (inService : group ∈ nsd.placementGroups) :
    (restoredPlacement members group).KeptFrom group where
  name := rfl
  requirement := rfl
  members := by
    have stays : ∀ m ∈ group.members, ((member? members m.member).map fun supplied =>
        ({ member := m.member, vnfd := supplied.2.id } : PlacementMember)) = some m := by
      intro m inGroup
      have named := Nsd.placementVnfd?_of_valid valid inService inGroup
      obtain ⟨supplied, is, same⟩ := member?_of_memberVnfd? supplies valid named
      rw [is, Option.map_some, same]
    calc (restoredPlacement members group).members
      _ = group.members.filterMap some := List.filterMap_congr stays
      _ = group.members := List.filterMap_some
  strategy := rfl

end Groups

/-! ### Primitives -/

theorem restoredPrimitive_keptFrom (primitive : ConfigPrimitive) :
    (restoredPrimitive primitive).KeptFrom primitive :=
  ⟨rfl, rfl, rfl, latest_collectedFrom PrimitiveParameter.name primitive.parameters⟩

/-- Primitives that come back in the order of their sequence numbers are those of the source in this
order. -/
private theorem restoredPrimitives_eq (primitives : List ConfigPrimitive) :
    (primitives.map restoredPrimitive).mergeSort (fun a b => a.seq ≤ b.seq) =
      (primitives.mergeSort fun a b => a.seq ≤ b.seq).map restoredPrimitive := by
  rw [List.map_mergeSort]
  exact fun _ _ _ _ => rfl

/-! ### Services -/

/-- In a service without errors, scaling groups, placement groups and initial primitives come
back. -/
theorem roundTrip_keeps_policies {freshId : Nat → String} {set out : DescriptorSet} {nsd : Nsd}
    (single : set.nsds = [nsd]) (valid : Issue.hasErrors set.validate = false)
    (translated : roundTrip freshId set = .ok out) :
    ∃ service, out.nsds = [service] ∧
      List.Forall₂ ScalingGroup.KeptFrom service.scalingGroups nsd.scalingGroups ∧
      List.Forall₂ PlacementGroup.KeptFrom service.placementGroups nsd.placementGroups ∧
      ∃ sorted,
        StablySorted (fun primitive : ConfigPrimitive => primitive.seq.toNat) sorted
          nsd.primitives ∧
        List.Forall₂ ConfigPrimitive.KeptFrom service.primitives sorted := by
  obtain ⟨_, vnfds⟩ := set
  obtain rfl : _ = [nsd] := single
  obtain ⟨members, supplied, -, -, rfl⟩ := (roundTrip_service ..).mp translated
  have supplies := supplies_of_supplied? supplied
  simp only [DescriptorSet.validate, Issue.hasErrors_append, Issue.hasErrors_flatMap,
    List.forall_mem_singleton] at valid
  obtain ⟨-, serviceValid⟩ := valid
  refine ⟨restoredNsd nsd members, rfl, ?_, ?_,
    nsd.primitives.mergeSort fun a b => a.seq ≤ b.seq, ?_, ?_⟩
  · exact forall₂_map_self fun group inService =>
      restoredScaling_keptFrom supplies serviceValid inService
  · exact forall₂_map_self fun group inService =>
      restoredPlacement_keptFrom supplies serviceValid inService
  · rw [mergeSort_word]
    exact stablySorted_mergeSort (fun primitive : ConfigPrimitive => primitive.seq.toNat) _
  · have primitives : (restoredNsd nsd members).primitives =
        (nsd.primitives.mergeSort fun a b => a.seq ≤ b.seq).map restoredPrimitive :=
      restoredPrimitives_eq nsd.primitives
    rw [primitives]
    exact forall₂_map_self fun primitive _ => restoredPrimitive_keptFrom primitive

/-- The pair with a scaling group, a placement group and two initial primitives. -/
def policyNsd (scaled : List ScalingMember) (actions : List ScalingAction)
    (parameters : List PrimitiveParameter) : Nsd :=
  { pongNsd with
    scalingGroups := [
      { name := "grow", minInstances := some 1, maxInstances := some 4, members := scaled
        actions := actions }]
    placementGroups := [
      { name := "spread"
        strategy := some "isolation"
        members := [⟨2, "pong_vnfd"⟩, ⟨1, "pong_vnfd"⟩] }]
    primitives := [
      { seq := 2, name := "start", parameters := parameters },
      { seq := 1, name := "connect" }] }

/-- The pair comes back with its policies if no action and no parameter is named like a reference to
an input. -/
private theorem roundTrip_policyNsd {scaled : List ScalingMember} {actions : List ScalingAction}
    {parameters : List PrimitiveParameter} (actionsFree : "get_input" ∉ actions.map (·.trigger))
    (parametersFree : "get_input" ∉ parameters.map (·.name)) :
    roundTrip (fun _ => "")
        { nsds := [policyNsd scaled actions parameters], vnfds := [pongVnfd] } =
      .ok (restored (policyNsd scaled actions parameters) pongMembers) := by
  have free : FreeOfInputs (policyNsd scaled actions parameters) pongMembers :=
    { configurations := pongMembers_restorable.free.configurations
      actions := by
        rintro group inService ⟨primitive, only⟩
        obtain rfl := List.mem_singleton.mp inService
        have kept : (⟨"get_input", primitive⟩ : ScalingAction) ∈
            latest ScalingAction.trigger actions := by
          rw [show latest ScalingAction.trigger actions = _ from only]
          exact List.mem_singleton_self _
        exact actionsFree (List.mem_map_of_mem (mem_of_mem_latest _ kept))
      parameters := by
        rintro primitive inService ⟨value, only⟩
        rcases List.mem_pair.mp inService with rfl | rfl
        · have kept : (⟨"get_input", some value⟩ : PrimitiveParameter) ∈
              latest PrimitiveParameter.name parameters := by
            rw [show latest PrimitiveParameter.name parameters = _ from only]
            exact List.mem_singleton_self _
          exact parametersFree (List.mem_map_of_mem (mem_of_mem_latest _ kept))
        · cases only }
  have distinct : (pongNsd.constituents.map (·.index)).Nodup := by decide
  exact (roundTrip_service ..).mpr ⟨pongMembers, rfl,
    ⟨pongMembers_restorable.sizes, pongMembers_restorable.configurations, free⟩, distinct, rfl⟩

/-- The pair with policies in which no key repeats. -/
def grownNsd : Nsd :=
  policyNsd [⟨2, 1⟩, ⟨1, 3⟩] [⟨"pre-scale-in", "stop"⟩] [⟨"port", some "5555"⟩, ⟨"host", none⟩]

/-- The pair with its policies and its function. -/
def grownPair : DescriptorSet := { nsds := [grownNsd], vnfds := [pongVnfd] }

/-- The policies of the pair come back, with both members of its scaling group. -/
theorem grownPair_keeps_policies :
    ∃ out, Issue.hasErrors grownPair.validate = false ∧
      roundTrip (fun _ => "") grownPair = .ok out ∧
      out.nsds.map (·.scalingGroups) = [grownNsd.scalingGroups] ∧
      ∃ service, out.nsds = [service] ∧
        List.Forall₂ ScalingGroup.KeptFrom service.scalingGroups grownNsd.scalingGroups ∧
        List.Forall₂ PlacementGroup.KeptFrom service.placementGroups grownNsd.placementGroups ∧
        ∃ sorted,
          StablySorted (fun primitive : ConfigPrimitive => primitive.seq.toNat) sorted
            grownNsd.primitives ∧
          List.Forall₂ ConfigPrimitive.KeptFrom service.primitives sorted := by
  have valid : Issue.hasErrors grownPair.validate = false := by decide
  have translated : roundTrip (fun _ => "") grownPair = .ok (restored grownNsd pongMembers) :=
    roundTrip_policyNsd (by decide) (by decide)
  exact ⟨_, valid, translated, by decide, roundTrip_keeps_policies rfl valid translated⟩

/-- The pair with policies in which a member, a trigger and the name of a parameter repeat. -/
def repeatedNsd : Nsd :=
  policyNsd [⟨1, 1⟩, ⟨2, 1⟩, ⟨1, 3⟩] [⟨"pre-scale-in", "stop"⟩, ⟨"pre-scale-in", "save"⟩]
    [⟨"port", some "5555"⟩, ⟨"port", none⟩]

/-- The pair with its policies and its function. -/
def repeatedPair : DescriptorSet := { nsds := [repeatedNsd], vnfds := [pongVnfd] }

/-- A member, an action and a parameter that repeat come back once, as they were last. -/
theorem repeatedPair_loses_policies :
    Issue.hasErrors repeatedPair.validate = false ∧
      ∃ service vnfds, roundTrip (fun _ => "") repeatedPair =
          .ok { nsds := [service], vnfds := vnfds } ∧
        service.scalingGroups.map (·.members) = [[⟨1, 3⟩, ⟨2, 1⟩]] ∧
        service.scalingGroups.map (·.actions) = [[⟨"pre-scale-in", "save"⟩]] ∧
        service.scalingGroups ≠ repeatedNsd.scalingGroups ∧
        ∀ primitive ∈ service.primitives,
          primitive.parameters ≠ [⟨"port", some "5555"⟩, ⟨"port", none⟩] := by
  refine ⟨by decide, restoredNsd repeatedNsd pongMembers, restoredVnfds pongMembers,
    roundTrip_policyNsd (by decide) (by decide), by decide, by decide, by decide, ?_⟩
  have restored_once : ∀ primitive ∈ repeatedNsd.primitives.map restoredPrimitive,
      primitive.parameters ≠ [⟨"port", some "5555"⟩, ⟨"port", none⟩] := by decide
  exact fun primitive member => restored_once primitive (List.mem_mergeSort.mp member)

end NfvCatalog.Translation

/-! ## Forwarding graphs that come back

A forwarding graph comes back with its paths. The hops of a path come back in the order of their
numbers and are numbered anew. A hop is left out if it is at no interface of the constituent that it
goes through.
-/

namespace NfvCatalog

/-- Whether a hop is at an interface of the constituent that it goes through. -/
def DescriptorSet.carries (set : DescriptorSet) (nsd : Nsd) (hop : PathHop) : Bool :=
  nsd.constituents.any fun member =>
    member.index = hop.member &&
      (set.vnfd? member.vnfd).any fun vnfd =>
        vnfd.interfaces.any fun entry => entry.2.pointRef = hop.point

/-- A hop is at the connection point of a source, and names the function of the constituent. -/
structure PathHop.KeptFrom (nsd : Nsd) (hop source : PathHop) : Prop where
  member : hop.member = source.member
  point : hop.point = source.point
  vnfd : ∃ member ∈ nsd.constituents, member.index = source.member ∧ hop.vnfd = member.vnfd

/-- A path has the hops of a source that are at an interface, in the order of their numbers, and
they are numbered from one. -/
structure ServicePath.KeptFrom (set : DescriptorSet) (nsd : Nsd) (path source : ServicePath) :
    Prop where
  id : path.id = source.id
  name : path.name = source.name
  hops : ∃ sorted, StablySorted (fun hop : PathHop => hop.order.toNat) sorted source.hops ∧
    List.Forall₂ (PathHop.KeptFrom nsd) path.hops (sorted.filter (set.carries nsd))
  numbers : path.hops.map (·.order) = (List.range' 1 path.hops.length).map UInt32.ofNat

/-- A forwarding graph has the head and the paths of a source. -/
structure ForwardingGraph.KeptFrom (set : DescriptorSet) (nsd : Nsd)
    (graph source : ForwardingGraph) : Prop where
  id : graph.id = source.id
  name : graph.name = source.name
  vendor : graph.vendor = source.vendor
  version : graph.version = source.version
  paths : List.Forall₂ (ServicePath.KeptFrom set nsd) graph.paths source.paths

end NfvCatalog

namespace NfvCatalog.Translation

/-! ### Numbers of hops -/

theorem map_order_numberedHops (order : Nat) (hops : List PathHop) :
    (numberedHops order hops).map (·.order) = (List.range' order hops.length).map UInt32.ofNat := by
  induction hops generalizing order with
  | nil => rfl
  | cons hop rest ih =>
    rw [numberedHops, List.map_cons, ih, List.length_cons, List.range'_succ, List.map_cons]

@[simp] theorem length_numberedHops (order : Nat) (hops : List PathHop) :
    (numberedHops order hops).length = hops.length := by
  induction hops generalizing order with
  | nil => rfl
  | cons hop rest ih => rw [numberedHops, List.length_cons, ih, List.length_cons]

/-- Numbering hops changes nothing else about them. -/
private theorem forall₂_numberedHops {kept : PathHop → PathHop → Prop} {hops sources : List PathHop}
    (stays : ∀ hop source number, kept hop source → kept { hop with order := number } source)
    (each : List.Forall₂ kept hops sources) (order : Nat) :
    List.Forall₂ kept (numberedHops order hops) sources := by
  induction each generalizing order with
  | nil => exact .nil
  | cons first others ih => exact .cons (stays _ _ _ first) (ih (order + 1))

/-! ### Hops -/

section Hops

variable {set : DescriptorSet} {nsd : Nsd} {members : List Supplied}
  (supplied : supplied? set nsd.constituents = some members)
  (distinct : (nsd.constituents.map (·.index)).Nodup)
include supplied distinct

/-- A hop goes through a constituent exactly if it is at one of its interfaces. -/
theorem hopVnfd?_eq_some_iff {hop : PathHop} {id : String} :
    hopVnfd? members hop = some id ↔ ∃ m ∈ members, m.1.index = hop.member ∧
      hasInterfaceOn m.2 hop.point = true ∧ id = m.1.vnfd := by
  have supplies := supplies_of_supplied? supplied
  constructor
  · intro through
    obtain ⟨m, found, named⟩ := Option.bind_eq_some_iff.mp through
    have member := List.mem_of_find?_eq_some found
    have index : m.1.index = hop.member := by simpa using List.find?_some found
    by_cases carried : hasInterfaceOn m.2 hop.point = true
    · rw [if_pos carried] at named
      exact ⟨m, member, index, carried,
        (Option.some.inj named).symm.trans (supplies.named m member)⟩
    · rw [if_neg carried] at named
      cases named
  · rintro ⟨m, member, index, carried, rfl⟩
    rw [hopVnfd?, ← index, supplies.member?_of_mem distinct member, Option.bind_some,
      if_pos carried, supplies.named m member]

omit distinct in
theorem carries_iff {hop : PathHop} :
    set.carries nsd hop = true ↔ ∃ m ∈ members, m.1.index = hop.member ∧
      hasInterfaceOn m.2 hop.point = true := by
  have supplies := supplies_of_supplied? supplied
  have found := vnfd?_of_supplied? supplied
  simp only [DescriptorSet.carries, ← supplies.constituents, List.any_map, List.any_eq_true,
    Function.comp_apply, Bool.and_eq_true, decide_eq_true_eq]
  refine exists_congr fun m => and_congr_right fun member => and_congr_right fun _ => ?_
  rw [found m member]
  rfl

/-- The hops that come back are those that are at an interface. -/
private theorem carried_keptFrom (hops : List PathHop) :
    List.Forall₂ (PathHop.KeptFrom nsd)
      (hops.filterMap fun hop => (hopVnfd? members hop).map fun vnfd => { hop with vnfd := vnfd })
      (hops.filter (set.carries nsd)) := by
  have supplies := supplies_of_supplied? supplied
  have through (hop : PathHop) (id : String) :=
    @hopVnfd?_eq_some_iff set nsd members supplied distinct hop id
  induction hops with
  | nil => exact .nil
  | cons hop rest ih =>
    rw [List.filterMap_cons, List.filter_cons]
    by_cases carried : set.carries nsd hop = true
    · obtain ⟨m, member, index, atInterface⟩ := (carries_iff supplied).mp carried
      rw [(through hop _).mpr ⟨m, member, index, atInterface, rfl⟩, if_pos carried]
      have constituent : m.1 ∈ nsd.constituents :=
        supplies.constituents ▸ List.mem_map_of_mem member
      exact .cons ⟨rfl, rfl, m.1, constituent, index, rfl⟩ ih
    · have nowhere : hopVnfd? members hop = none := by
        refine Option.eq_none_iff_forall_ne_some.mpr fun id at_ => ?_
        obtain ⟨m, member, index, atInterface, -⟩ := (through hop id).mp at_
        exact carried ((carries_iff supplied).mpr ⟨m, member, index, atInterface⟩)
      rw [nowhere, if_neg carried]
      exact ih

theorem restoredPath_keptFrom (path : ServicePath) :
    (restoredPath members path).KeptFrom set nsd path where
  id := rfl
  name := rfl
  hops := by
    refine ⟨path.hops.mergeSort fun a b => a.order ≤ b.order, ?_, ?_⟩
    · rw [mergeSort_word]
      exact stablySorted_mergeSort (fun hop : PathHop => hop.order.toNat) path.hops
    · have renumbered (hop source : PathHop) (number : UInt32)
          (kept : PathHop.KeptFrom nsd hop source) :
          PathHop.KeptFrom nsd { hop with order := number } source :=
        ⟨kept.member, kept.point, kept.vnfd⟩
      exact forall₂_numberedHops renumbered (carried_keptFrom supplied distinct _) 1
  numbers := by
    rw [restoredPath, map_order_numberedHops, length_numberedHops]

theorem restoredGraph_keptFrom (graph : ForwardingGraph) :
    (restoredGraph members graph).KeptFrom set nsd graph where
  id := rfl
  name := rfl
  vendor := rfl
  version := rfl
  paths := forall₂_map_self fun path _ => restoredPath_keptFrom supplied distinct path

end Hops

/-! ### Services -/

/-- The forwarding graphs of a service come back, with the hops of their paths that are at
interfaces. -/
theorem roundTrip_keeps_graphs {freshId : Nat → String} {set out : DescriptorSet} {nsd : Nsd}
    (single : set.nsds = [nsd]) (translated : roundTrip freshId set = .ok out) :
    ∃ service, out.nsds = [service] ∧
      List.Forall₂ (ForwardingGraph.KeptFrom set nsd) service.graphs nsd.graphs := by
  obtain ⟨_, vnfds⟩ := set
  obtain rfl : _ = [nsd] := single
  obtain ⟨members, supplied, -, distinct, rfl⟩ := (roundTrip_service ..).mp translated
  refine ⟨restoredNsd nsd members, rfl, ?_⟩
  exact forall₂_map_self fun graph _ => restoredGraph_keptFrom supplied distinct graph

/-- Hops through both constituents of the pair. Two have one number, and one is at a connection
point that does not exist. -/
def chainedHops : List PathHop := [
  { member := 2, order := 7, vnfd := "pong_vnfd", point := "pong/cp0" },
  { member := 1, order := 3, vnfd := "pong_vnfd", point := "pong/cp0" },
  { member := 1, order := 4, vnfd := "pong_vnfd", point := "pong/cp1" },
  { member := 1, order := 7, vnfd := "pong_vnfd", point := "pong/cp0" }]

/-- The pair with a forwarding graph. -/
def chainedNsd : Nsd :=
  { pongNsd with
    graphs := [
      { id := "chain", vendor := some "vendor", paths := [{ id := "path", hops := chainedHops }] }] }

/-- The pair with its forwarding graph and its function. -/
def chainedPair : DescriptorSet := { nsds := [chainedNsd], vnfds := [pongVnfd] }

private theorem restoredPath_chainedHops :
    restoredPath pongMembers { id := "path", hops := chainedHops } =
      { id := "path"
        hops := [
          { member := 1, order := 1, vnfd := "pong_vnfd", point := "pong/cp0" },
          { member := 2, order := 2, vnfd := "pong_vnfd", point := "pong/cp0" },
          { member := 1, order := 3, vnfd := "pong_vnfd", point := "pong/cp0" }] } := by
  rw [restoredPath, mergeSort_word, mergeSort_rank (fun hop : PathHop => hop.order.toNat) 8
    chainedHops (by decide)]
  decide +kernel

/-- The path comes back with its hops in order, without the one that is at no interface. -/
theorem chainedPair_keeps_graphs :
    ∃ out, roundTrip (fun _ => "") chainedPair = .ok out ∧
      (out.nsds.flatMap (·.graphs)).flatMap (·.paths.map (·.hops)) =
        [[{ member := 1, order := 1, vnfd := "pong_vnfd", point := "pong/cp0" },
          { member := 2, order := 2, vnfd := "pong_vnfd", point := "pong/cp0" },
          { member := 1, order := 3, vnfd := "pong_vnfd", point := "pong/cp0" }]] ∧
      ∃ service, out.nsds = [service] ∧
        List.Forall₂ (ForwardingGraph.KeptFrom chainedPair chainedNsd) service.graphs
          chainedNsd.graphs := by
  have restorable : Restorable chainedNsd pongMembers :=
    { sizes := pongMembers_restorable.sizes
      configurations := pongMembers_restorable.configurations
      free := ⟨pongMembers_restorable.free.configurations, by simp [chainedNsd, pongNsd],
        by simp [chainedNsd, pongNsd]⟩ }
  have translated : roundTrip (fun _ => "") chainedPair = .ok (restored chainedNsd pongMembers) :=
    (roundTrip_service ..).mpr ⟨pongMembers, rfl, restorable, by decide, rfl⟩
  refine ⟨_, translated, ?_, roundTrip_keeps_graphs rfl translated⟩
  simp only [restored, restoredNsd, chainedNsd, restoredGraph, List.map_cons, List.map_nil,
    restoredPath_chainedHops, List.flatMap_cons, List.flatMap_nil, List.append_nil]

end NfvCatalog.Translation
