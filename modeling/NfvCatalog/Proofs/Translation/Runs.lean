import Mathlib.Data.List.Induction
import NfvCatalog.Proofs.Lists.Basic
import NfvCatalog.Proofs.Translation.Closure

/-! # Runs, phase by phase

A translation drafts the links of a template, then its machines, its functions and its connection
points, each kind in document order. What each of these phases leaves behind is told by the nodes
alone: a machine belongs to the one function that names it, a function has the machines that it
names, each where it is first named, and a connection point goes to the function and the machine
that it is bound to, and onto its links. What is translated later changes none of this.
-/

namespace NfvCatalog.Translation

open Tosca

variable {s : Surroundings} {nodes : List (String × NodeTemplate)} {d d' : Drafts}

/-! ## Links -/

/-- A link as it is drafted from its node: without connection points. -/
structure LinkOf (entry : String × NodeTemplate) (link : LinkDraft) : Prop where
  named : link.node = entry.1
  described : LinkDescribedBy entry.1 entry.2 link.vld
  points : link.points = []

theorem runWork_linkNodes (ran : runWork s (nodes.map (nodeItem .virtualLink)) d = .ok d') :
    ∃ links drawn, List.Forall₂ LinkOf nodes links ∧
      d' = { d with links := d.links ++ links, drawn := drawn } := by
  induction nodes generalizing d with
  | nil =>
    obtain rfl := Except.ok.inj ran
    exact ⟨[], d.drawn, .nil, by simp⟩
  | cons entry rest ih =>
    simp only [List.map_cons, runWork, bind_eq_ok] at ran
    obtain ⟨between, first, others⟩ := ran
    have added : addLink s entry.1 entry.2 d = .ok between := first
    obtain ⟨vld, now, described, rfl⟩ := addLink_ok added
    obtain ⟨links, drawn, each, rfl⟩ := ih others
    exact ⟨{ node := entry.1, vld := vld } :: links, drawn, .cons ⟨rfl, described, rfl⟩ each,
      by simp⟩

/-! ## Machines -/

/-- A machine as it is drafted from its node: without interfaces. -/
structure MachineOf (entry : String × NodeTemplate) (m : MachineDraft) : Prop where
  named : m.node = entry.1
  files : m.files = artifactFiles entry.2
  plain : m.vdu.interfaces = []
  described : DescribedBy entry.1 entry.2 m.vdu

theorem runWork_machineNodes (ran : runWork s (nodes.map (nodeItem .vdu)) d = .ok d') :
    ∃ machines drawn, List.Forall₂ MachineOf nodes machines ∧
      (∀ m ∈ machines, m.owner = none) ∧
      d' = { d with machines := d.machines ++ machines, drawn := drawn } := by
  induction nodes generalizing d with
  | nil =>
    obtain rfl := Except.ok.inj ran
    exact ⟨[], d.drawn, .nil, by simp, by simp⟩
  | cons entry rest ih =>
    simp only [List.map_cons, runWork, bind_eq_ok] at ran
    obtain ⟨between, first, others⟩ := ran
    have added : addMachine s entry.1 entry.2 d = .ok between := first
    obtain ⟨m, now, named, files, nobody, plain, described, rfl⟩ := addMachine_ok added
    obtain ⟨machines, drawn, each, unowned, rfl⟩ := ih others
    exact ⟨m :: machines, drawn, .cons ⟨named, files, plain, described⟩ each,
      List.forall_mem_cons.mpr ⟨nobody, unowned⟩, by simp⟩

/-! ## Functions -/

/-- The place of the function that names a machine. -/
def ownerAmong (nodes : List (String × NodeTemplate)) (target : String) : Option Nat :=
  nodes.findIdx? fun entry => target ∈ entry.2.targets "vdus"

/-- A machine with the function that names it for its owner. -/
def ownedAmong (nodes : List (String × NodeTemplate)) (m : MachineDraft) : MachineDraft :=
  { m with owner := ownerAmong nodes m.node }

/-- The machines that a VNF node names, each of them where it is first named. -/
def mentions (node : NodeTemplate) : List String := (node.targets "vdus").eraseDups

theorem nodup_mentions (node : NodeTemplate) : (mentions node).Nodup :=
  DescriptorSet.nodup_eraseDups _

/-- A machine is the one that was drafted for a node. -/
def IsMachine (machines : List MachineDraft) (target : String) (vdu : Vdu) : Prop :=
  ∃ m ∈ machines, m.node = target ∧ m.vdu = vdu

/-- A function as it is drafted from its node: with the machines that the node names and without
connection points. -/
structure FunctionFor (machines : List MachineDraft) (entry : String × NodeTemplate)
    (f : FunctionDraft) : Prop where
  named : f.node = entry.1
  id : ∀ id ∈ entry.2.properties.text? "id", f.vnfd.id = id
  index : wholeProperty? entry.2.properties entry.1 "member_index" = .ok f.index
  logo : f.logo = entry.2.properties.text? "logo"
  points : f.vnfd.points = []
  vdus : List.Forall₂ (IsMachine machines) (mentions entry.2) f.vnfd.vdus

/-- No machine is named by two functions. -/
def NamedOnce (nodes : List (String × NodeTemplate)) : Prop :=
  nodes.Pairwise fun entry other =>
    ∀ target ∈ entry.2.targets "vdus", target ∉ other.2.targets "vdus"

theorem lt_of_ownerAmong {target : String} {place : Nat}
    (owner : ownerAmong nodes target = some place) : place < nodes.length := by
  obtain ⟨inside, -⟩ := List.findIdx?_eq_some_iff_getElem.mp owner
  exact inside

theorem not_mem_targets_of_ownerAmong {target : String} (nobody : ownerAmong nodes target = none) :
    ∀ entry ∈ nodes, target ∉ entry.2.targets "vdus" := by
  simpa [ownerAmong] using nobody

theorem ownerAmong_append_singleton (nodes : List (String × NodeTemplate))
    (entry : String × NodeTemplate) (target : String) :
    ownerAmong (nodes ++ [entry]) target =
      (ownerAmong nodes target).or
        (if target ∈ entry.2.targets "vdus" then some nodes.length else none) := by
  rw [ownerAmong, List.findIdx?_append]
  by_cases named : target ∈ entry.2.targets "vdus" <;> simp [ownerAmong, named]

/-- A machine that an earlier function does not name goes to the one that does. -/
private theorem claimedBy_ownedAmong {entry : String × NodeTemplate} {m : MachineDraft}
    (free : m.node ∈ entry.2.targets "vdus" → ownerAmong nodes m.node = none) :
    claimedBy nodes.length (entry.2.targets "vdus") (ownedAmong nodes m) =
      ownedAmong (nodes ++ [entry]) m := by
  by_cases named : m.node ∈ entry.2.targets "vdus"
  · simp [claimedBy, ownedAmong, ownerAmong_append_singleton, named, free named]
  · simp [claimedBy, ownedAmong, ownerAmong_append_singleton, named]

/-- A function that claims machines which are all there and nobody's gets each of them, where it is
first named. -/
private theorem functionFor_of_claims {entry : String × NodeTemplate} {place : Nat}
    {machines : List MachineDraft} {claimed : Claimed} {f : FunctionDraft}
    (isF : FunctionOf entry.1 entry.2 claimed f)
    (claims : Claims s place (entry.2.targets "vdus") machines [] claimed)
    (free : ∀ target ∈ entry.2.targets "vdus", isUnclaimed machines target = true) :
    FunctionFor machines entry f := by
  refine ⟨isF.named, isF.id, isF.index, isF.logo, isF.points, ?_⟩
  have names : claimed.map Prod.fst = mentions entry.2 := by
    rw [claims.names, List.filter_eq_self.mpr free]
    rfl
  rw [isF.vdus, ← names, List.forall₂_map_left_iff, List.forall₂_map_right_iff, List.forall₂_same]
  intro claim member
  obtain ⟨m, inMachines, -, -, rfl⟩ := ((claims.claims claim).mp member).resolve_left (by simp)
  exact ⟨m, inMachines, rfl, rfl⟩

private theorem FunctionFor.mono {machines others : List MachineDraft}
    (within : ∀ target vdu, IsMachine machines target vdu → IsMachine others target vdu)
    {entry : String × NodeTemplate} {f : FunctionDraft} (isF : FunctionFor machines entry f) :
    FunctionFor others entry f :=
  ⟨isF.named, isF.id, isF.index, isF.logo, isF.points, isF.vdus.imp within⟩

private theorem isMachine_map_ownedAmong {machines : List MachineDraft} (target : String)
    (vdu : Vdu) : IsMachine (machines.map (ownedAmong nodes)) target vdu ↔
      IsMachine machines target vdu := by
  simp [IsMachine, ownedAmong]

theorem runWork_functionNodes (none_yet : d.functions = [])
    (nobody : ∀ m ∈ d.machines, m.owner = none) (distinct : (d.machines.map (·.node)).Nodup)
    (present : ∀ target, s.Knows target .vdu → target ∈ d.machines.map (·.node))
    (ran : runWork s (nodes.map (nodeItem .vnf)) d = .ok d') :
    ∃ functions drawn, List.Forall₂ (FunctionFor d.machines) nodes functions ∧
      NamedOnce nodes ∧
      d' = { d with
        machines := d.machines.map (ownedAmong nodes), functions := functions, drawn := drawn } := by
  -- The induction is on the nodes that are done: the place of a new function is their number.
  induction nodes using List.reverseRecOn generalizing d' with
  | nil =>
    obtain rfl := Except.ok.inj ran
    have same : d.machines.map (ownedAmong []) = d.machines := by
      refine (List.map_congr_left fun m member => ?_).trans (List.map_id _)
      have unowned : m.owner = none := nobody m member
      cases m
      exact congrArg _ unowned.symm
    exact ⟨[], d.drawn, .nil, .nil, by simp [same, ← none_yet]⟩
  | append_singleton done entry ih =>
    rw [List.map_append, runWork_append] at ran
    obtain ⟨between, ranDone, last⟩ := ran
    obtain ⟨functions, drawn, each, once, rfl⟩ := ih ranDone
    simp only [List.map_cons, List.map_nil, runWork, bind_eq_ok] at last
    obtain ⟨after, last, same⟩ := last
    obtain rfl := Except.ok.inj same
    have added : addFunction s entry.1 entry.2 _ = .ok after := last
    have names : ((d.machines.map (ownedAmong done)).map (·.node)).Nodup := by
      simpa [ownedAmong, Function.comp_def] using distinct
    obtain ⟨f, claimed, now, isF, claims, rfl⟩ := addFunction_ok names added
    have count : functions.length = done.length := each.length_eq.symm
    simp only [count] at claims ⊢
    -- A claimed machine is nobody's: it is not the new function's own, which has no machines yet.
    have free : ∀ m ∈ d.machines, m.node ∈ entry.2.targets "vdus" →
        ownerAmong done m.node = none := fun m member named =>
      (claims.free _ (List.mem_map_of_mem member) named).resolve_right fun own =>
        absurd (lt_of_ownerAmong own) (Nat.lt_irrefl _)
    have unclaimed : ∀ target ∈ entry.2.targets "vdus",
        isUnclaimed (d.machines.map (ownedAmong done)) target = true := by
      intro target named
      obtain ⟨m, member, rfl⟩ := List.mem_map.mp (present target (claims.known target named))
      exact List.any_eq_true.mpr
        ⟨_, List.mem_map_of_mem member, by simp [ownedAmong, free m member named]⟩
    have isNew : FunctionFor d.machines entry f :=
      (functionFor_of_claims isF claims unclaimed).mono fun target vdu =>
        (isMachine_map_ownedAmong target vdu).mp
    refine ⟨functions ++ [f], now, List.rel_append each (.cons isNew .nil), ?_, ?_⟩
    · refine List.pairwise_append.mpr ⟨once, List.pairwise_singleton .., ?_⟩
      intro other isDone last isLast target itsOwn named
      obtain rfl := List.mem_singleton.mp isLast
      obtain ⟨m, member, rfl⟩ := List.mem_map.mp (present target (claims.known target named))
      exact not_mem_targets_of_ownerAmong (free m member named) other isDone itsOwn
    · have owned : (d.machines.map (ownedAmong done)).map
          (claimedBy done.length (entry.2.targets "vdus")) =
            d.machines.map (ownedAmong (done ++ [entry])) := by
        rw [List.map_map]
        exact List.map_congr_left fun m member => claimedBy_ownedAmong (free m member)
      rw [owned]

/-! ## Connection points -/

/-- The machine that a connection point is bound to. -/
def boundTo? (machines : List MachineDraft) (node : NodeTemplate) : Option MachineDraft :=
  (node.targets "virtualBinding").head?.bind fun target => machines.find? (·.node = target)

theorem boundTo?_of_mem {machines : List MachineDraft} {node : NodeTemplate} {m : MachineDraft}
    (distinct : (machines.map (·.node)).Nodup) (member : m ∈ machines)
    (first : (node.targets "virtualBinding").head? = some m.node) :
    boundTo? machines node = some m := by
  rw [boundTo?, first, Option.bind_some]
  exact find?_key (fun m : MachineDraft => m.node) distinct member

theorem of_boundTo? {machines : List MachineDraft} {node : NodeTemplate} {m : MachineDraft}
    (bound : boundTo? machines node = some m) :
    m ∈ machines ∧ (node.targets "virtualBinding").head? = some m.node := by
  obtain ⟨target, first, found⟩ := Option.bind_eq_some_iff.mp bound
  have named : m.node = target := by simpa using List.find?_some found
  exact ⟨List.mem_of_find?_eq_some found, named ▸ first⟩

/-- A connection point with the id of the machine that it is bound to. -/
abbrev BoundPoint := String × String × NodeTemplate

/-- The connection points of the function at a place. -/
def pointsAt (machines : List MachineDraft) (place : Nat) (nodes : List (String × NodeTemplate)) :
    List BoundPoint :=
  nodes.filterMap fun entry =>
    ((boundTo? machines entry.2).filter (·.owner = some place)).map fun m => (m.vdu.id, entry)

theorem pointsAt_cons {machines : List MachineDraft} {entry : String × NodeTemplate}
    {m : MachineDraft} {owner : Nat} (bound : boundTo? machines entry.2 = some m)
    (owned : m.owner = some owner) (place : Nat) :
    pointsAt machines place (entry :: nodes) =
      if owner = place then (m.vdu.id, entry) :: pointsAt machines place nodes
      else pointsAt machines place nodes := by
  by_cases here : owner = place <;> simp [pointsAt, bound, owned, here, Option.filter_some]

/-- A function with connection points, one after another. -/
def FunctionDraft.withPoints (f : FunctionDraft) (points : List BoundPoint) : FunctionDraft :=
  points.foldl (fun f point => f.withPoint point.1 point.2.1 point.2.2) f

@[simp] theorem withPoints_cons (point : BoundPoint) (points : List BoundPoint)
    (f : FunctionDraft) : f.withPoints (point :: points) =
      (f.withPoint point.1 point.2.1 point.2.2).withPoints points := rfl

@[simp] theorem node_withPoints (points : List BoundPoint) (f : FunctionDraft) :
    (f.withPoints points).node = f.node := by
  induction points generalizing f with
  | nil => rfl
  | cons point rest ih => exact ih _

@[simp] theorem logo_withPoints (points : List BoundPoint) (f : FunctionDraft) :
    (f.withPoints points).logo = f.logo := by
  induction points generalizing f with
  | nil => rfl
  | cons point rest ih => exact ih _

/-- Connection points change nothing but the interfaces of machines. -/
@[simp] theorem map_bare_withPoints (points : List BoundPoint) (f : FunctionDraft) :
    (f.withPoints points).vnfd.vdus.map Vdu.bare = f.vnfd.vdus.map Vdu.bare := by
  induction points generalizing f with
  | nil => rfl
  | cons point rest ih => rw [withPoints_cons, ih, map_bare_withPoint]

/-- The connection points on the link of a node, each with the function that it belongs to, once for
each time that it names the link. -/
def pointsOn (machines : List MachineDraft) (nodes : List (String × NodeTemplate))
    (link : String) : List (Nat × String) :=
  nodes.flatMap fun entry =>
    match (boundTo? machines entry.2).bind (·.owner) with
    | none => []
    | some owner =>
      List.replicate ((entry.2.targets "virtualLink").count link)
        (owner, nameOf entry.2.properties entry.1)

/-- A link with the connection points that name it. -/
def LinkDraft.withPoints (machines : List MachineDraft) (nodes : List (String × NodeTemplate))
    (link : LinkDraft) : LinkDraft :=
  { link with points := link.points ++ pointsOn machines nodes link.node }

/-- A connection point is bound to a machine that belongs to a function. -/
def IsBound (machines : List MachineDraft) (node : NodeTemplate) : Prop :=
  ∃ m place, boundTo? machines node = some m ∧ m.owner = some place

theorem runWork_pointNodes (distinct : (d.machines.map (·.node)).Nodup)
    (distinctLinks : (d.links.map (·.node)).Nodup)
    (ran : runWork s (nodes.map (nodeItem .connectionPoint)) d = .ok d') :
    ∃ points, (∀ entry ∈ nodes, IsBound d.machines entry.2) ∧
      d' = { d with
        functions := d.functions.mapIdx fun place f =>
          f.withPoints (pointsAt d.machines place nodes)
        links := d.links.map (·.withPoints d.machines nodes)
        points := points } := by
  induction nodes generalizing d with
  | nil =>
    obtain rfl := Except.ok.inj ran
    have same : LinkDraft.withPoints d.machines [] = id :=
      funext fun link => by simp [LinkDraft.withPoints, pointsOn]
    have unchanged : d.functions.mapIdx (fun _ f => f) = d.functions :=
      List.ext_getElem? fun place => by simp
    exact ⟨d.points, by simp, by simp [same, pointsAt, FunctionDraft.withPoints, unchanged]⟩
  | cons entry rest ih =>
    simp only [List.map_cons, runWork, bind_eq_ok] at ran
    obtain ⟨between, first, others⟩ := ran
    have added : addPoint s entry.1 entry.2 d = .ok between := first
    obtain ⟨m, member, binding, owner, links, owned, -, -, joins, rfl⟩ := addPoint_ok added
    obtain rfl := joins distinctLinks
    have bound := boundTo?_of_mem distinct member binding
    obtain ⟨points, allBound, rfl⟩ :=
      ih (by simpa using distinct) (by simpa [joined, Function.comp_def] using distinctLinks) others
    refine ⟨points, List.forall_mem_cons.mpr ⟨⟨m, owner, bound, owned⟩, allBound⟩, ?_⟩
    have attached : (d.functions.modify owner (·.withPoint m.vdu.id entry.1 entry.2)).mapIdx
          (fun place f => f.withPoints (pointsAt d.machines place rest)) =
        d.functions.mapIdx fun place f =>
          f.withPoints (pointsAt d.machines place (entry :: rest)) := by
      refine List.ext_getElem? fun place => ?_
      simp only [List.getElem?_mapIdx, List.getElem?_modify, pointsAt_cons bound owned]
      by_cases here : owner = place <;> cases d.functions[place]? <;> simp [here]
    have all_joined : (d.links.map (joined owner (nameOf entry.2.properties entry.1)
        (entry.2.targets "virtualLink"))).map (·.withPoints d.machines rest) =
          d.links.map (·.withPoints d.machines (entry :: rest)) := by
      rw [List.map_map]
      refine List.map_congr_left fun link _ => ?_
      simp [LinkDraft.withPoints, joined, pointsOn, bound, owned]
    simp only [attached, all_joined]

/-! ## Whole translations -/

/-- The drafts that the entities of a template are translated to. -/
def draftsOf (freshId : Nat → String) (strict : Bool) (template : Template) :
    Except TranslationError Drafts := do
  let work ← workOf template strict (Entity.ofTopology template.topology)
  runWork ⟨template, nodePhases work, freshId⟩ (inPhases work) { }

/-- Drafts are those of the nodes of a template. -/
structure DraftedFrom (template : Template) (d : Drafts) : Prop where
  machines : List.Forall₂ MachineOf (nodesOf template .vdu) d.machines
  owners : ∀ m ∈ d.machines, m.owner = ownerAmong (nodesOf template .vnf) m.node
  once : NamedOnce (nodesOf template .vnf)
  bound : ∀ entry ∈ nodesOf template .connectionPoint, IsBound d.machines entry.2
  links : ∃ plain, List.Forall₂ LinkOf (nodesOf template .virtualLink) plain ∧
    d.links = plain.map (·.withPoints d.machines (nodesOf template .connectionPoint))
  functions : ∃ plain, List.Forall₂ (FunctionFor d.machines) (nodesOf template .vnf) plain ∧
    d.functions = plain.mapIdx fun place f =>
      f.withPoints (pointsAt d.machines place (nodesOf template .connectionPoint))

/-- The rest of the work leaves links, machines and functions alone. -/
private theorem runWork_elsewhere {work : List WorkItem}
    (elsewhere : ∀ item ∈ work,
      item.resource ∉ [Resource.virtualLink, .vdu, .vnf, .connectionPoint])
    (ran : runWork s work d = .ok d') :
    d'.links = d.links ∧ d'.machines = d.machines ∧ d'.functions = d.functions := by
  induction work generalizing d with
  | nil =>
    obtain rfl := Except.ok.inj ran
    exact ⟨rfl, rfl, rfl⟩
  | cons item rest ih =>
    simp only [runWork, bind_eq_ok] at ran
    obtain ⟨between, first, others⟩ := ran
    obtain ⟨links, machines, functions⟩ :=
      ih (fun other member => elsewhere other (List.mem_cons_of_mem _ member)) others
    have here := elsewhere item (List.mem_cons_self ..)
    cases WorkItem.does_of_run first with
    | other _ sameLinks sameMachines sameFunctions =>
      exact ⟨links.trans sameLinks, machines.trans sameMachines, functions.trans sameFunctions⟩
    | _ => simp at here

/-- Paths, groups and policies are other work. -/
private theorem elsewhere_of_mem_rest {template : Template} {work : List WorkItem}
    {item : WorkItem} (member : item ∈ (nodesOf template .forwardingPath).map
      (nodeItem .forwardingPath) ++ inPhases (otherItems work)) :
    item.resource ∉ [Resource.virtualLink, .vdu, .vnf, .connectionPoint] := by
  rcases List.mem_append.mp member with isPath | isOther
  · obtain ⟨_, -, rfl⟩ := List.mem_map.mp isPath
    simp [nodeItem]
  · have other := (List.mem_filter.mp (List.mem_mergeSort.mp isOther)).2
    revert other
    cases item.resource <;> decide

theorem draftedFrom_of_draftsOf {freshId : Nat → String} {strict : Bool} {template : Template}
    {d : Drafts} (drafted : draftsOf freshId strict template = .ok d) :
    DraftedFrom template d := by
  simp only [draftsOf, bind_eq_ok] at drafted
  obtain ⟨work, made, ran⟩ := drafted
  simp only [inPhases_workOf made, nodeResources, List.flatMap_cons, List.flatMap_nil,
    List.append_nil, List.append_assoc, runWork_append] at ran
  obtain ⟨d₁, ranLinks, d₂, ranMachines, d₃, ranFunctions, d₄, ranPoints, ranRest⟩ := ran
  obtain ⟨links, _, eachLink, rfl⟩ := runWork_linkNodes ranLinks
  obtain ⟨machines, _, eachMachine, nobody, rfl⟩ := runWork_machineNodes ranMachines
  have names := (map_eq_map_of_forall₂ eachMachine fun _ _ isM => isM.named.symm).symm
  have linkNames := (map_eq_map_of_forall₂ eachLink fun _ _ isL => isL.named.symm).symm
  have present (target : String)
      (known : Surroundings.Knows ⟨template, nodePhases work, freshId⟩ target .vdu) :
      target ∈ machines.map (·.node) := by
    obtain ⟨node, member⟩ := @mem_nodesOf_of_knows _ _ _ _ _ .vdu made rfl known
    exact names ▸ List.mem_map_of_mem member
  obtain ⟨functions, _, eachFunction, once, rfl⟩ := runWork_functionNodes rfl
    (by simpa using nobody) (by simpa [names] using nodup_nodesOf template .vdu)
    (by simpa using present) ranFunctions
  obtain ⟨_, bound, rfl⟩ := runWork_pointNodes
    (by simpa [ownedAmong, Function.comp_def, names] using nodup_nodesOf template .vdu)
    (by simpa [linkNames] using nodup_nodesOf template .virtualLink) ranPoints
  rw [← runWork_append] at ranRest
  obtain ⟨keptLinks, keptMachines, keptFunctions⟩ :=
    runWork_elsewhere (fun _ => elsewhere_of_mem_rest) ranRest
  have itsMachines : d.machines = machines.map (ownedAmong (nodesOf template .vnf)) := by
    simp [keptMachines]
  have claims (target : String) (vdu : Vdu) (isM : IsMachine ([] ++ machines) target vdu) :
      IsMachine d.machines target vdu := by
    rw [itsMachines]
    exact (isMachine_map_ownedAmong target vdu).mpr isM
  exact {
    machines := by
      rw [itsMachines, List.forall₂_map_right_iff]
      exact eachMachine.imp fun _ _ isM => ⟨isM.named, isM.files, isM.plain, isM.described⟩
    owners := by
      rw [itsMachines]
      exact List.forall_mem_map.mpr fun _ _ => rfl
    once := once
    bound := by simpa [itsMachines] using bound
    links := ⟨links, eachLink, by simp [keptLinks, itsMachines]⟩
    functions :=
      ⟨functions, eachFunction.imp fun _ _ isF => isF.mono claims,
        by simp [keptFunctions, itsMachines]⟩ }

/-- An accepted template has drafts whose machines all have owners, and they are assembled. -/
theorem exists_drafts {freshId : Nat → String} {strict : Bool} {template : Template}
    {service : Service} (accepted : translate freshId strict template = .ok service) :
    ∃ d indices, draftsOf freshId strict template = .ok d ∧ DraftedFrom template d ∧
      Assembled d service indices ∧ ∀ m ∈ d.machines, m.owner ≠ none := by
  simp only [translate, bind_eq_ok] at accepted
  obtain ⟨work, made, d, ran, assembled⟩ := accepted
  have drafted : draftsOf freshId strict template = .ok d := by
    simp only [draftsOf, made, ok_bind, ran]
  have owned : ∀ m ∈ d.machines, m.owner ≠ none := fun m member nobody => by
    cases orphan : d.machines.find? (·.owner.isNone) with
    | none => simpa [nobody] using List.find?_eq_none.mp orphan m member
    | some m => simp [assemble, orphan] at assembled
  obtain ⟨indices, parts⟩ := assemble_ok assembled
  exact ⟨d, indices, drafted, draftedFrom_of_draftsOf drafted, parts, owned⟩

namespace DraftedFrom

variable {template : Template} (drafted : DraftedFrom template d)
include drafted

theorem nodup_machines : (d.machines.map (·.node)).Nodup := by
  rw [← map_eq_map_of_forall₂ drafted.machines fun _ _ isM => isM.named.symm]
  exact nodup_nodesOf template .vdu

/-- A connection point goes to the function that names the machine which it is bound to. -/
theorem owner_boundTo? {node : NodeTemplate} (bound : IsBound d.machines node) :
    (boundTo? d.machines node).bind (·.owner) =
      (node.targets "virtualBinding").head?.bind (ownerAmong (nodesOf template .vnf)) := by
  obtain ⟨m, place, found, -⟩ := bound
  obtain ⟨member, first⟩ := of_boundTo? found
  rw [found, first, Option.bind_some, Option.bind_some, drafted.owners m member]

/-- Every function is drafted from its node, and then it gets connection points. -/
theorem each_function : List.Forall₂ (fun entry f => ∃ plain points,
    FunctionFor d.machines entry plain ∧ f = plain.withPoints points)
      (nodesOf template .vnf) d.functions := by
  obtain ⟨plain, each, functions⟩ := drafted.functions
  rw [functions]
  exact forall₂_mapIdx each fun _ _ _ _ isF => ⟨_, _, isF, rfl⟩

theorem map_node_functions :
    d.functions.map (·.node) = (nodesOf template .vnf).map Prod.fst := by
  refine (map_eq_map_of_forall₂ drafted.each_function fun entry f isF => ?_).symm
  obtain ⟨plain, points, isPlain, rfl⟩ := isF
  rw [node_withPoints, isPlain.named]

end DraftedFrom

/-! ## A service of two functions -/

/-- Two functions on one link, beside a link without connection points. One function has two
machines and names one of them twice; the other is on the link twice. -/
def pairTemplate : Template :=
  { version := profileVersion
    metadata := [(.string "ID", .string "pair_nsd")]
    topology :=
      { nodes := .ofList [
          ("lan", textNode "tosca.nodes.nfv.VL.ELAN" [("id", "lan")] []),
          ("ping", textNode "tosca.nodes.nfv.VNF" [("id", "ping_vnfd")]
            [("vdus", "ping_db"), ("vdus", "ping_io"), ("vdus", "ping_db")]),
          ("ping_io", textNode "tosca.nodes.nfv.VDU" [("id", "io")] []),
          ("ping_cp", textNode "tosca.nodes.nfv.CP" [("name", "ping/cp0")]
            [("virtualBinding", "ping_io"), ("virtualLink", "lan")]),
          ("ping_db", textNode "tosca.nodes.nfv.VDU" [("id", "db")] []),
          ("wan", textNode "tosca.nodes.nfv.VL.ELAN" [("id", "wan")] []),
          ("pong", textNode "tosca.nodes.nfv.VNF" [("id", "pong_vnfd")] [("vdus", "pong_io")]),
          ("pong_io", textNode "tosca.nodes.nfv.VDU" [("id", "io")] []),
          ("pong_cp", textNode "tosca.nodes.nfv.CP" [("name", "pong/cp0")]
            [("virtualBinding", "pong_io"), ("virtualLink", "lan"), ("virtualLink", "lan")])] } }

/-- What the nodes of the template are drafted as. -/
def pairDrafts : Drafts :=
  { links := [
      { node := "lan", vld := { id := "lan", name := "lan", linkType := some "ELAN" }
        points := [(0, "ping/cp0"), (1, "pong/cp0"), (1, "pong/cp0")] },
      { node := "wan", vld := { id := "wan", name := "wan", linkType := some "ELAN" } }]
    machines := [
      { node := "ping_io", vdu := { id := "io", name := "ping_io" }, owner := some 0 },
      { node := "ping_db", vdu := { id := "db", name := "ping_db" }, owner := some 0 },
      { node := "pong_io", vdu := { id := "io", name := "pong_io" }, owner := some 1 }]
    functions := [
      { node := "ping"
        vnfd := {
          id := "ping_vnfd", name := "ping"
          points := [{ name := "ping/cp0" }]
          vdus := [
            { id := "db", name := "ping_db" },
            { id := "io", name := "ping_io"
              interfaces := [
                { name := "eth0", pointRef := "ping/cp0", virtualType := some "VIRTIO" }] }] } },
      { node := "pong"
        vnfd := {
          id := "pong_vnfd", name := "pong", mgmt := some { vdu := some "io" }
          points := [{ name := "pong/cp0" }]
          vdus := [
            { id := "io", name := "pong_io"
              interfaces := [
                { name := "eth0", pointRef := "pong/cp0", virtualType := some "VIRTIO" }] }] } }]
    points := [
      { node := "ping_cp", function := 0, name := "ping/cp0" },
      { node := "pong_cp", function := 1, name := "pong/cp0" }] }

theorem pairTemplate_accepted :
    ∃ service, translate (fun _ => "") true pairTemplate = .ok service ∧
      Assembled pairDrafts service [1, 2] :=
  exists_translated pairDrafts [1, 2] (by decide +kernel) rfl (by decide) rfl

end NfvCatalog.Translation
