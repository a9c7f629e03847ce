import NfvCatalog.Proofs.Descriptor.Valid
import NfvCatalog.Proofs.Translation.Phases

/-! # What drafts contain

At any time during a translation the drafts have a machine for every VDU node that is done, a
function for every VNF node and a connection point for every node of one. A machine that is owned
stands among the machines of its owner, apart from interfaces that the owner's has received since;
and functions refer only to connection points and machines of their own.
-/

namespace NfvCatalog

@[simp] theorem Vdu.bare_bare (vdu : Vdu) : vdu.bare.bare = vdu.bare := rfl

@[simp] theorem Vdu.id_bare (vdu : Vdu) : vdu.bare.id = vdu.id := rfl

/-- A machine with an id is found if there is one. -/
theorem Vnfd.vdu?_isSome {vnfd : Vnfd} {id : String} :
    (vnfd.vdu? id).isSome = true ↔ ∃ vdu ∈ vnfd.vdus, vdu.id = id := by
  simp [Vnfd.vdu?]

theorem Vnfd.declares_iff {vnfd : Vnfd} {point : String} :
    vnfd.declares point = true ↔ ∃ p ∈ vnfd.points, p.name = point := by
  simp [Vnfd.declares]

end NfvCatalog

namespace NfvCatalog.Translation

open Tosca

theorem DescribedBy.of_bare {name : String} {node : NodeTemplate} {vdu : Vdu}
    (described : DescribedBy name node vdu.bare) : DescribedBy name node vdu :=
  ⟨described.id, described.described⟩

/-! ## Connection points -/

/-- The connection point of a node. -/
def pointOf (name : String) (node : NodeTemplate) : ConnectionPoint :=
  { name := nameOf node.properties name
    pointType := ((node.properties.text? "cp_type").or (node.properties.text? "type")).getD
      defaultPointType }

section Attached

variable (vduId : String)

/-- A new interface changes nothing else about machines. -/
private theorem map_bare_attachInterface (point : String) (properties : Value.Entries)
    (vdus : List Vdu) :
    (attachInterface vduId point properties vdus).map Vdu.bare = vdus.map Vdu.bare := by
  induction vdus with
  | nil => rfl
  | cons vdu rest ih =>
    by_cases own : vdu.id = vduId
    · simp [attachInterface, own, Vdu.bare]
    · simp [attachInterface, own, ih]

private theorem interfaces_attachInterface {point : String} {properties : Value.Entries}
    {vdus : List Vdu} : ∀ vdu ∈ attachInterface vduId point properties vdus,
      ∀ interface ∈ vdu.interfaces,
        interface.pointRef = point ∨ ∃ old ∈ vdus, interface ∈ old.interfaces := by
  induction vdus with
  | nil => simp [attachInterface]
  | cons first rest ih =>
    intro vdu member interface inVdu
    by_cases own : first.id = vduId
    · simp only [attachInterface, own, if_true, List.mem_cons] at member
      rcases member with rfl | member
      · rcases List.mem_append.mp inVdu with old | new
        · exact .inr ⟨first, List.mem_cons_self .., old⟩
        · exact .inl (by rw [List.mem_singleton.mp new])
      · exact .inr ⟨vdu, List.mem_cons_of_mem _ member, inVdu⟩
    · simp only [attachInterface, own, if_false, List.mem_cons] at member
      rcases member with rfl | member
      · exact .inr ⟨vdu, List.mem_cons_self .., inVdu⟩
      · rcases ih vdu member interface inVdu with new | ⟨old, inRest, inOld⟩
        · exact .inl new
        · exact .inr ⟨old, List.mem_cons_of_mem _ inRest, inOld⟩

variable (name : String) (node : NodeTemplate) (f : FunctionDraft)

@[simp] theorem id_withPoint : (f.withPoint vduId name node).vnfd.id = f.vnfd.id := rfl

@[simp] theorem points_withPoint :
    (f.withPoint vduId name node).vnfd.points = f.vnfd.points ++ [pointOf name node] := rfl

@[simp] theorem map_bare_withPoint :
    (f.withPoint vduId name node).vnfd.vdus.map Vdu.bare = f.vnfd.vdus.map Vdu.bare :=
  map_bare_attachInterface ..

/-- The machines of a function keep their ids. -/
private theorem exists_id_withPoint (id : String) :
    (∃ vdu ∈ (f.withPoint vduId name node).vnfd.vdus, vdu.id = id) ↔
      ∃ vdu ∈ f.vnfd.vdus, vdu.id = id := by
  have ids (vdus : List Vdu) : (∃ vdu ∈ vdus, vdu.id = id) ↔
      ∃ vdu ∈ vdus.map Vdu.bare, vdu.id = id := by
    simp
  rw [ids, map_bare_withPoint, ← ids]

theorem refersWithin_withPoint {f : FunctionDraft} (within : f.vnfd.RefersWithin) :
    (f.withPoint vduId name node).vnfd.RefersWithin where
  interfaces vdu member interface inVdu := by
    rw [Vnfd.declares_iff, points_withPoint]
    rcases interfaces_attachInterface vduId vdu member interface inVdu with new | ⟨old, inF, inOld⟩
    · exact ⟨pointOf name node, by simp, new.symm⟩
    · obtain ⟨point, declared, same⟩ := Vnfd.declares_iff.mp (within.interfaces old inF _ inOld)
      exact ⟨point, List.mem_append_left _ declared, same⟩
  mgmt mgmt managed id named := by
    rw [Vnfd.vdu?_isSome, exists_id_withPoint, ← Vnfd.vdu?_isSome]
    exact within.mgmt mgmt managed id named

end Attached

/-! ## What later drafts keep -/

/-- A function keeps its id and its machines and loses no connection point. -/
structure FunctionDraft.Grows (f f' : FunctionDraft) : Prop where
  id : f'.vnfd.id = f.vnfd.id
  vdus : f'.vnfd.vdus.map Vdu.bare = f.vnfd.vdus.map Vdu.bare
  points : ∀ point ∈ f.vnfd.points, point ∈ f'.vnfd.points

theorem FunctionDraft.Grows.refl (f : FunctionDraft) : f.Grows f :=
  ⟨rfl, rfl, fun _ member => member⟩

/-- Later drafts keep the machines of earlier ones, with their owners, and their functions. -/
structure Drafts.Within (d d' : Drafts) : Prop where
  machines : ∀ m ∈ d.machines, ∃ m' ∈ d'.machines, m'.node = m.node ∧ m'.vdu = m.vdu ∧
    ∀ place, m.owner = some place → m'.owner = some place
  functions : ∀ (place : Nat) (f : FunctionDraft), d.functions[place]? = some f →
    ∃ f', d'.functions[place]? = some f' ∧ f.Grows f'

/-- The function at a place owns the machine of a node. -/
def Drafts.Owns (d : Drafts) (place : Nat) (target : String) : Prop :=
  ∃ m ∈ d.machines, m.node = target ∧ m.owner = some place

/-- The function at a place is that of a node, and owns the machines that the node claims. -/
def Drafts.HasFunction (d : Drafts) (place : Nat) (node : NodeTemplate) : Prop :=
  (∃ f, d.functions[place]? = some f ∧ ∀ id ∈ node.properties.text? "id", f.vnfd.id = id) ∧
    ∀ target ∈ node.targets "vdus", d.Owns place target

/-- The connection point of a node is a point of the function that owns its machine. -/
def Drafts.HasPoint (d : Drafts) (name : String) (node : NodeTemplate) : Prop :=
  ∃ target place f, (node.targets "virtualBinding").head? = some target ∧ d.Owns place target ∧
    d.functions[place]? = some f ∧ pointOf name node ∈ f.vnfd.points

section Within

variable {d d' : Drafts} (within : d.Within d')
include within

theorem Drafts.Owns.mono {place : Nat} {target : String} (owns : d.Owns place target) :
    d'.Owns place target := by
  obtain ⟨m, member, rfl, owner⟩ := owns
  obtain ⟨m', member', node, -, keeps⟩ := within.machines m member
  exact ⟨m', member', node, keeps place owner⟩

theorem Drafts.HasFunction.mono {place : Nat} {node : NodeTemplate}
    (has : d.HasFunction place node) : d'.HasFunction place node := by
  obtain ⟨⟨f, drafted, id⟩, owns⟩ := has
  obtain ⟨f', drafted', grows⟩ := within.functions place f drafted
  exact ⟨⟨f', drafted', fun given written => grows.id.trans (id given written)⟩,
    fun target claimed => (owns target claimed).mono within⟩

theorem Drafts.HasPoint.mono {name : String} {node : NodeTemplate} (has : d.HasPoint name node) :
    d'.HasPoint name node := by
  obtain ⟨target, place, f, first, owns, drafted, point⟩ := has
  obtain ⟨f', drafted', grows⟩ := within.functions place f drafted
  exact ⟨target, place, f', first, owns.mono within, drafted', grows.points _ point⟩

end Within

/-! ## What every step keeps -/

/-- The type that the node of a link gives to the link. -/
def WorkItem.linkType? (item : WorkItem) : Option String :=
  match item.entity with
  | .node node => some (Text.asciiUpper (linkTypeOf node))
  | _ => none

/-- Drafts follow the work that is done: there is a link for every link node, a machine for every
VDU node, a function for every VNF node and a connection point for every node of one. -/
structure Drafts.Follows (done : List WorkItem) (d : Drafts) : Prop where
  links : d.links.map (·.vld.linkType) = (ofResource .virtualLink done).map WorkItem.linkType?
  nodes : d.machines.map (·.node) = (ofResource .vdu done).map (·.name)
  plain : ∀ m ∈ d.machines, m.vdu.interfaces = []
  described : ∀ m ∈ d.machines, ∃ node,
    ⟨m.node, .node node, .vdu⟩ ∈ done ∧ DescribedBy m.node node m.vdu
  owned : ∀ m ∈ d.machines, ∀ place, m.owner = some place →
    ∃ f, d.functions[place]? = some f ∧ m.vdu ∈ f.vnfd.vdus.map Vdu.bare
  refers : ∀ f ∈ d.functions, f.vnfd.RefersWithin
  count : d.functions.length = (ofResource .vnf done).length
  functions : ∀ (place : Nat) (name : String) (node : NodeTemplate),
    (ofResource .vnf done)[place]? = some ⟨name, .node node, .vnf⟩ → d.HasFunction place node
  points : ∀ (name : String) (node : NodeTemplate),
    ⟨name, .node node, .connectionPoint⟩ ∈ done → d.HasPoint name node

/-- A claim takes no machine from its owner. -/
private theorem within_of_claims {s : Surroundings} {d : Drafts} {targets : List String}
    {claimed : Claimed} (claims : Claims s d.functions.length targets d.machines [] claimed)
    (f : FunctionDraft) (drawn : Nat) :
    d.Within { d with
      machines := d.machines.map (claimedBy d.functions.length targets)
      functions := d.functions ++ [f]
      drawn := drawn } := by
  refine ⟨
    fun m member => ⟨_, List.mem_map_of_mem member, by simp, by simp, fun place owner => ?_⟩,
    fun place g drafted => ⟨g, getElem?_append_singleton.mpr (.inl drafted), .refl g⟩⟩
  by_cases named : m.node ∈ targets
  · obtain mine : d.functions.length = place := by
      obtain owner' := (claims.free m member named).resolve_left (by simp [owner])
      exact Option.some.inj (owner'.symm.trans owner)
    simp [claimedBy, named, mine]
  · rwa [claimedBy_of_not_mem named]

/-- A new connection point lets one function grow and leaves the others alone. -/
private theorem within_withPoint (d : Drafts) (vduId name : String) (node : NodeTemplate)
    (owner : Nat) (links : List LinkDraft) (points : List PointDraft) :
    d.Within { d with
      functions := d.functions.modify owner (·.withPoint vduId name node)
      links := links
      points := points } := by
  refine ⟨fun m member => ⟨m, member, rfl, rfl, fun _ owner => owner⟩,
    fun place f drafted => ?_⟩
  rw [List.getElem?_modify, drafted]
  by_cases mine : owner = place
  · exact ⟨f.withPoint vduId name node, by simp [mine],
      ⟨rfl, by simp, fun point inF => by simp [inF]⟩⟩
  · exact ⟨f, by simp [mine], .refl f⟩

namespace Drafts.Follows

theorem start : Follows [] { } where
  links := rfl
  nodes := rfl
  plain := by simp
  described := by simp
  owned := by simp
  refers := by simp
  count := rfl
  functions := by simp [ofResource]
  points := by simp

variable {s : Surroundings} {done : List WorkItem} {name : String} {node : NodeTemplate}
  {d d' : Drafts} (follows : d.Follows done)
include follows

theorem link (added : addLink s name node d = .ok d') :
    d'.Follows (done ++ [⟨name, .node node, .virtualLink⟩]) := by
  obtain ⟨vld, drawn, described, rfl⟩ := addLink_ok added
  have within : d.Within { d with links := d.links ++ [{ node := name, vld := vld }]
                                  drawn := drawn } :=
    ⟨fun m member => ⟨m, member, rfl, rfl, fun _ owner => owner⟩,
      fun _ f drafted => ⟨f, drafted, .refl f⟩⟩
  refine ⟨?_, ?_, follows.plain, fun m member => ?_, follows.owned, follows.refers, ?_,
    fun place name node item => ?_, fun name node item => ?_⟩
  · simp [follows.links, ofResource, (vldOf_ok described.described).1, WorkItem.linkType?]
  · simpa [ofResource] using follows.nodes
  · obtain ⟨itsNode, item, described⟩ := follows.described m member
    exact ⟨itsNode, List.mem_append_left _ item, described⟩
  · simpa [ofResource] using follows.count
  · exact (follows.functions place name node (by simpa [ofResource] using item)).mono within
  · exact (follows.points name node (by simpa using item)).mono within

theorem machine (added : addMachine s name node d = .ok d') :
    d'.Follows (done ++ [⟨name, .node node, .vdu⟩]) := by
  obtain ⟨machine, drawn, rfl, -, nobody, plain, described, rfl⟩ := addMachine_ok added
  have within : d.Within { d with machines := d.machines ++ [machine], drawn := drawn } :=
    ⟨fun m member => ⟨m, List.mem_append_left _ member, rfl, rfl, fun _ owner => owner⟩,
      fun _ f drafted => ⟨f, drafted, .refl f⟩⟩
  refine ⟨?_, ?_, ?_, ?_, ?_, follows.refers, ?_, fun place name node item => ?_,
    fun name node item => ?_⟩
  · simpa [ofResource] using follows.links
  · simp [follows.nodes, ofResource]
  · simpa [or_imp, forall_and, plain] using follows.plain
  · intro m member
    rcases List.mem_append.mp member with member | new
    · obtain ⟨node, item, described⟩ := follows.described m member
      exact ⟨node, List.mem_append_left _ item, described⟩
    · obtain rfl := List.mem_singleton.mp new
      exact ⟨node, by simp, described⟩
  · intro m member place owner
    rcases List.mem_append.mp member with member | new
    · exact follows.owned m member place owner
    · obtain rfl := List.mem_singleton.mp new
      rw [nobody] at owner
      cases owner
  · simpa [ofResource] using follows.count
  · exact (follows.functions place name node (by simpa [ofResource] using item)).mono within
  · exact (follows.points name node (by simpa using item)).mono within

/-- Claimed machines are unowned until then, and owned by the new function afterwards. -/
private theorem owned_of_claims {f : FunctionDraft} {claimed : Claimed}
    (isF : FunctionOf name node claimed f)
    (claims : Claims s d.functions.length (node.targets "vdus") d.machines [] claimed) :
    ∀ m ∈ d.machines, m.node ∈ node.targets "vdus" → m.vdu ∈ f.vnfd.vdus.map Vdu.bare := by
  intro m member named
  have nobody : m.owner = none := (claims.free m member named).resolve_right fun owner => by
    obtain ⟨g, drafted, -⟩ := follows.owned m member _ owner
    simp at drafted
  have entry : (m.node, m.vdu) ∈ claimed :=
    (claims.claims _).mpr (.inr ⟨m, member, named, nobody, rfl⟩)
  rw [isF.vdus, ← Vdu.bare_of_nil (follows.plain m member)]
  exact List.mem_map_of_mem (List.mem_map_of_mem entry)

private theorem refersWithin_of_claims {f : FunctionDraft} {claimed : Claimed}
    (isF : FunctionOf name node claimed f)
    (claims : Claims s d.functions.length (node.targets "vdus") d.machines [] claimed) :
    f.vnfd.RefersWithin where
  interfaces vdu member interface inVdu := by
    rw [isF.vdus] at member
    obtain ⟨entry, inClaimed, rfl⟩ := List.mem_map.mp member
    obtain ⟨m, inMachines, -, -, rfl⟩ := ((claims.claims entry).mp inClaimed).resolve_left (by simp)
    rw [follows.plain m inMachines] at inVdu
    cases inVdu
  mgmt mgmt given id named := Vnfd.vdu?_isSome.mpr (isF.managed mgmt given id named)

theorem function (distinct : (d.machines.map (·.node)).Nodup)
    (present : ∀ target, s.Knows target .vdu → ∃ m ∈ d.machines, m.node = target)
    (added : addFunction s name node d = .ok d') :
    d'.Follows (done ++ [⟨name, .node node, .vnf⟩]) := by
  obtain ⟨f, claimed, drawn, isF, claims, rfl⟩ := addFunction_ok distinct added
  have within := within_of_claims claims f drawn
  refine ⟨?_, ?_, ?_, ?_, ?_, ?_, ?_, fun place other itsNode item => ?_,
    fun other itsNode item => ?_⟩
  · simpa [ofResource] using follows.links
  · simp [follows.nodes, ofResource, Function.comp_def]
  · simpa using follows.plain
  · refine List.forall_mem_map.mpr fun m member => ?_
    obtain ⟨itsNode, item, described⟩ := follows.described m member
    exact ⟨itsNode, List.mem_append_left _ (by simpa using item), by simpa using described⟩
  · refine List.forall_mem_map.mpr fun m member place owner => ?_
    by_cases named : m.node ∈ node.targets "vdus"
    · obtain rfl : d.functions.length = place := by simpa [claimedBy, named] using owner
      exact ⟨f, by simp, by simpa using owned_of_claims follows isF claims m member named⟩
    · rw [claimedBy_of_not_mem named] at owner ⊢
      obtain ⟨g, drafted, own⟩ := follows.owned m member place owner
      exact ⟨g, getElem?_append_singleton.mpr (.inl drafted), own⟩
  · simpa [or_imp, forall_and] using
      ⟨follows.refers, refersWithin_of_claims follows isF claims⟩
  · simp [follows.count, ofResource]
  · have items : ofResource .vnf (done ++ [⟨name, .node node, .vnf⟩]) =
        ofResource .vnf done ++ [⟨name, .node node, .vnf⟩] := by
      simp [ofResource]
    rw [items] at item
    rcases getElem?_append_singleton.mp item with item | ⟨rfl, same⟩
    · exact (follows.functions place other itsNode item).mono within
    · obtain ⟨-, rfl⟩ : name = other ∧ node = itsNode := by simpa using same
      rw [← follows.count]
      refine ⟨⟨f, by simp, isF.id⟩, fun target named => ?_⟩
      obtain ⟨m, member, rfl⟩ := present target (claims.known target named)
      exact ⟨_, List.mem_map_of_mem member, by simp, by simp [claimedBy, named]⟩
  · exact (follows.points other itsNode (by simpa using item)).mono within

theorem point (added : addPoint s name node d = .ok d') :
    d'.Follows (done ++ [⟨name, .node node, .connectionPoint⟩]) := by
  obtain ⟨machine, member, first, owner, links, owned, -, sameLinks, -, rfl⟩ := addPoint_ok added
  have within := within_withPoint d machine.vdu.id name node owner links
    (d.points ++ [{ node := name, function := owner, name := nameOf node.properties name }])
  refine ⟨?_, ?_, follows.plain, ?_, ?_, ?_, ?_, fun place other itsNode item => ?_,
    fun other itsNode item => ?_⟩
  · have types : links.map (·.vld.linkType) = d.links.map (·.vld.linkType) := by
      simpa [Function.comp_def] using congrArg (List.map Vld.linkType) sameLinks
    simp [types, follows.links, ofResource]
  · simp [follows.nodes, ofResource]
  · intro m inMachines
    obtain ⟨itsNode, item, described⟩ := follows.described m inMachines
    exact ⟨itsNode, List.mem_append_left _ item, described⟩
  · intro m inMachines place itsOwner
    obtain ⟨g, drafted, own⟩ := follows.owned m inMachines place itsOwner
    obtain ⟨g', drafted', grows⟩ := within.functions place g drafted
    exact ⟨g', drafted', grows.vdus ▸ own⟩
  · intro g inFunctions
    obtain ⟨place, drafted⟩ := List.mem_iff_getElem?.mp inFunctions
    rw [List.getElem?_modify] at drafted
    obtain ⟨old, inOld, rfl⟩ := Option.map_eq_some_iff.mp drafted
    have refers := follows.refers old (List.mem_of_getElem? inOld)
    by_cases mine : owner = place
    · simpa [mine] using refersWithin_withPoint machine.vdu.id name node refers
    · simpa [mine] using refers
  · simp [follows.count, ofResource]
  · exact (follows.functions place other itsNode (by simpa [ofResource] using item)).mono within
  · rcases List.mem_append.mp item with item | new
    · exact (follows.points other itsNode item).mono within
    · obtain ⟨rfl, rfl⟩ : other = name ∧ itsNode = node := by simpa using new
      obtain ⟨g, drafted, -⟩ := follows.owned machine member owner owned
      exact ⟨machine.node, owner, g.withPoint machine.vdu.id other itsNode, first,
        ⟨machine, member, rfl, owned⟩, by simp [drafted], by simp⟩

theorem other {item : WorkItem}
    (elsewhere : item.resource ∉ [.virtualLink, .vdu, .vnf, .connectionPoint])
    (links : d'.links = d.links) (machines : d'.machines = d.machines)
    (functions : d'.functions = d.functions) : d'.Follows (done ++ [item]) := by
  have kept {resource : Resource} (here : resource ∈ [.virtualLink, .vdu, .vnf, .connectionPoint]) :
      ofResource resource (done ++ [item]) = ofResource resource done := by
    have other : item.resource ≠ resource := fun same => elsewhere (same ▸ here)
    simp [ofResource, other]
  have within : d.Within d' :=
    ⟨fun m member => ⟨m, machines ▸ member, rfl, rfl, fun _ owner => owner⟩,
      fun _ f drafted => ⟨f, functions ▸ drafted, .refl f⟩⟩
  refine ⟨?_, ?_, machines ▸ follows.plain, fun m member => ?_, ?_, functions ▸ follows.refers, ?_,
    fun place name node listed => ?_, fun name node listed => ?_⟩
  · rw [links, kept (by simp), follows.links]
  · rw [machines, kept (by simp), follows.nodes]
  · obtain ⟨itsNode, listed, described⟩ := follows.described m (machines ▸ member)
    exact ⟨itsNode, List.mem_append_left _ listed, described⟩
  · rw [machines, functions]
    exact follows.owned
  · rw [functions, kept (by simp), follows.count]
  · rw [kept (by simp)] at listed
    exact (follows.functions place name node listed).mono within
  · refine (follows.points name node ((List.mem_append.mp listed).resolve_right fun new => ?_)).mono
      within
    exact elsewhere (by simp [← List.mem_singleton.mp new])

end Drafts.Follows

/-! ## Whole runs -/

section Run

variable {template : Template} {strict : Bool} {work : List WorkItem}
  (made : workOf template strict (Entity.ofTopology template.topology) = .ok work)
include made

/-- The machines that are done have distinct names. -/
private theorem nodup_done {done rest : List WorkItem} (split : inPhases work = done ++ rest) :
    ((ofResource .vdu done).map (·.name)).Nodup := by
  have names : (ofResource .vdu (inPhases work)).map (·.name) =
      (nodesOf template .vdu).map Prod.fst := by
    rw [ofResource_inPhases rfl, ofResource_workOf made rfl, List.map_map]
    rfl
  have distinct := nodup_nodesOf template .vdu
  rw [← names, split, ofResource_append, List.map_append] at distinct
  exact List.Nodup.of_append_left distinct

/-- The drafts of a whole run follow all of the work. -/
theorem follows_of_runWork {freshId : Nat → String} {d : Drafts}
    (ran : runWork ⟨template, nodePhases work, freshId⟩ (inPhases work) { } = .ok d) :
    d.Follows (inPhases work) := by
  refine runWork_induction (fun done d => d.Follows done) Drafts.Follows.start
    (fun done item rest before after split follows does => ?_) ran
  have distinct : (before.machines.map (·.node)).Nodup := follows.nodes ▸ nodup_done made split
  cases does with
  | link added => exact follows.link added
  | machine added => exact follows.machine added
  | function added =>
    refine follows.function distinct (fun target known => ?_) added
    -- A VDU node that is known is done, because machines come before functions.
    obtain ⟨other, isDone, named, phase⟩ := mem_done_of_knows split known
      (by simp [Resource.phase, Phase.rank])
    have isMachine : other.resource = .vdu := by
      cases own : other.resource <;> simp_all [Resource.phase]
    have drafted : target ∈ before.machines.map (·.node) := by
      rw [follows.nodes]
      exact List.mem_map.mpr ⟨other, mem_ofResource.mpr ⟨isDone, isMachine⟩, named⟩
    exact List.mem_map.mp drafted
  | point added => exact follows.point added
  | other elsewhere links machines functions =>
    exact follows.other elsewhere links machines functions

end Run

/-- An accepted template has work, and drafts with distinct machines that follow it. -/
theorem translate_ok {freshId : Nat → String} {strict : Bool} {template : Template}
    {service : Service} (accepted : translate freshId strict template = .ok service) :
    ∃ work d, workOf template strict (Entity.ofTopology template.topology) = .ok work ∧
      d.Follows (inPhases work) ∧ (d.machines.map (·.node)).Nodup ∧
        assemble ⟨template, nodePhases work, freshId⟩ d = .ok service := by
  simp only [translate, bind_eq_ok] at accepted
  obtain ⟨work, made, d, ran, assembled⟩ := accepted
  have follows := follows_of_runWork made ran
  exact ⟨work, d, made, follows, follows.nodes ▸ nodup_done made (List.append_nil _).symm,
    assembled⟩

end NfvCatalog.Translation
