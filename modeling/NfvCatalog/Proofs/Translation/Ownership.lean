import Mathlib.Data.List.Pairwise
import NfvCatalog.Proofs.Translation.Runs
import Std.Data.String.ToNat

/-! # Machines and their owners

In an accepted template every machine has one owner, which decides where the interfaces land that
are bound to the machine. Where they land decides how they are named.
-/

/-! ## Owners of machines

In an accepted template every VDU node is named by exactly one VNF node. The function of a VNF node
has the machines that the node names, each of them once, in the order in which they are first named.
A template in which a VDU node is named by no VNF node or by two of them is refused.
-/

namespace NfvCatalog.Translation

open Tosca

/-- A VNF node names a VDU node. -/
def Names (template : Template) (owner machine : String × NodeTemplate) : Prop :=
  owner ∈ nodesOf template .vnf ∧ machine.1 ∈ owner.2.targets "vdus"

/-- A machine of a function is the one that was drafted for a VDU node, but for its interfaces. -/
structure BuiltFrom (template : Template) (d : Drafts) (target : String) (vdu : Vdu) : Prop where
  drafted : IsMachine d.machines target vdu.bare
  described : ∃ node, (target, node) ∈ nodesOf template .vdu ∧ DescribedBy target node vdu

/-- The function of a VNF node has the machines that the node names, each of them once. -/
structure HasMachines (template : Template) (d : Drafts) (owner : String × NodeTemplate)
    (f : FunctionDraft) : Prop where
  node : f.node = owner.1
  once : (mentions owner.2).Nodup
  vdus : List.Forall₂ (BuiltFrom template d) (mentions owner.2) f.vnfd.vdus

/-- No two functions name one machine. -/
theorem NamedOnce.eq_of_mem {nodes : List (String × NodeTemplate)} (once : NamedOnce nodes)
    {owner other : String × NodeTemplate} {target : String} (isOwner : owner ∈ nodes)
    (isOther : other ∈ nodes) (named : target ∈ owner.2.targets "vdus")
    (again : target ∈ other.2.targets "vdus") : owner = other := by
  have : Std.Symm fun entry other : String × NodeTemplate =>
      ∀ target ∈ entry.2.targets "vdus", target ∉ other.2.targets "vdus" :=
    ⟨fun entry other apart target inOther inEntry => apart target inEntry inOther⟩
  by_contra different
  exact once.forall isOwner isOther different target named again

/-- The place of the only function that names a machine. -/
theorem NamedOnce.ownerAmong_eq_some {nodes : List (String × NodeTemplate)} (once : NamedOnce nodes)
    {place : Nat} {owner : String × NodeTemplate} (there : nodes[place]? = some owner)
    (target : String) :
    ownerAmong nodes target = some place ↔ target ∈ owner.2.targets "vdus" := by
  obtain ⟨inside, rfl⟩ := List.getElem?_eq_some_iff.mp there
  rw [ownerAmong, List.findIdx?_eq_some_iff_getElem]
  constructor
  · rintro ⟨_, named, _⟩
    simpa using named
  · intro named
    refine ⟨inside, by simpa using named, fun earlier before => ?_⟩
    simpa using fun again =>
      List.pairwise_iff_getElem.mp once earlier place (before.trans inside) inside before
        target again named

section Drafted

variable {template : Template} {d : Drafts} (drafted : DraftedFrom template d)
include drafted

/-- A machine comes from a VDU node. -/
theorem builtFrom_of_isMachine {target : String} {vdu : Vdu}
    (isM : IsMachine d.machines target vdu.bare) : BuiltFrom template d target vdu := by
  refine ⟨isM, ?_⟩
  obtain ⟨m, member, rfl, same⟩ := isM
  obtain ⟨entry, inNodes, isM⟩ := exists_of_mem_right drafted.machines member
  refine ⟨entry.2, isM.named ▸ inNodes, DescribedBy.of_bare ?_⟩
  rw [← same, isM.named]
  exact isM.described

theorem hasMachines : List.Forall₂ (HasMachines template d) (nodesOf template .vnf)
    d.functions := by
  refine drafted.each_function.imp fun owner f isF => ?_
  obtain ⟨plain, points, isF, rfl⟩ := isF
  refine ⟨(node_withPoints ..).trans isF.named, nodup_mentions _, ?_⟩
  have bare : List.Forall₂ (IsMachine d.machines) (mentions owner.2)
      (plain.vnfd.vdus.map Vdu.bare) := by
    refine List.forall₂_map_right_iff.mpr (isF.vdus.imp fun target vdu isM => ?_)
    obtain ⟨m, member, named, rfl⟩ := isM
    obtain ⟨_, -, isM⟩ := exists_of_mem_right drafted.machines member
    exact ⟨m, member, named, (Vdu.bare_of_nil isM.plain).symm⟩
  rw [← map_bare_withPoints points, List.forall₂_map_right_iff] at bare
  exact bare.imp fun target vdu => builtFrom_of_isMachine drafted

/-- A VDU node whose machine is owned is named by one VNF node and by no other. -/
theorem existsUnique_names (owned : ∀ m ∈ d.machines, m.owner ≠ none)
    {machine : String × NodeTemplate} (isNode : machine ∈ nodesOf template .vdu) :
    ∃! owner, Names template owner machine := by
  obtain ⟨m, member, isM⟩ := exists_of_mem_left drafted.machines isNode
  obtain ⟨place, owner⟩ := Option.ne_none_iff_exists'.mp (owned m member)
  rw [drafted.owners m member, isM.named] at owner
  obtain ⟨inside, named, -⟩ := List.findIdx?_eq_some_iff_getElem.mp owner
  have isOwner : Names template (nodesOf template .vnf)[place] machine :=
    ⟨List.getElem_mem inside, by simpa using named⟩
  exact ⟨_, isOwner, fun other isOther =>
    drafted.once.eq_of_mem isOther.1 isOwner.1 isOther.2 isOwner.2⟩

end Drafted

/-- In an accepted template every VDU node is named by exactly one VNF node, and the functions have
the machines that their nodes name. A template with a VDU node that no VNF node names, or that two of
them name, is refused. -/
theorem translate_owns_machines (freshId : Nat → String) (strict : Bool) (template : Template) :
    (∀ service, translate freshId strict template = .ok service →
      (∀ machine ∈ nodesOf template .vdu, ∃! owner, Names template owner machine) ∧
      ∃ d, draftsOf freshId strict template = .ok d ∧ service.vnfds = vnfdsOf d.functions ∧
        List.Forall₂ (HasMachines template d) (nodesOf template .vnf) d.functions) ∧
    ∀ machine ∈ nodesOf template .vdu,
      ((∀ owner, ¬ Names template owner machine) ∨
        ∃ owner other, owner ≠ other ∧ Names template owner machine ∧
          Names template other machine) →
      ∃ error, translate freshId strict template = .error error := by
  have unique (service : Service) (accepted : translate freshId strict template = .ok service)
      (machine : String × NodeTemplate) (isNode : machine ∈ nodesOf template .vdu) :
      ∃! owner, Names template owner machine := by
    obtain ⟨d, -, -, drafted, -, owned⟩ := exists_drafts accepted
    exact existsUnique_names drafted owned isNode
  refine ⟨fun service accepted => ⟨unique service accepted, ?_⟩, fun machine isNode wrong => ?_⟩
  · obtain ⟨d, indices, ran, drafted, assembled, -⟩ := exists_drafts accepted
    exact ⟨d, ran, assembled.vnfds, hasMachines drafted⟩
  · cases outcome : translate freshId strict template with
    | error error => exact ⟨error, rfl⟩
    | ok service =>
      obtain ⟨owner, names, only⟩ := unique service outcome machine isNode
      rcases wrong with nobody | ⟨first, second, different, names₁, names₂⟩
      · exact absurd names (nobody owner)
      · exact absurd ((only first names₁).trans (only second names₂).symm) different

/-- The template of two functions with another function, which names a machine of the first. -/
def rivalTemplate : Template :=
  { pairTemplate with
    topology := { pairTemplate.topology with
      nodes := pairTemplate.topology.nodes.insert "rival"
        (textNode "tosca.nodes.nfv.VNF" [("id", "rival_vnfd")] [("vdus", "ping_db")]) } }

/-- A function has the machine that it names twice only once and where it is first named. With a
rival for this machine there is no service. -/
theorem pairTemplate_owns_machines :
    (∃ service d f, translate (fun _ => "") true pairTemplate = .ok service ∧
      draftsOf (fun _ => "") true pairTemplate = .ok d ∧ d.functions.head? = some f ∧
      List.Forall₂ (BuiltFrom pairTemplate d) ["ping_db", "ping_io"] f.vnfd.vdus) ∧
    ∃ error, translate (fun _ => "") true rivalTemplate = .error error := by
  refine ⟨?_, ?_⟩
  · obtain ⟨service, accepted, -⟩ := pairTemplate_accepted
    obtain ⟨-, d, drafted, -, each⟩ :=
      (translate_owns_machines (fun _ => "") true pairTemplate).1 service accepted
    have nodes : nodesOf pairTemplate .vnf = [
        ("ping", textNode "tosca.nodes.nfv.VNF" [("id", "ping_vnfd")]
          [("vdus", "ping_db"), ("vdus", "ping_io"), ("vdus", "ping_db")]),
        ("pong", textNode "tosca.nodes.nfv.VNF" [("id", "pong_vnfd")] [("vdus", "pong_io")])] := by
      decide +kernel
    rw [nodes] at each
    generalize functions : d.functions = fs at each
    obtain _ | ⟨ping, -⟩ := each
    have named : mentions (textNode "tosca.nodes.nfv.VNF" [("id", "ping_vnfd")]
        [("vdus", "ping_db"), ("vdus", "ping_io"), ("vdus", "ping_db")]) =
          ["ping_db", "ping_io"] := by decide +kernel
    exact ⟨service, d, _, accepted, drafted, functions ▸ rfl, named ▸ ping.vdus⟩
  · refine (translate_owns_machines (fun _ => "") true rivalTemplate).2
      ("ping_db", textNode "tosca.nodes.nfv.VDU" [("id", "db")] []) (by decide +kernel)
      (.inr ⟨
        ("ping", textNode "tosca.nodes.nfv.VNF" [("id", "ping_vnfd")]
          [("vdus", "ping_db"), ("vdus", "ping_io"), ("vdus", "ping_db")]),
        ("rival", textNode "tosca.nodes.nfv.VNF" [("id", "rival_vnfd")] [("vdus", "ping_db")]),
        by decide, ?_, ?_⟩)
    · exact ⟨by decide +kernel, by decide +kernel⟩
    · exact ⟨by decide +kernel, by decide +kernel⟩

end NfvCatalog.Translation

/-! ## Where interfaces land

A connection point is bound to a node of a machine, but its interface goes to a machine with an id:
to the first machine with the id of the bound one that the same function has. So an interface lands
on the bound machine exactly if the VNF node names no other machine with this id before.
-/

namespace NfvCatalog.Translation

open Tosca

/-! ### Machines with interfaces -/

/-- The interface of a connection point, on a machine that has some already. -/
def interfaceAt (place : Nat) (point : String × NodeTemplate) : ExternalInterface :=
  { name := (point.2.properties.text? "vdu_intf_name").getD s!"eth{place}"
    pointRef := nameOf point.2.properties point.1
    virtualType := some (Text.asciiUpper
      ((point.2.properties.text? "vdu_intf_type").getD defaultInterfaceType)) }

/-- A machine with one more interface. -/
def equip (vdu : Vdu) (point : String × NodeTemplate) : Vdu :=
  { vdu with interfaces := vdu.interfaces ++ [interfaceAt vdu.interfaces.length point] }

/-- A machine with more interfaces, one after another. -/
def equipAll (vdu : Vdu) (points : List (String × NodeTemplate)) : Vdu := points.foldl equip vdu

theorem bare_equipAll (vdu : Vdu) (points : List (String × NodeTemplate)) :
    (equipAll vdu points).bare = vdu.bare := by
  induction points generalizing vdu with
  | nil => rfl
  | cons point rest ih => exact ih (equip vdu point)

/-- The interfaces of a machine that had none are numbered in their order. -/
theorem interfaces_equipAll {vdu : Vdu} (plain : vdu.interfaces = [])
    (points : List (String × NodeTemplate)) :
    (equipAll vdu points).interfaces = points.mapIdx interfaceAt := by
  induction points using List.reverseRecOn with
  | nil => exact plain
  | append_singleton done point ih =>
    have last : equipAll vdu (done ++ [point]) = equip (equipAll vdu done) point := by
      simp [equipAll]
    rw [last, equip, ih, List.length_mapIdx, List.mapIdx_append]
    simp

/-- An interface goes to the first machine with an id. -/
private theorem attachInterface_eq (id : String) (point : String × NodeTemplate)
    (vdus : List Vdu) :
    attachInterface id (nameOf point.2.properties point.1) point.2.properties vdus =
      vdus.mapIdx fun place vdu =>
        if vdus.findIdx? (·.id = id) = some place then equip vdu point else vdu := by
  refine List.ext_getElem? fun place => ?_
  rw [List.getElem?_mapIdx]
  induction vdus generalizing place with
  | nil => simp [attachInterface]
  | cons vdu rest ih =>
    by_cases own : vdu.id = id
    · cases place with
      | zero => simp [attachInterface, own, equip, interfaceAt, List.findIdx?_cons]
      | succ place =>
        cases there : rest[place]? <;> simp [attachInterface, own, List.findIdx?_cons, there]
    · cases place with
      | zero => simp [attachInterface, own, List.findIdx?_cons]
      | succ place => simpa [attachInterface, own, List.findIdx?_cons] using ih place

/-- A machine is found by its id whatever interfaces it has. -/
private theorem findIdx?_id_congr {vdus others : List Vdu}
    (same : others.map Vdu.bare = vdus.map Vdu.bare) (id : String) :
    others.findIdx? (·.id = id) = vdus.findIdx? (·.id = id) := by
  have byId (vdus : List Vdu) :
      vdus.findIdx? (·.id = id) = (vdus.map Vdu.bare).findIdx? (·.id = id) := by
    rw [List.findIdx?_map]
    rfl
  rw [byId, same, ← byId]

/-- The machines of a function with connection points: each has the interfaces of those points whose
id it is the first to have. -/
theorem vdus_withPoints (f : FunctionDraft) (points : List BoundPoint) :
    (f.withPoints points).vnfd.vdus = f.vnfd.vdus.mapIdx fun place vdu =>
      equipAll vdu ((points.filter fun point =>
        f.vnfd.vdus.findIdx? (·.id = point.1) = some place).map Prod.snd) := by
  induction points generalizing f with
  | nil => exact List.ext_getElem? fun place => by simp [FunctionDraft.withPoints, equipAll]
  | cons point rest ih =>
    have first : (f.withPoint point.1 point.2.1 point.2.2).vnfd.vdus =
        f.vnfd.vdus.mapIdx fun place vdu =>
          if f.vnfd.vdus.findIdx? (·.id = point.1) = some place then equip vdu point.2 else vdu :=
      attachInterface_eq point.1 point.2 f.vnfd.vdus
    have ids (id : String) := findIdx?_id_congr (map_bare_withPoint point.1 point.2.1 point.2.2 f) id
    simp only [withPoints_cons, ih, ids]
    refine List.ext_getElem? fun place => ?_
    simp only [List.getElem?_mapIdx, first, Option.map_map, List.filter_cons]
    refine congrArg (Option.map · _) (funext fun vdu => ?_)
    by_cases here : f.vnfd.vdus.findIdx? (·.id = point.1) = some place <;> simp [here, equipAll]

/-! ### Receivers -/

/-- The id of the machine of a node. -/
def idAt? (machines : List MachineDraft) (target : String) : Option String :=
  (machines.find? (·.node = target)).map (·.vdu.id)

/-- The machine of a VNF node that receives the interface of a connection point: the first that the
node names with the id of the machine which the connection point is bound to, if the node names that
machine, too. -/
def receiver? (machines : List MachineDraft) (owner point : NodeTemplate) : Option String :=
  ((boundTo? machines point).filter (·.node ∈ mentions owner)).bind fun m =>
    (mentions owner).find? fun target => idAt? machines target = some m.vdu.id

/-- The connection points whose interfaces a machine of a VNF node receives, in document order. -/
def landed (template : Template) (d : Drafts) (owner : NodeTemplate) (target : String) :
    List (String × NodeTemplate) :=
  (nodesOf template .connectionPoint).filter fun point =>
    receiver? d.machines owner point.2 = some target

private theorem idAt?_of_isMachine {machines : List MachineDraft}
    (distinct : (machines.map (·.node)).Nodup) {target : String} {vdu : Vdu}
    (isM : IsMachine machines target vdu) : idAt? machines target = some vdu.id := by
  obtain ⟨m, member, rfl, rfl⟩ := isM
  rw [idAt?, find?_key (fun m : MachineDraft => m.node) distinct member]
  rfl

/-- Looking for an id among machines is looking for it among their nodes. -/
private theorem findIdx?_id_eq {machines : List MachineDraft}
    (distinct : (machines.map (·.node)).Nodup) {targets : List String} {vdus : List Vdu}
    (each : List.Forall₂ (IsMachine machines) targets vdus) (id : String) :
    vdus.findIdx? (·.id = id) = targets.findIdx? (idAt? machines · = some id) := by
  induction each with
  | nil => rfl
  | cons isM _ ih => simp [List.findIdx?_cons, idAt?_of_isMachine distinct isM, ih]

/-- A machine of a function is built from a node that the VNF node names, and it has the interfaces
that it receives, numbered in document order. -/
structure HasInterfaces (template : Template) (d : Drafts) (owner : NodeTemplate) (target : String)
    (vdu : Vdu) : Prop where
  built : BuiltFrom template d target vdu
  interfaces : vdu.interfaces = (landed template d owner target).mapIdx interfaceAt

/-- A connection point is bound to a machine of one VNF node. The first machine that the node names
with the id of the bound one receives the interface, and no other does. This is the bound machine
exactly if the node names no other with its id before. -/
structure Lands (template : Template) (d : Drafts) (point owner : String × NodeTemplate)
    (bound receiver : String) : Prop where
  binding : (point.2.targets "virtualBinding").head? = some bound
  isOwner : owner ∈ nodesOf template .vnf
  named : bound ∈ mentions owner.2
  first : (mentions owner.2).find? (idAt? d.machines · = idAt? d.machines bound) = some receiver
  only : ∀ other ∈ nodesOf template .vnf, ∀ target,
    point ∈ landed template d other.2 target ↔ other = owner ∧ target = receiver
  own : receiver = bound ↔ ∀ earlier ∈ (mentions owner.2).takeWhile (· ≠ bound),
    idAt? d.machines earlier ≠ idAt? d.machines bound

/-- The first item with the key of another is this item exactly if no item before it has the key. -/
private theorem find?_key_eq_iff {named : List String} {bound receiver : String}
    {key : String → Option String} (isNamed : bound ∈ named)
    (first : named.find? (key · = key bound) = some receiver) :
    receiver = bound ↔ ∀ earlier ∈ named.takeWhile (· ≠ bound), key earlier ≠ key bound := by
  obtain ⟨before, after, rfl, fresh⟩ := List.eq_append_cons_of_mem isNamed
  have earlier : (before ++ bound :: after).takeWhile (· ≠ bound) = before := by
    rw [List.takeWhile_append_of_pos fun other member => by
      simpa using fun same : other = bound => fresh (same ▸ member)]
    simp
  rw [earlier]
  rw [List.find?_append, List.find?_cons_of_pos (by simp)] at first
  cases found : before.find? (key · = key bound) with
  | none =>
    rw [found] at first
    exact iff_of_true (Option.some.inj first).symm (by simpa using found)
  | some other =>
    rw [found] at first
    obtain rfl : other = receiver := Option.some.inj first
    have member := List.mem_of_find?_eq_some found
    refine iff_of_false (fun same => fresh (same ▸ member)) fun apart => apart other member ?_
    simpa using List.find?_some found

section Drafted

variable {template : Template} {d : Drafts} (drafted : DraftedFrom template d)
include drafted

/-- A bound connection point belongs to the function that names its machine. -/
private theorem owner_eq_iff {m : MachineDraft} (member : m ∈ d.machines) {place other : Nat}
    (owned : m.owner = some other) {owner : String × NodeTemplate}
    (there : (nodesOf template .vnf)[place]? = some owner) :
    other = place ↔ m.node ∈ mentions owner.2 := by
  rw [mentions, List.mem_eraseDups, ← drafted.once.ownerAmong_eq_some there,
    ← drafted.owners m member, owned, Option.some.injEq]

/-- The receiver stands where the machines of the function have the id first. -/
private theorem receiver?_eq_some_iff {place slot other : Nat} {owner : String × NodeTemplate}
    {f : FunctionDraft} {point : NodeTemplate} {m : MachineDraft} {target : String}
    (there : (nodesOf template .vnf)[place]? = some owner) (isF : FunctionFor d.machines owner f)
    (bound : boundTo? d.machines point = some m) (owned : m.owner = some other)
    (named : (mentions owner.2)[slot]? = some target) :
    receiver? d.machines owner.2 point = some target ↔
      other = place ∧ f.vnfd.vdus.findIdx? (·.id = m.vdu.id) = some slot := by
  obtain ⟨member, -⟩ := of_boundTo? bound
  have found := findIdx?_id_eq drafted.nodup_machines isF.vdus m.vdu.id
  rw [owner_eq_iff drafted member owned there, found,
    ← find?_eq_some_iff_findIdx? (nodup_mentions owner.2) named, receiver?, bound]
  by_cases own : m.node ∈ mentions owner.2 <;> simp [own, Option.filter_some]

/-- The interfaces that a machine gets from the connection points of its function. -/
private theorem map_snd_filter_pointsAt {place slot : Nat} {owner : String × NodeTemplate}
    {f : FunctionDraft} {target : String}
    (there : (nodesOf template .vnf)[place]? = some owner) (isF : FunctionFor d.machines owner f)
    (named : (mentions owner.2)[slot]? = some target) :
    ((pointsAt d.machines place (nodesOf template .connectionPoint)).filter fun point =>
      f.vnfd.vdus.findIdx? (·.id = point.1) = some slot).map Prod.snd =
        landed template d owner.2 target := by
  have allBound := drafted.bound
  rw [landed]
  generalize nodesOf template .connectionPoint = points at allBound
  induction points with
  | nil => rfl
  | cons point rest ih =>
    obtain ⟨⟨m, other, bound, owned⟩, allBound⟩ := List.forall_mem_cons.mp allBound
    have receives := receiver?_eq_some_iff drafted there isF bound owned named
    rw [pointsAt_cons bound owned, List.filter_cons, ← ih allBound]
    by_cases here : other = place
    · by_cases first : f.vnfd.vdus.findIdx? (·.id = m.vdu.id) = some slot <;>
        simp [here, first, receives]
    · simp [here, receives]

theorem hasInterfaces : List.Forall₂ (fun owner f =>
    List.Forall₂ (HasInterfaces template d owner.2) (mentions owner.2) f.vnfd.vdus)
      (nodesOf template .vnf) d.functions := by
  obtain ⟨plain, each, functions⟩ := drafted.functions
  rw [functions]
  refine forall₂_mapIdx each fun place owner f there isF => ?_
  rw [vdus_withPoints]
  refine forall₂_mapIdx isF.vdus fun slot target vdu named isM => ?_
  rw [map_snd_filter_pointsAt drafted there isF named]
  obtain ⟨m, member, isTarget, rfl⟩ := isM
  obtain ⟨_, -, isMachine⟩ := exists_of_mem_right drafted.machines member
  refine ⟨builtFrom_of_isMachine drafted ⟨m, member, isTarget, ?_⟩,
    interfaces_equipAll isMachine.plain _⟩
  rw [bare_equipAll, Vdu.bare_of_nil isMachine.plain]

theorem exists_lands {point : String × NodeTemplate}
    (isPoint : point ∈ nodesOf template .connectionPoint) :
    ∃ owner bound receiver, Lands template d point owner bound receiver := by
  obtain ⟨m, place, bound, owned⟩ := drafted.bound point isPoint
  obtain ⟨member, binding⟩ := of_boundTo? bound
  have inside := lt_of_ownerAmong ((drafted.owners m member).symm.trans owned)
  obtain ⟨owner, there⟩ : ∃ owner, (nodesOf template .vnf)[place]? = some owner :=
    ⟨_, List.getElem?_eq_getElem inside⟩
  have isOwner := List.mem_of_getElem? there
  have named := (owner_eq_iff drafted member owned there).mp rfl
  have id := idAt?_of_isMachine drafted.nodup_machines ⟨m, member, rfl, rfl⟩
  obtain ⟨receiver, first⟩ : ∃ receiver,
      (mentions owner.2).find? (idAt? d.machines · = idAt? d.machines m.node) = some receiver :=
    Option.isSome_iff_exists.mp (List.find?_isSome.mpr ⟨m.node, named, by simp⟩)
  refine ⟨owner, m.node, receiver, binding, isOwner, named, first, fun other isOther target => ?_,
    find?_key_eq_iff named first⟩
  rw [landed, List.mem_filter, decide_eq_true_iff, and_iff_right isPoint, receiver?, bound,
    Option.filter_some]
  by_cases claims : m.node ∈ mentions other.2
  · obtain rfl : other = owner := drafted.once.eq_of_mem isOther isOwner
      (List.mem_eraseDups.mp claims) (List.mem_eraseDups.mp named)
    rw [id] at first
    simp [claims, first, @eq_comm _ receiver]
  · have different : other ≠ owner := fun same => claims (same ▸ named)
    simp [claims, different]

end Drafted

/-- The interfaces of an accepted template: every machine has those of the connection points that
land on it. A connection point has its interface on the machine that it is bound to, unless the
same VNF node names another machine with the same id before. -/
theorem translate_lands_interfaces {freshId : Nat → String} {strict : Bool} {template : Template}
    {service : Service} (accepted : translate freshId strict template = .ok service) :
    ∃ d, draftsOf freshId strict template = .ok d ∧ service.vnfds = vnfdsOf d.functions ∧
      List.Forall₂ (fun owner f =>
        List.Forall₂ (HasInterfaces template d owner.2) (mentions owner.2) f.vnfd.vdus)
          (nodesOf template .vnf) d.functions ∧
      ∀ point ∈ nodesOf template .connectionPoint,
        ∃ owner bound receiver, Lands template d point owner bound receiver := by
  obtain ⟨d, indices, ran, drafted, assembled, -⟩ := exists_drafts accepted
  exact ⟨d, ran, assembled.vnfds, hasInterfaces drafted, fun point => exists_lands drafted⟩

/-- A function of two machines with one id. A connection point is bound to the second. -/
def twinTemplate : Template :=
  { version := profileVersion
    metadata := [(.string "ID", .string "twin_nsd"), (.string "name", .string "twin")]
    topology :=
      { nodes := .ofList [
          ("router", textNode "tosca.nodes.nfv.VNF" [("id", "router_vnfd"), ("name", "router")]
            [("vdus", "left"), ("vdus", "right")]),
          ("left", textNode "tosca.nodes.nfv.VDU" [("id", "vm"), ("name", "left")] []),
          ("right", textNode "tosca.nodes.nfv.VDU" [("id", "vm"), ("name", "right")] []),
          ("router_cp", textNode "tosca.nodes.nfv.CP" [("name", "router/cp0")]
            [("virtualBinding", "right")])] } }

/-- What the nodes of the template are drafted as. -/
def twinDrafts : Drafts :=
  { machines := [
      { node := "left", vdu := { id := "vm", name := "left" }, owner := some 0 },
      { node := "right", vdu := { id := "vm", name := "right" }, owner := some 0 }]
    functions := [
      { node := "router"
        vnfd := {
          id := "router_vnfd", name := "router"
          points := [{ name := "router/cp0" }]
          vdus := [
            { id := "vm", name := "left"
              interfaces := [
                { name := "eth0", pointRef := "router/cp0", virtualType := some "VIRTIO" }] },
            { id := "vm", name := "right" }] } }]
    points := [{ node := "router_cp", function := 0, name := "router/cp0" }] }

/-- The interface of the connection point lands on the first machine, not on the bound one. -/
theorem twinTemplate_lands_interfaces :
    ∃ service d owner, translate (fun _ => "") true twinTemplate = .ok service ∧
      service.vnfds.flatMap (fun vnfd => vnfd.vdus.map fun vdu =>
        (vdu.name, vdu.interfaces.map (·.pointRef))) =
          [("left", ["router/cp0"]), ("right", [])] ∧
      draftsOf (fun _ => "") true twinTemplate = .ok d ∧
      Lands twinTemplate d ("router_cp", textNode "tosca.nodes.nfv.CP" [("name", "router/cp0")]
        [("virtualBinding", "right")]) owner "right" "left" := by
  obtain ⟨service, accepted, parts⟩ := @exists_translated (fun _ => "") true twinTemplate
    twinDrafts [1] (by decide +kernel) rfl (by decide) rfl
  obtain ⟨d, ran, -, -, points⟩ := translate_lands_interfaces accepted
  have drafted : draftsOf (fun _ => "") true twinTemplate = .ok twinDrafts := by
    simp only [draftsOf, inPhases_eq]
    decide +kernel
  obtain rfl : twinDrafts = d := Except.ok.inj (drafted.symm.trans ran)
  obtain ⟨owner, bound, receiver, lands⟩ := points
    ("router_cp", textNode "tosca.nodes.nfv.CP" [("name", "router/cp0")]
      [("virtualBinding", "right")]) (by decide +kernel)
  obtain rfl : "right" = bound := Option.some.inj lands.binding
  have only : owner = ("router", textNode "tosca.nodes.nfv.VNF"
      [("id", "router_vnfd"), ("name", "router")] [("vdus", "left"), ("vdus", "right")]) := by
    have nodes : nodesOf twinTemplate .vnf = [("router", textNode "tosca.nodes.nfv.VNF"
      [("id", "router_vnfd"), ("name", "router")] [("vdus", "left"), ("vdus", "right")])] := by
      decide +kernel
    simpa [nodes] using lands.isOwner
  subst only
  obtain rfl : "left" = receiver := Option.some.inj
    ((by decide +kernel : _ = some "left").symm.trans lands.first)
  exact ⟨service, twinDrafts, _, accepted, by rw [parts.vnfds]; rfl, ran, lands⟩

end NfvCatalog.Translation

/-! ## Names of interfaces

An interface whose connection point gives it no name is named after its number on the machine. Such
names differ among each other, but nothing keeps a connection point from giving one of them to its
own interface.
-/

namespace NfvCatalog.Translation

open Tosca

/-- The name that a connection point gives to its interface, if it gives one. -/
def givenName? (point : String × NodeTemplate) : Option String :=
  point.2.properties.text? "vdu_intf_name"

/-- The name that is made up for an interface at a place. -/
def madeName (place : Nat) : String := s!"eth{place}"

theorem madeName_inj {place other : Nat} : madeName place = madeName other ↔ place = other := by
  refine ⟨fun same => ?_, congrArg madeName⟩
  have digits : toString place = toString other := by simpa [madeName] using same
  exact Nat.repr_inj.mp digits

theorem name_interfaceAt (place : Nat) (point : String × NodeTemplate) :
    (interfaceAt place point).name = (givenName? point).getD (madeName place) := rfl

/-- Interfaces have the names that their connection points give them, or else made-up ones. An
interface shares a made-up name with no other exactly if no connection point gives the name. -/
structure NamesInterfaces (points : List (String × NodeTemplate))
    (interfaces : List ExternalInterface) : Prop where
  names : interfaces.map (·.name) =
    points.mapIdx fun place point => (givenName? point).getD (madeName place)
  unique : ∀ place point, points[place]? = some point → givenName? point = none →
    ((∀ other interface, interfaces[other]? = some interface → other ≠ place →
        interface.name ≠ madeName place) ↔
      ∀ giver ∈ points, givenName? giver ≠ some (madeName place))

theorem namesInterfaces (points : List (String × NodeTemplate)) :
    NamesInterfaces points (points.mapIdx interfaceAt) where
  names := List.ext_getElem? fun place => by
    simp only [List.getElem?_map, List.getElem?_mapIdx, Option.map_map, Function.comp_def,
      name_interfaceAt]
  unique place point there unnamed := by
    constructor
    · intro apart giver member given
      obtain ⟨other, isAt⟩ := List.getElem?_of_mem member
      have elsewhere : other ≠ place := by
        rintro rfl
        obtain rfl := Option.some.inj (there.symm.trans isAt)
        rw [unnamed] at given
        cases given
      refine apart other (interfaceAt other giver) (by simp [isAt]) elsewhere ?_
      rw [name_interfaceAt, given, Option.getD_some]
    · intro free other interface found elsewhere same
      rw [List.getElem?_mapIdx] at found
      obtain ⟨giver, isAt, rfl⟩ := Option.map_eq_some_iff.mp found
      rw [name_interfaceAt] at same
      cases given : givenName? giver with
      | none =>
        rw [given] at same
        exact elsewhere (madeName_inj.mp same)
      | some name =>
        rw [given] at same
        exact free giver (List.mem_of_getElem? isAt) (given.trans (congrArg some same))

/-- The interfaces of an accepted template have the names that the connection points which land on
their machine give them, and made-up ones otherwise. A made-up name differs from every other
interface's on the machine unless one of these connection points gives it. -/
theorem translate_names_interfaces {freshId : Nat → String} {strict : Bool} {template : Template}
    {service : Service} (accepted : translate freshId strict template = .ok service) :
    ∃ d, draftsOf freshId strict template = .ok d ∧
      ∀ vnfd ∈ service.vnfds, ∀ vdu ∈ vnfd.vdus,
        ∃ owner ∈ nodesOf template .vnf, ∃ target ∈ mentions owner.2,
          BuiltFrom template d target vdu ∧
            NamesInterfaces (landed template d owner.2 target) vdu.interfaces := by
  obtain ⟨d, indices, ran, drafted, assembled, -⟩ := exists_drafts accepted
  refine ⟨d, ran, fun vnfd member vdu isVdu => ?_⟩
  obtain ⟨f, isF, rfl⟩ := assembled.mem_functions member
  obtain ⟨owner, isOwner, each⟩ := exists_of_mem_right (hasInterfaces drafted) isF
  obtain ⟨target, named, has⟩ := exists_of_mem_right each isVdu
  exact ⟨owner, isOwner, target, named, has.built, has.interfaces ▸ namesInterfaces _⟩

/-- A machine with two connection points: the first gives its interface a name that would be made up
for the second. -/
def namedTemplate : Template :=
  { version := profileVersion
    metadata := [(.string "ID", .string "router_nsd"), (.string "name", .string "router")]
    topology :=
      { nodes := .ofList [
          ("router", textNode "tosca.nodes.nfv.VNF" [("id", "router_vnfd"), ("name", "router")]
            [("vdus", "vm")]),
          ("vm", textNode "tosca.nodes.nfv.VDU" [("id", "vm"), ("name", "vm")] []),
          ("wan", textNode "tosca.nodes.nfv.CP" [("name", "wan"), ("vdu_intf_name", "eth1")]
            [("virtualBinding", "vm")]),
          ("lan", textNode "tosca.nodes.nfv.CP" [("name", "lan")] [("virtualBinding", "vm")])] } }

/-- What the nodes of the template are drafted as. -/
def namedDrafts : Drafts :=
  { machines := [{ node := "vm", vdu := { id := "vm", name := "vm" }, owner := some 0 }]
    functions := [
      { node := "router"
        vnfd := {
          id := "router_vnfd", name := "router", mgmt := some { vdu := some "vm" }
          points := [{ name := "wan" }, { name := "lan" }]
          vdus := [
            { id := "vm", name := "vm"
              interfaces := [
                { name := "eth1", pointRef := "wan", virtualType := some "VIRTIO" },
                { name := "eth1", pointRef := "lan", virtualType := some "VIRTIO" }] }] } }]
    points := [{ node := "wan", function := 0, name := "wan" },
      { node := "lan", function := 0, name := "lan" }] }

theorem namedTemplate_names_interfaces : ∃ service d,
    translate (fun _ => "") true namedTemplate = .ok service ∧
      service.vnfds.map (fun vnfd => vnfd.vdus.map fun vdu => vdu.interfaces.map (·.name)) =
        [[["eth1", "eth1"]]] ∧
      ∀ vnfd ∈ service.vnfds, ∀ vdu ∈ vnfd.vdus, ∃ owner target,
        NamesInterfaces (landed namedTemplate d owner target) vdu.interfaces := by
  obtain ⟨service, accepted, parts⟩ := @exists_translated (fun _ => "") true namedTemplate
    namedDrafts [1] (by decide +kernel) rfl (by decide) rfl
  obtain ⟨d, ran, names⟩ := translate_names_interfaces accepted
  refine ⟨service, d, accepted, by rw [parts.vnfds]; rfl, fun vnfd member vdu isVdu => ?_⟩
  obtain ⟨owner, -, target, -, -, named⟩ := names vnfd member vdu isVdu
  exact ⟨owner.2, target, named⟩

end NfvCatalog.Translation
