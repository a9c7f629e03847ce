import NfvCatalog.Proofs.Lists.Basic
import NfvCatalog.Proofs.Outcome
import NfvCatalog.Translation.Service

/-! # Steps of a translation

What translating one entity does to the drafts of links, machines and functions. A link is drafted
without references. A machine is drafted without interfaces and without an owner. A function comes
to own the machines that it names, which were nobody's or its own. A connection point goes to the
function that owns its machine, and onto links. No other entity changes any of them.
-/

namespace NfvCatalog

/-- A machine without its interfaces. -/
def Vdu.bare (vdu : Vdu) : Vdu := { vdu with interfaces := [] }

theorem Vdu.bare_of_nil {vdu : Vdu} (plain : vdu.interfaces = []) : vdu.bare = vdu := by
  cases vdu
  simp_all [Vdu.bare]

end NfvCatalog

namespace NfvCatalog.Translation

open Tosca

/-! ## What a translation knows -/

/-- A node exists and is of a phase. -/
def Surroundings.Knows (s : Surroundings) (node : String) (phase : Phase) : Prop :=
  s.hasNode node = true ∧ s.phase? node = some phase

theorem requireTarget_eq_ok {s : Surroundings} {node requirement target : String} {phase : Phase}
    {u : Unit} : s.requireTarget node requirement target phase = .ok u ↔ s.Knows target phase := by
  by_cases here : s.hasNode target = true <;> by_cases same : s.phase? target = some phase <;>
    simp [Surroundings.requireTarget, Surroundings.Knows, here, same]

theorem Surroundings.Knows.requireTarget {s : Surroundings} {target : String} {phase : Phase}
    (known : s.Knows target phase) (node requirement : String) :
    s.requireTarget node requirement target phase = .ok () :=
  requireTarget_eq_ok.mpr known

variable {s : Surroundings} {name : String} {node : NodeTemplate} {d d' : Drafts}

/-- An id is the one that properties give, or one is made up. -/
theorem idOf_eq (s : Surroundings) (properties : Value.Entries) (d : Drafts) :
    ∃ id drawn, d.idOf s properties = (id, { d with drawn := drawn }) ∧
      ∀ given ∈ properties.text? "id", id = given := by
  cases written : properties.text? "id" with
  | none => exact ⟨_, _, by rw [Drafts.idOf, written], by simp⟩
  | some id => exact ⟨id, d.drawn, by rw [Drafts.idOf, written], by simp⟩

/-! ## Links -/

/-- The type of a link, before it is put into capital letters. -/
def linkTypeOf (node : NodeTemplate) : String :=
  ((node.properties.text? "type").or (node.properties.text? "vld_type")).getD
    (defaultLinkType node.nodeType)

/-- The link that a node describes, under an id. -/
def vldOf (id name : String) (node : NodeTemplate) : Except TranslationError Vld := do
  let provider ← providerOf name node.properties
  return { id := id
           name := nameOf node.properties name
           shortName := node.properties.text? "short_name"
           description := descriptionOf node
           vendor := node.properties.text? "vendor"
           linkType := some (Text.asciiUpper (linkTypeOf node))
           vimNetwork :=
             (node.properties.text? "vim_network_name").or (node.properties.text? "network_name")
           provider := provider }

/-- A link is the one that a node describes. -/
structure LinkDescribedBy (name : String) (node : NodeTemplate) (vld : Vld) : Prop where
  id : ∀ id ∈ node.properties.text? "id", vld.id = id
  described : vldOf vld.id name node = .ok vld

/-- A link is drafted with a type and without references. -/
theorem vldOf_ok {id : String} {vld : Vld} (read : vldOf id name node = .ok vld) :
    vld.linkType = some (Text.asciiUpper (linkTypeOf node)) ∧ vld.pointRefs = [] := by
  simp only [vldOf, bind_eq_ok, pure_eq_ok] at read
  obtain ⟨provider, -, rfl⟩ := read
  exact ⟨rfl, rfl⟩

theorem addLink_ok (added : addLink s name node d = .ok d') :
    ∃ vld drawn, LinkDescribedBy name node vld ∧
      d' = { d with links := d.links ++ [{ node := name, vld := vld }], drawn := drawn } := by
  obtain ⟨id, drawn, taken, given⟩ := idOf_eq s node.properties d
  simp only [addLink, taken, bind_eq_ok, pure_eq_ok] at added
  obtain ⟨provider, read, rfl⟩ := added
  refine ⟨_, drawn, ⟨fun written member => given written member, ?_⟩, rfl⟩
  simp only [vldOf, read, ok_bind]
  rfl

/-! ## Machines -/

/-- The machine that a node describes, under an id. -/
def machineOf (id name : String) (node : NodeTemplate) : Except TranslationError Vdu := do
  let count ← wholeProperty? node.properties name "count"
  let (flavor, epa) ← computeOf name node
  return (machineArtifacts node).foldl
    (fun vdu artifact => withArtifact vdu artifact.1 artifact.2)
    { plainVdu id count name node with flavor := flavor, epa := epa }

/-- A machine is the one that a node describes, but for its interfaces. -/
structure DescribedBy (name : String) (node : NodeTemplate) (vdu : Vdu) : Prop where
  id : ∀ id ∈ node.properties.text? "id", vdu.id = id
  described : machineOf vdu.id name node = .ok vdu.bare

/-- Artifacts say nothing about the id of a machine or its interfaces. -/
private theorem foldl_withArtifact_keeps (artifacts : List (ArtifactKind × Tosca.Artifact))
    (vdu : Vdu) :
    (artifacts.foldl (fun vdu artifact => withArtifact vdu artifact.1 artifact.2) vdu).id =
        vdu.id ∧
      (artifacts.foldl (fun vdu artifact => withArtifact vdu artifact.1 artifact.2)
        vdu).interfaces = vdu.interfaces := by
  induction artifacts generalizing vdu with
  | nil => exact ⟨rfl, rfl⟩
  | cons artifact rest ih =>
    obtain ⟨sameId, sameInterfaces⟩ := ih (withArtifact vdu artifact.1 artifact.2)
    rw [List.foldl_cons]
    refine ⟨sameId.trans ?_, sameInterfaces.trans ?_⟩ <;>
      cases artifact.1 <;> rfl

/-- The files of a machine's artifacts, with what they are for. -/
def artifactFiles (node : NodeTemplate) : List (ArtifactKind × String) :=
  (machineArtifacts node).map fun artifact => (artifact.1, artifact.2.file)

theorem addMachine_ok (added : addMachine s name node d = .ok d') :
    ∃ machine drawn, machine.node = name ∧ machine.files = artifactFiles node ∧
      machine.owner = none ∧ machine.vdu.interfaces = [] ∧ DescribedBy name node machine.vdu ∧
        d' = { d with machines := d.machines ++ [machine], drawn := drawn } := by
  obtain ⟨id, drawn, taken, given⟩ := idOf_eq s node.properties d
  simp only [addMachine, taken, bind_eq_ok, pure_eq_ok] at added
  obtain ⟨count, counted, ⟨flavor, epa⟩, computed, rfl⟩ := added
  obtain ⟨sameId, plain⟩ := foldl_withArtifact_keeps (machineArtifacts node)
    { plainVdu id count name node with flavor := flavor, epa := epa }
  have described : machineOf id name node = .ok ((machineArtifacts node).foldl
      (fun vdu artifact => withArtifact vdu artifact.1 artifact.2)
      { plainVdu id count name node with flavor := flavor, epa := epa }) := by
    simp [machineOf, counted, computed]
  refine ⟨_, drawn, rfl, rfl, rfl, plain, ⟨fun written member => sameId.trans (given _ member), ?_⟩,
    rfl⟩
  rw [Vdu.bare_of_nil plain, sameId]
  exact described

/-! ## Functions -/

/-- A machine, owned by the function at a place if the function names it. -/
def claimedBy (place : Nat) (targets : List String) (m : MachineDraft) : MachineDraft :=
  if m.node ∈ targets then { m with owner := some place } else m

@[simp] theorem node_claimedBy (place : Nat) (targets : List String) (m : MachineDraft) :
    (claimedBy place targets m).node = m.node := by
  by_cases named : m.node ∈ targets <;> simp [claimedBy, named]

@[simp] theorem vdu_claimedBy (place : Nat) (targets : List String) (m : MachineDraft) :
    (claimedBy place targets m).vdu = m.vdu := by
  by_cases named : m.node ∈ targets <;> simp [claimedBy, named]

theorem claimedBy_of_not_mem {place : Nat} {targets : List String} {m : MachineDraft}
    (other : m.node ∉ targets) : claimedBy place targets m = m := if_neg other

/-- Claiming machines one after another is claiming all of them. -/
private theorem claimedBy_cons (place : Nat) (target : String) (rest : List String)
    (m : MachineDraft) :
    claimedBy place rest (claimedBy place [target] m) = claimedBy place (target :: rest) m := by
  by_cases same : m.node = target <;> by_cases others : m.node ∈ rest <;>
    simp [claimedBy, same, others]

/-- Whether the machine of a node is there and nobody's. -/
def isUnclaimed (machines : List MachineDraft) (target : String) : Bool :=
  machines.any fun m => m.node = target && m.owner.isNone

/-- After a claim the machines that were nobody's still are, but for the claimed one. -/
private theorem isUnclaimed_map_claimedBy (place : Nat) (target : String)
    (machines : List MachineDraft) :
    isUnclaimed (machines.map (claimedBy place [target])) =
      fun other => isUnclaimed machines other && other != target := by
  funext other
  rw [isUnclaimed, isUnclaimed, List.any_map, Bool.eq_iff_iff]
  simp only [Bool.and_eq_true, List.any_eq_true, Function.comp_apply, node_claimedBy,
    decide_eq_true_eq, bne_iff_ne]
  constructor
  · rintro ⟨m, member, rfl, nobody⟩
    have other : m.node ≠ target := fun same => by simp [claimedBy, same] at nobody
    rw [claimedBy_of_not_mem (by simpa using other)] at nobody
    exact ⟨⟨m, member, rfl, nobody⟩, other⟩
  · rintro ⟨⟨m, member, rfl, nobody⟩, other⟩
    exact ⟨m, member, rfl, by rwa [claimedBy_of_not_mem (by simpa using other)]⟩

/-- What claiming machines by name comes to: machines that were nobody's are claimed, each where it
is first named, and the others among them belong to the claiming function already. -/
structure Claims (s : Surroundings) (place : Nat) (targets : List String)
    (machines : List MachineDraft) (claimed claimed' : Claimed) : Prop where
  known : ∀ target ∈ targets, s.Knows target .vdu
  free : ∀ m ∈ machines, m.node ∈ targets → m.owner = none ∨ m.owner = some place
  claims : ∀ entry, entry ∈ claimed' ↔ entry ∈ claimed ∨
    ∃ m ∈ machines, m.node ∈ targets ∧ m.owner = none ∧ (m.node, m.vdu) = entry
  names : claimed'.map Prod.fst =
    claimed.map Prod.fst ++ (targets.filter (isUnclaimed machines)).eraseDups

section Claim

variable {place : Nat} {target : String} {targets : List String} {machines : List MachineDraft}
  {claimed : Claimed}

/-- Naming machines that belong to the function already changes nothing. -/
private theorem Claims.of_owned (known : ∀ target ∈ targets, s.Knows target .vdu)
    (owned : ∀ m ∈ machines, m.node ∈ targets → m.owner = some place) :
    Claims s place targets machines claimed claimed where
  known := known
  free m member named := .inr (owned m member named)
  claims entry := by
    refine (or_iff_left ?_).symm
    rintro ⟨m, member, named, nobody, -⟩
    rw [owned m member named] at nobody
    cases nobody
  names := by
    have none_free : targets.filter (isUnclaimed machines) = [] := by
      refine List.filter_eq_nil_iff.mpr fun target named => ?_
      simp only [isUnclaimed, List.any_eq_true, Bool.and_eq_true, decide_eq_true_eq]
      rintro ⟨m, member, rfl, nobody⟩
      rw [owned m member named] at nobody
      cases nobody
    simp [none_free]

private theorem map_claimedBy_of_owned
    (owned : ∀ m ∈ machines, m.node ∈ targets → m.owner = some place) :
    machines.map (claimedBy place targets) = machines := by
  refine (List.map_congr_left fun m member => ?_).trans (List.map_id _)
  by_cases named : m.node ∈ targets
  · rw [claimedBy, if_pos named, ← owned m member named]
    rfl
  · exact claimedBy_of_not_mem named

/-- Naming a machine that is nobody's claims it. -/
private theorem Claims.of_free {machine : MachineDraft} (known : s.Knows target .vdu)
    (member : machine ∈ machines) (named : machine.node = target)
    (only : ∀ m ∈ machines, m.node = target → m = machine) (nobody : machine.owner = none) :
    Claims s place [target] machines claimed (claimed ++ [(target, machine.vdu)]) where
  known := by simpa using known
  free m inMachines isTarget := .inl (only m inMachines (by simpa using isTarget) ▸ nobody)
  claims entry := by
    rw [List.mem_append, List.mem_singleton]
    refine or_congr_right ⟨?_, ?_⟩
    · rintro rfl
      exact ⟨machine, member, by simp [named], nobody, by rw [named]⟩
    · rintro ⟨m, inMachines, isTarget, -, rfl⟩
      rw [only m inMachines (by simpa using isTarget), named]
  names := by
    have free : isUnclaimed machines target = true :=
      List.any_eq_true.mpr ⟨machine, member, by simp [named, nobody]⟩
    simp [free, List.eraseDups_cons]

/-- The claim of one machine. -/
private theorem claimMachines_cons_ok {rest : List String} {out : Claimed × Drafts}
    (distinct : (d.machines.map (·.node)).Nodup)
    (taken : claimMachines s name place (target :: rest) claimed d = .ok out) :
    ∃ now, Claims s place [target] d.machines claimed now ∧
      claimMachines s name place rest now
        { d with machines := d.machines.map (claimedBy place [target]) } = .ok out := by
  simp only [claimMachines, bind_eq_ok, requireTarget_eq_ok] at taken
  obtain ⟨-, known, taken⟩ := taken
  have knownAll : ∀ other ∈ [target], s.Knows other .vdu := by simpa using known
  cases found : d.machinePlace? target with
  | none =>
    have absent : ∀ m ∈ d.machines, m.node ∉ [target] := by
      simpa [Drafts.machinePlace?] using found
    have owned : ∀ m ∈ d.machines, m.node ∈ [target] → m.owner = some place :=
      fun m member named => absurd named (absent m member)
    refine ⟨claimed, .of_owned knownAll owned, ?_⟩
    simpa only [map_claimedBy_of_owned owned, found] using taken
  | some at_ =>
    obtain ⟨inside, isTarget, -⟩ := List.findIdx?_eq_some_iff_getElem.mp found
    obtain ⟨machine, here⟩ : ∃ machine, d.machines[at_]? = some machine :=
      ⟨_, List.getElem?_eq_getElem inside⟩
    have member := List.mem_of_getElem? here
    have named : machine.node = target := by
      simpa [List.getElem?_eq_some_iff.mp here |>.2] using isTarget
    have only (m : MachineDraft) (inMachines : m ∈ d.machines) (same : m.node = target) :
        m = machine :=
      List.inj_on_of_nodup_map distinct inMachines member (same.trans named.symm)
    simp only [found, here] at taken
    cases owner : machine.owner with
    | none =>
      refine ⟨_, .of_free known member named only owner, ?_⟩
      have claims : ownMachine at_ place d =
          { d with machines := d.machines.map (claimedBy place [target]) } := by
        rw [ownMachine, modify_findIdx?_key (fun m : MachineDraft => m.node) _ distinct found]
        simp [claimedBy]
      simpa only [owner, claims] using taken
    | some other =>
      by_cases own : other = place
      · have owned : ∀ m ∈ d.machines, m.node ∈ [target] → m.owner = some place :=
          fun m inMachines isTarget => by
            rw [only m inMachines (List.mem_singleton.mp isTarget), owner, own]
        refine ⟨claimed, .of_owned knownAll owned, ?_⟩
        simpa only [owner, own, if_true, map_claimedBy_of_owned owned] using taken
      · simp only [owner, own, if_false] at taken
        cases taken

end Claim

/-- A claim of one machine and the claims after it. -/
private theorem Claims.cons {place : Nat} {target : String} {rest : List String}
    {machines : List MachineDraft} {claimed now claimed' : Claimed}
    (first : Claims s place [target] machines claimed now)
    (others : Claims s place rest (machines.map (claimedBy place [target])) now claimed') :
    Claims s place (target :: rest) machines claimed claimed' := by
  have later {m : MachineDraft} (member : m ∈ machines) (other : m.node ≠ target) :
      m ∈ machines.map (claimedBy place [target]) :=
    List.mem_map.mpr ⟨m, member, claimedBy_of_not_mem (by simpa using other)⟩
  refine ⟨List.forall_mem_cons.mpr ⟨first.known target (List.mem_cons_self ..), others.known⟩,
    fun m member named => ?_, fun entry => ?_, ?_⟩
  · rcases eq_or_ne m.node target with isTarget | other
    · exact first.free m member (by simp [isTarget])
    · exact others.free m (later member other) ((List.mem_cons.mp named).resolve_left other)
  · rw [others.claims, first.claims, or_assoc]
    refine or_congr_right ⟨?_, ?_⟩
    · rintro (⟨m, member, isTarget, nobody, rfl⟩ | ⟨_, member, inRest, nobody, rfl⟩)
      · exact ⟨m, member, by simp [List.mem_singleton.mp isTarget], nobody, rfl⟩
      · obtain ⟨m, inMachines, rfl⟩ := List.mem_map.mp member
        by_cases isTarget : m.node ∈ [target]
        · simp [claimedBy, isTarget] at nobody
        · rw [claimedBy_of_not_mem isTarget] at inRest nobody ⊢
          exact ⟨m, inMachines, List.mem_cons_of_mem _ inRest, nobody, rfl⟩
    · rintro ⟨m, member, named, nobody, rfl⟩
      rcases eq_or_ne m.node target with isTarget | other
      · exact .inl ⟨m, member, by simp [isTarget], nobody, rfl⟩
      · exact .inr ⟨m, later member other, (List.mem_cons.mp named).resolve_left other, nobody, rfl⟩
  · rw [others.names, first.names, isUnclaimed_map_claimedBy, List.append_assoc]
    congr 1
    by_cases free : isUnclaimed machines target = true
    · -- The first mention counts: from then on the machine is claimed.
      have later : rest.filter (fun other => isUnclaimed machines other && other != target) =
          (rest.filter (isUnclaimed machines)).filter (fun other => !other == target) := by
        rw [List.filter_filter]
        exact List.filter_congr fun other _ => Bool.and_comm ..
      rw [later, List.filter_cons_of_pos free, List.filter_cons_of_pos free, List.eraseDups_cons]
      simp [List.eraseDups_cons]
    · have same : rest.filter (fun other => isUnclaimed machines other && other != target) =
          rest.filter (isUnclaimed machines) := by
        refine List.filter_congr fun other _ => ?_
        rcases eq_or_ne other target with rfl | different
        · simp [free]
        · simp [different]
      rw [same, List.filter_cons_of_neg free, List.filter_cons_of_neg free]
      simp

/-- Claiming machines changes nothing but owners: a machine has the owner that a machine had before,
or belongs to the claiming function. -/
theorem claimMachines_keeps {place : Nat} {targets : List String} {claimed : Claimed}
    {out : Claimed × Drafts} (ran : claimMachines s name place targets claimed d = .ok out) :
    (∀ target ∈ targets, s.Knows target .vdu) ∧
      ∃ machines, out.2 = { d with machines := machines } ∧
        ∀ m ∈ machines, m.owner = some place ∨ ∃ old ∈ d.machines, old.owner = m.owner := by
  induction targets generalizing claimed d with
  | nil =>
    obtain rfl := Except.ok.inj ran
    exact ⟨by simp, d.machines, rfl, fun m member => .inr ⟨m, member, rfl⟩⟩
  | cons target rest ih =>
    simp only [claimMachines, bind_eq_ok, requireTarget_eq_ok] at ran
    obtain ⟨-, known, ran⟩ := ran
    rw [List.forall_mem_cons, and_assoc]
    refine ⟨known, ?_⟩
    split at ran
    · exact ih ran
    · next at_ _ =>
      split at ran
      · exact ih ran
      · split at ran
        · split at ran
          · exact ih ran
          · cases ran
        · obtain ⟨others, machines, same, owners⟩ := ih ran
          refine ⟨others, machines, same, fun m member => (owners m member).elim .inl ?_⟩
          rintro ⟨old, inOwned, owner⟩
          obtain ⟨i, there⟩ := List.mem_iff_getElem?.mp inOwned
          simp only [ownMachine, List.getElem?_modify] at there
          obtain ⟨before, found, rfl⟩ := Option.map_eq_some_iff.mp there
          by_cases here : at_ = i
          · exact .inl (by simpa [here] using owner.symm)
          · exact .inr ⟨before, List.mem_of_getElem? found, by simpa [here] using owner⟩

theorem claimMachines_ok {place : Nat} {targets : List String} {claimed claimed' : Claimed}
    (distinct : (d.machines.map (·.node)).Nodup)
    (taken : claimMachines s name place targets claimed d = .ok (claimed', d')) :
    Claims s place targets d.machines claimed claimed' ∧
      d' = { d with machines := d.machines.map (claimedBy place targets) } := by
  induction targets generalizing claimed d with
  | nil =>
    obtain ⟨rfl, rfl⟩ : claimed = claimed' ∧ d = d' := by simpa [claimMachines] using taken
    have same : claimedBy place [] = id := funext fun m => by simp [claimedBy]
    exact ⟨⟨by simp, by simp, by simp, by simp⟩, by simp [same]⟩
  | cons target rest ih =>
    obtain ⟨now, first, takenRest⟩ := claimMachines_cons_ok distinct taken
    obtain ⟨others, rfl⟩ := ih (by simpa [Function.comp_def] using distinct) takenRest
    refine ⟨first.cons others, ?_⟩
    simp only [List.map_map]
    congr 1
    exact List.map_congr_left fun m _ => claimedBy_cons place target rest m

/-- The machine that a management interface names is among machines. -/
def MgmtInterface.Within (vdus : List Vdu) (mgmt : Option MgmtInterface) : Prop :=
  ∀ interface ∈ mgmt, ∀ id ∈ interface.vdu, ∃ vdu ∈ vdus, vdu.id = id

private theorem mgmtVdu_ok {claimed : Claimed} {properties : Value.Entries} {id : Option String}
    (read : mgmtVdu s name claimed properties = .ok id) :
    ∀ own ∈ id, ∃ vdu ∈ claimed.map Prod.snd, vdu.id = own := by
  cases written : properties.text? "vdu" with
  | none =>
    obtain rfl : none = id := by simpa [mgmtVdu, written] using read
    rintro _ ⟨⟩
  | some target =>
    simp only [mgmtVdu, written, bind_eq_ok] at read
    obtain ⟨-, -, read⟩ := read
    cases found : claimed.find? (·.1 = target) with
    | none => simp [found] at read
    | some entry =>
      obtain rfl : some entry.2.id = id := by simpa [found] using read
      rintro _ ⟨⟩
      exact ⟨entry.2, List.mem_map_of_mem (List.mem_of_find?_eq_some found), rfl⟩

private theorem mgmtFor_ok {claimed : Claimed} {properties : Value.Entries}
    {mgmt : Option MgmtInterface} (read : mgmtFor s name claimed properties = .ok mgmt) :
    MgmtInterface.Within (claimed.map Prod.snd) mgmt := by
  rw [mgmtFor.eq_def] at read
  split at read
  · simp only [mgmtOf, map_eq_ok, bind_eq_ok] at read
    obtain ⟨interface, ⟨id, named, port, -, dashboard⟩, rfl⟩ := read
    have own : interface.vdu = id := by
      split at dashboard <;> simp only [bind_eq_ok, pure_eq_ok] at dashboard <;>
        obtain ⟨_, -, rfl⟩ := dashboard <;> rfl
    rintro _ ⟨⟩
    exact own ▸ mgmtVdu_ok named
  · obtain rfl := Except.ok.inj read
    rintro _ ⟨⟩ _ ⟨⟩
    exact ⟨_, List.mem_singleton_self _, rfl⟩
  · obtain rfl := Except.ok.inj read
    rintro _ ⟨⟩

/-- A function as it is drafted from its node: it has the machines that it claims, no connection
points yet, and is managed at one of its machines if at any. -/
structure FunctionOf (name : String) (node : NodeTemplate) (claimed : Claimed)
    (f : FunctionDraft) : Prop where
  named : f.node = name
  id : ∀ id ∈ node.properties.text? "id", f.vnfd.id = id
  index : wholeProperty? node.properties name "member_index" = .ok f.index
  logo : f.logo = node.properties.text? "logo"
  points : f.vnfd.points = []
  vdus : f.vnfd.vdus = claimed.map Prod.snd
  managed : MgmtInterface.Within f.vnfd.vdus f.vnfd.mgmt

/-- A new function changes nothing else but the owners of machines. -/
theorem addFunction_keeps (added : addFunction s name node d = .ok d') :
    ∃ f machines drawn,
      (∀ m ∈ machines, m.owner = some d.functions.length ∨
        ∃ old ∈ d.machines, old.owner = m.owner) ∧
      d' = { d with machines := machines, functions := d.functions ++ [f], drawn := drawn } := by
  obtain ⟨id, drawn, taken, -⟩ := idOf_eq s node.properties d
  simp only [addFunction, taken, bind_eq_ok, pure_eq_ok] at added
  obtain ⟨configuration, -, ⟨claimed, _⟩, ran, mgmt, -, index, -, rfl⟩ := added
  obtain ⟨-, machines, rfl, owners⟩ := claimMachines_keeps ran
  exact ⟨_, machines, drawn, owners, rfl⟩

theorem addFunction_ok (distinct : (d.machines.map (·.node)).Nodup)
    (added : addFunction s name node d = .ok d') :
    ∃ f claimed drawn, FunctionOf name node claimed f ∧
      Claims s d.functions.length (node.targets "vdus") d.machines [] claimed ∧
      d' = { d with
        machines := d.machines.map (claimedBy d.functions.length (node.targets "vdus"))
        functions := d.functions ++ [f]
        drawn := drawn } := by
  obtain ⟨id, drawn, taken, given⟩ := idOf_eq s node.properties d
  simp only [addFunction, taken, bind_eq_ok, pure_eq_ok] at added
  obtain ⟨configuration, -, ⟨claimed, between⟩, ran, mgmt, managed, index, asked, rfl⟩ := added
  obtain ⟨claims, rfl⟩ := claimMachines_ok (d := { d with drawn := drawn }) distinct ran
  exact ⟨_, claimed, drawn, ⟨rfl, given, asked, rfl, rfl, rfl, mgmtFor_ok managed⟩, claims, rfl⟩

/-! ## Connection points -/

/-- The machine that a connection point is bound to is the one of its first binding. -/
theorem boundMachine_ok {machine : MachineDraft}
    (bound : boundMachine s name node d = .ok machine) :
    (node.targets "virtualBinding").head? = some machine.node ∧ machine ∈ d.machines := by
  rw [boundMachine] at bound
  cases first : (node.targets "virtualBinding").head? with
  | none => simp [first] at bound
  | some binding =>
    simp only [first, bind_eq_ok] at bound
    obtain ⟨-, -, bound⟩ := bound
    cases found : (d.machinePlace? binding).bind (d.machines[·]?) with
    | none => simp [found] at bound
    | some m =>
      obtain rfl : m = machine := by simpa [found] using bound
      rw [Drafts.machinePlace?, ← List.find?_eq_bind_findIdx?_getElem?] at found
      have named : m.node = binding := by simpa using List.find?_some found
      exact ⟨named ▸ rfl, List.mem_of_find?_eq_some found⟩

/-- A link with a connection point on it, once for each time that it is among targets. -/
def joined (owner : Nat) (point : String) (targets : List String) (link : LinkDraft) : LinkDraft :=
  { link with points := link.points ++ List.replicate (targets.count link.node) (owner, point) }

private theorem joined_nil (owner : Nat) (point : String) (link : LinkDraft) :
    joined owner point [] link = link := by
  simp [joined]

private theorem joined_cons (owner : Nat) (point target : String) (targets : List String)
    (link : LinkDraft) :
    joined owner point (target :: targets) link =
      joined owner point targets
        (if link.node = target then { link with points := link.points ++ [(owner, point)] }
          else link) := by
  by_cases same : link.node = target
  · simp [joined, same, List.replicate_succ]
  · have other : target ≠ link.node := fun equal => same equal.symm
    simp [joined, same, other]

/-- A connection point joins every link that it names. -/
theorem joinLinks_known {s : Surroundings} (entity : String) (owner : Nat) (point : String)
    {targets : List String} (known : ∀ target ∈ targets, s.Knows target .virtualLink)
    {d : Drafts} (distinct : (d.links.map (·.node)).Nodup) :
    joinLinks s entity owner point targets d =
      .ok { d with links := d.links.map (joined owner point targets) } := by
  induction targets generalizing d with
  | nil =>
    have same : joined owner point [] = id := funext (joined_nil owner point)
    simp [joinLinks, same]
  | cons target rest ih =>
    have others := fun other member => known other (List.mem_cons_of_mem target member)
    rw [joinLinks, (known target (List.mem_cons_self ..)).requireTarget, ok_bind]
    cases found : d.linkPlace? target with
    | none =>
      have absent : ∀ link ∈ d.links, link.node ≠ target := by
        simpa [Drafts.linkPlace?] using found
      have untouched : d.links.map (joined owner point (target :: rest)) =
          d.links.map (joined owner point rest) :=
        List.map_congr_left fun link member => by simp [joined_cons, absent link member]
      simp only [ih others distinct, untouched]
    | some place =>
      have modified := modify_findIdx?_key (fun link : LinkDraft => link.node)
        (fun link => { link with points := link.points ++ [(owner, point)] }) distinct found
      have names : ((d.links.modify place fun link =>
          { link with points := link.points ++ [(owner, point)] }).map (·.node)).Nodup := by
        rw [modified, List.map_map]
        refine (List.map_congr_left fun link _ => ?_) ▸ distinct
        by_cases same : link.node = target <;> simp [same]
      have step := ih others (d := { d with links := d.links.modify place fun link =>
          { link with points := link.points ++ [(owner, point)] } }) names
      have all_joined : (d.links.modify place fun link =>
          { link with points := link.points ++ [(owner, point)] }).map (joined owner point rest) =
            d.links.map (joined owner point (target :: rest)) := by
        rw [modified, List.map_map]
        exact List.map_congr_left fun link _ => (joined_cons owner point target rest link).symm
      simp only [step, all_joined]

/-- Joining links changes nothing but the points on them, and adds no other point. -/
theorem joinLinks_keeps {owner : Nat} {point : String} {targets : List String}
    (ran : joinLinks s name owner point targets d = .ok d') :
    (∀ target ∈ targets, s.Knows target .virtualLink) ∧
      ∃ links, links.map (·.vld) = d.links.map (·.vld) ∧
        (∀ link ∈ links, ∀ entry ∈ link.points, entry = (owner, point) ∨
          ∃ old ∈ d.links, entry ∈ old.points) ∧
        d' = { d with links := links } := by
  induction targets generalizing d with
  | nil =>
    exact ⟨by simp, d.links, rfl, fun link member entry inLink => .inr ⟨link, member, inLink⟩,
      (Except.ok.inj ran).symm⟩
  | cons target rest ih =>
    simp only [joinLinks, bind_eq_ok, requireTarget_eq_ok] at ran
    obtain ⟨-, known, ran⟩ := ran
    rw [List.forall_mem_cons]
    cases found : d.linkPlace? target with
    | none =>
      obtain ⟨others, links, kept, points, rfl⟩ := ih (by simpa [found] using ran)
      exact ⟨⟨known, others⟩, links, kept, points, rfl⟩
    | some place =>
      simp only [found] at ran
      obtain ⟨others, links, kept, points, rfl⟩ := ih ran
      refine ⟨⟨known, others⟩, links, kept.trans (List.ext_getElem? fun i => ?_),
        fun link member entry inLink => (points link member entry inLink).elim .inl ?_, rfl⟩
      · simp only [List.getElem?_map, List.getElem?_modify]
        cases d.links[i]? <;> by_cases here : place = i <;> simp [here]
      · rintro ⟨old, inJoined, inOld⟩
        obtain ⟨i, there⟩ := List.mem_iff_getElem?.mp inJoined
        rw [List.getElem?_modify] at there
        obtain ⟨before, found, rfl⟩ := Option.map_eq_some_iff.mp there
        have member := List.mem_of_getElem? found
        by_cases here : place = i
        · rw [if_pos here, List.mem_append, List.mem_singleton] at inOld
          exact inOld.symm.imp_right fun inBefore => ⟨before, member, inBefore⟩
        · exact .inr ⟨before, member, by simpa [here] using inOld⟩

/-- A connection point that joins links names links only, and it is on those that it names. -/
private theorem joinLinks_ok {owner : Nat} {point : String} {targets : List String}
    (ran : joinLinks s name owner point targets d = .ok d') :
    (∀ target ∈ targets, s.Knows target .virtualLink) ∧
      ∃ links, links.map (·.vld) = d.links.map (·.vld) ∧
        ((d.links.map (·.node)).Nodup → links = d.links.map (joined owner point targets)) ∧
        d' = { d with links := links } := by
  obtain ⟨known, links, kept, -, same⟩ := joinLinks_keeps ran
  refine ⟨known, links, kept, fun distinct => ?_, same⟩
  rw [joinLinks_known name owner point known distinct, same] at ran
  exact (congrArg Drafts.links (Except.ok.inj ran)).symm

/-- A function with the connection point of a node that is bound to the machine with an id. -/
def FunctionDraft.withPoint (vduId name : String) (node : NodeTemplate) (f : FunctionDraft) :
    FunctionDraft :=
  { f with vnfd := attachPoint vduId (nameOf node.properties name) node.properties f.vnfd }

theorem addPoint_ok (added : addPoint s name node d = .ok d') :
    ∃ machine ∈ d.machines, (node.targets "virtualBinding").head? = some machine.node ∧
      ∃ owner links, machine.owner = some owner ∧
        (∀ target ∈ node.targets "virtualLink", s.Knows target .virtualLink) ∧
        links.map (·.vld) = d.links.map (·.vld) ∧
        ((d.links.map (·.node)).Nodup → links = d.links.map
          (joined owner (nameOf node.properties name) (node.targets "virtualLink"))) ∧
        d' = { d with
          functions := d.functions.modify owner (·.withPoint machine.vdu.id name node)
          links := links
          points := d.points ++
            [{ node := name, function := owner, name := nameOf node.properties name }] } := by
  simp only [addPoint, bind_eq_ok] at added
  obtain ⟨machine, bound, added⟩ := added
  obtain ⟨first, member⟩ := boundMachine_ok bound
  cases owned : machine.owner with
  | none => simp [owned] at added
  | some owner =>
    simp only [owned, bind_eq_ok, pure_eq_ok] at added
    obtain ⟨_, joins, rfl⟩ := added
    obtain ⟨known, links, kept, joined, rfl⟩ := joinLinks_ok joins
    exact ⟨machine, member, first, owner, links, owned, known, kept, joined, rfl⟩

/-! ## Paths, groups and policies -/

theorem known_of_requirePoints {targets : List String} {u : Unit}
    (ran : requirePoints s name targets = .ok u) :
    ∀ target ∈ targets, s.Knows target .connectionPoint := by
  induction targets with
  | nil => simp
  | cons target rest ih =>
    simp only [requirePoints, bind_eq_ok, requireTarget_eq_ok] at ran
    obtain ⟨-, known, others⟩ := ran
    exact List.forall_mem_cons.mpr ⟨known, ih others⟩

theorem addPath_ok (added : addPath s name node d = .ok d') :
    ∃ path drawn, path.node = name ∧ path.hops = node.targets "forwarder" ∧
      (∀ target ∈ node.targets "forwarder", s.Knows target .connectionPoint) ∧
      d' = { d with paths := d.paths ++ [path], drawn := drawn } := by
  obtain ⟨id, drawn, taken, -⟩ := idOf_eq s node.properties d
  simp only [addPath, taken, bind_eq_ok, pure_eq_ok] at added
  obtain ⟨_, points, rfl⟩ := added
  exact ⟨_, drawn, rfl, rfl, known_of_requirePoints points, rfl⟩

theorem addGraph_ok {group : Group} (added : addGraph s name group d = .ok d') :
    ∃ graph drawn, graphPaths s name d group.members = .ok graph.paths ∧
      d' = { d with graphs := d.graphs ++ [graph], drawn := drawn } := by
  obtain ⟨id, drawn, taken, -⟩ := idOf_eq s group.properties d
  simp only [addGraph, taken, bind_eq_ok, pure_eq_ok] at added
  obtain ⟨paths, found, rfl⟩ := added
  exact ⟨_, drawn, found, rfl⟩

/-- The members of a scaling policy: those that it counts, or else its targets, each once. -/
def scalingMembers (s : Surroundings) (name : String) (policy : Policy) (d : Drafts) :
    Except TranslationError (List (Nat × UInt32)) :=
  match policy.properties.mapping? "vnfd_members" with
  | some entries => scaledMembers s name d entries
  | none => (targetPlaces s name d policy.targets).map fun places => places.map (·, 1)

theorem addScaling_ok {policy : Policy} (added : addScaling s name policy d = .ok d') :
    ∃ scaling, scalingMembers s name policy d = .ok scaling.members ∧
      d' = { d with scaling := d.scaling ++ [scaling] } := by
  rw [addScaling] at added
  cases counted : policy.properties.mapping? "vnfd_members" <;>
    simp only [counted, bind_eq_ok, pure_eq_ok] at added <;>
    obtain ⟨members, found, _, -, _, -, _, -, rfl⟩ := added <;>
    exact ⟨_, by rw [scalingMembers, counted]; exact found, rfl⟩

theorem addPlacement_ok {policy : Policy} (added : addPlacement s name policy d = .ok d') :
    ∃ placement, targetPlaces s name d policy.targets = .ok placement.members ∧
      d' = { d with placements := d.placements ++ [placement] } := by
  simp only [addPlacement, bind_eq_ok, pure_eq_ok] at added
  obtain ⟨places, found, rfl⟩ := added
  exact ⟨_, found, rfl⟩

theorem addPrimitive_ok {policy : Policy} (added : addPrimitive name policy d = .ok d') :
    ∃ primitive, d' = { d with primitives := d.primitives ++ [primitive] } := by
  simp only [addPrimitive, bind_eq_ok, pure_eq_ok] at added
  obtain ⟨primitive, -, rfl⟩ := added
  exact ⟨primitive, rfl⟩

/-! ## Runs -/

/-- What translating an item does to links, machines and functions. -/
inductive WorkItem.Does (s : Surroundings) : WorkItem → Drafts → Drafts → Prop
  | link {name : String} {node : NodeTemplate} {d d' : Drafts}
    (added : addLink s name node d = .ok d') : Does s ⟨name, .node node, .virtualLink⟩ d d'
  | machine {name : String} {node : NodeTemplate} {d d' : Drafts}
    (added : addMachine s name node d = .ok d') : Does s ⟨name, .node node, .vdu⟩ d d'
  | function {name : String} {node : NodeTemplate} {d d' : Drafts}
    (added : addFunction s name node d = .ok d') : Does s ⟨name, .node node, .vnf⟩ d d'
  | point {name : String} {node : NodeTemplate} {d d' : Drafts}
    (added : addPoint s name node d = .ok d') : Does s ⟨name, .node node, .connectionPoint⟩ d d'
  | other {item : WorkItem} {d d' : Drafts}
    (elsewhere : item.resource ∉ [.virtualLink, .vdu, .vnf, .connectionPoint])
    (links : d'.links = d.links) (machines : d'.machines = d.machines)
    (functions : d'.functions = d.functions) : Does s item d d'

private theorem asNode_eq_ok {entity : Entity} :
    entity.asNode name = .ok node ↔ entity = .node node := by
  cases entity <;> simp [Entity.asNode]

theorem WorkItem.does_of_run {item : WorkItem} (ran : item.run s d = .ok d') :
    item.Does s d d' := by
  obtain ⟨name, entity, resource⟩ := item
  cases resource <;> simp only [WorkItem.run, bind_eq_ok] at ran <;> obtain ⟨it, read, added⟩ := ran
  case virtualLink =>
    obtain rfl := asNode_eq_ok.mp read
    exact .link added
  case vdu =>
    obtain rfl := asNode_eq_ok.mp read
    exact .machine added
  case vnf =>
    obtain rfl := asNode_eq_ok.mp read
    exact .function added
  case connectionPoint =>
    obtain rfl := asNode_eq_ok.mp read
    exact .point added
  case forwardingPath =>
    obtain ⟨path, drawn, -, -, -, rfl⟩ := addPath_ok added
    exact .other (by simp) rfl rfl rfl
  case forwardingGraph =>
    obtain ⟨graph, drawn, -, rfl⟩ := addGraph_ok added
    exact .other (by simp) rfl rfl rfl
  case scalingGroup =>
    obtain ⟨scaling, -, rfl⟩ := addScaling_ok added
    exact .other (by simp) rfl rfl rfl
  case placement =>
    obtain ⟨placement, -, rfl⟩ := addPlacement_ok added
    exact .other (by simp) rfl rfl rfl
  case initialConfig =>
    obtain ⟨primitive, rfl⟩ := addPrimitive_ok added
    exact .other (by simp) rfl rfl rfl

/-- Translating an item drafts the connection point or the path of its node, and no other. -/
theorem WorkItem.nodes_of_run {item : WorkItem} (ran : item.run s d = .ok d') :
    d'.points.map (·.node) = d.points.map (·.node) ++
        (if item.resource = .connectionPoint then [item.name] else []) ∧
      d'.paths.map (·.node) = d.paths.map (·.node) ++
        (if item.resource = .forwardingPath then [item.name] else []) := by
  obtain ⟨name, entity, resource⟩ := item
  cases resource <;> simp only [WorkItem.run, bind_eq_ok] at ran <;> obtain ⟨it, -, added⟩ := ran
  case virtualLink =>
    obtain ⟨vld, drawn, -, rfl⟩ := addLink_ok added
    simp
  case vdu =>
    obtain ⟨machine, drawn, -, -, -, -, -, rfl⟩ := addMachine_ok added
    simp
  case vnf =>
    obtain ⟨f, machines, drawn, -, rfl⟩ := addFunction_keeps added
    simp
  case connectionPoint =>
    obtain ⟨machine, -, -, owner, links, -, -, -, -, rfl⟩ := addPoint_ok added
    simp
  case forwardingPath =>
    obtain ⟨path, drawn, named, -, -, rfl⟩ := addPath_ok added
    simp [named]
  case forwardingGraph =>
    obtain ⟨graph, drawn, -, rfl⟩ := addGraph_ok added
    simp
  case scalingGroup =>
    obtain ⟨scaling, -, rfl⟩ := addScaling_ok added
    simp
  case placement =>
    obtain ⟨placement, -, rfl⟩ := addPlacement_ok added
    simp
  case initialConfig =>
    obtain ⟨primitive, rfl⟩ := addPrimitive_ok added
    simp

/-- Work is done one part after another. -/
theorem runWork_append_eq (s : Surroundings) (front back : List WorkItem) (d : Drafts) :
    runWork s (front ++ back) d = runWork s front d >>= runWork s back := by
  induction front generalizing d with
  | nil => rfl
  | cons item rest ih =>
    have others : (runWork s (rest ++ back)) = fun d => runWork s rest d >>= runWork s back :=
      funext ih
    rw [List.cons_append, runWork, runWork, others, bind_assoc]

theorem runWork_append (s : Surroundings) (front back : List WorkItem) (d d' : Drafts) :
    runWork s (front ++ back) d = .ok d' ↔
      ∃ between, runWork s front d = .ok between ∧ runWork s back between = .ok d' := by
  rw [runWork_append_eq, bind_eq_ok]

/-- A run fails at an item, after those before it are done. -/
theorem runWork_eq_error {work : List WorkItem} {error : TranslationError} :
    runWork s work d = .error error ↔ ∃ done item rest between, work = done ++ item :: rest ∧
      runWork s done d = .ok between ∧ item.run s between = .error error := by
  induction work generalizing d with
  | nil => simp [runWork]
  | cons first others ih =>
    rw [runWork, bind_eq_error]
    constructor
    · rintro (failed | ⟨after, ran, failed⟩)
      · exact ⟨[], first, others, d, rfl, rfl, failed⟩
      · obtain ⟨done, item, rest, between, rfl, ranDone, failed⟩ := ih.mp failed
        exact ⟨first :: done, item, rest, between, rfl, by simp [runWork, ran, ranDone], failed⟩
    · rintro ⟨done, item, rest, between, split, ranDone, failed⟩
      cases done with
      | nil =>
        obtain ⟨rfl, rfl⟩ := List.cons.inj split
        obtain rfl := Except.ok.inj ranDone
        exact .inl failed
      | cons head done =>
        obtain ⟨rfl, rfl⟩ := List.cons.inj split
        obtain ⟨after, ran, ranRest⟩ := bind_eq_ok.mp ranDone
        exact .inr ⟨after, ran, ih.mpr ⟨done, item, rest, between, rfl, ranRest, failed⟩⟩

/-- What every step keeps is kept by a run. A step knows what work is done and what is left. -/
theorem runWork_steps (Kept : List WorkItem → Drafts → Prop) {work : List WorkItem}
    (start : Kept [] d)
    (step : ∀ done item rest before after, work = done ++ item :: rest → Kept done before →
      item.run s before = .ok after → Kept (done ++ [item]) after)
    (ran : runWork s work d = .ok d') : Kept work d' := by
  suffices rest : ∀ done left before, work = done ++ left → Kept done before →
      runWork s left before = .ok d' → Kept work d' from rest [] work d rfl start ran
  intro done left
  induction left generalizing done with
  | nil =>
    intro before split kept ran
    obtain rfl := Except.ok.inj ran
    simpa [split] using kept
  | cons item rest ih =>
    intro before split kept ran
    simp only [runWork, bind_eq_ok] at ran
    obtain ⟨after, first, others⟩ := ran
    exact ih (done ++ [item]) after (by simp [split])
      (step done item rest before after split kept first) others

/-- A run keeps what is kept by all that a step does to links, machines and functions. -/
theorem runWork_induction (Kept : List WorkItem → Drafts → Prop) {work : List WorkItem}
    (start : Kept [] d)
    (step : ∀ done item rest before after, work = done ++ item :: rest → Kept done before →
      item.Does s before after → Kept (done ++ [item]) after)
    (ran : runWork s work d = .ok d') : Kept work d' :=
  runWork_steps Kept start (fun done item rest before after split kept ran =>
    step done item rest before after split kept (WorkItem.does_of_run ran)) ran

end NfvCatalog.Translation
