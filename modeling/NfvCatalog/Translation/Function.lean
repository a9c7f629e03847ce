import NfvCatalog.Translation.Machine

/-! # Functions

A VNF node becomes a descriptor and a constituent of the service. It claims the machines that its
requirement `vdus` names; a machine belongs to one VNF.
-/

namespace NfvCatalog.Translation

open Tosca

/-- What a VNF has claimed so far: the machines' nodes and the machines. -/
abbrev Claimed := List (String × Vdu)

/-- The machines with one of them owned. -/
def ownMachine (place owner : Nat) (d : Drafts) : Drafts :=
  { d with machines := d.machines.modify place fun m => { m with owner := some owner } }

/-- Claim the machines of a VNF in order. Naming a machine again changes nothing. -/
def claimMachines (s : Surroundings) (entity : String) (place : Nat) :
    List String → Claimed → Drafts → Except TranslationError (Claimed × Drafts)
  | [], claimed, d => .ok (claimed, d)
  | target :: rest, claimed, d => do
    s.requireTarget entity "vdus" target .vdu
    match d.machinePlace? target with
    | none => claimMachines s entity place rest claimed d
    | some at_ =>
      match d.machines[at_]? with
      | none => claimMachines s entity place rest claimed d
      | some machine =>
        match machine.owner with
        | some owner =>
          if owner = place then claimMachines s entity place rest claimed d
          else
            let first := ((d.functions[owner]?).map (·.node)).getD ""
            throw (.claimedTwice target first entity)
        | none =>
          claimMachines s entity place rest (claimed ++ [(target, machine.vdu)])
            (ownMachine at_ place d)

/-- The dashboard in properties. -/
def dashboardOf (properties : Value.Entries) (entity : String) :
    Except TranslationError Dashboard := do
  return { path := properties.text? "path"
           port := ← portProperty? properties entity "port"
           https := properties.truth? "https" }

/-- The id of the claimed machine that a management interface names. -/
def mgmtVdu (s : Surroundings) (entity : String) (claimed : Claimed)
    (properties : Value.Entries) : Except TranslationError (Option String) :=
  match properties.text? "vdu" with
  | none => .ok none
  | some node => do
    s.requireTarget entity "mgmt_interface.vdu" node .vdu
    match claimed.find? (·.1 = node) with
    | some (_, vdu) => return some vdu.id
    | none => throw (.invalidProperty entity "mgmt_interface" (.foreignVdu node))

/-- The management interface in properties. -/
def mgmtOf (s : Surroundings) (entity : String) (claimed : Claimed)
    (properties : Value.Entries) : Except TranslationError MgmtInterface := do
  let vdu ← mgmtVdu s entity claimed properties
  let port ← portProperty? properties entity "port"
  let dashboard ← match properties.mapping? "dashboard_params" with
    | none => .ok none
    | some inner => (dashboardOf inner entity).map some
  return { vdu := vdu, cp := properties.text? "cp", port := port, dashboard := dashboard }

/-- The management interface of a VNF. A VNF of one machine is managed at that machine. -/
def mgmtFor (s : Surroundings) (entity : String) (claimed : Claimed)
    (properties : Value.Entries) : Except TranslationError (Option MgmtInterface) :=
  match properties.mapping? "mgmt_interface", claimed with
  | some inner, _ => (mgmtOf s entity claimed inner).map some
  | none, [(_, vdu)] => .ok (some { vdu := some vdu.id })
  | none, _ => .ok none

/-- The configuration in properties. -/
def configurationOf (entity : String) (properties : Value.Entries) :
    Except TranslationError (Option Value) :=
  match properties.get? "vnf_configuration" with
  | none => .ok none
  | some value =>
    match value.toOpaque with
    | .ok value => .ok (some value)
    | .error fault => .error (.invalidProperty entity "vnf_configuration" (.notOpaque fault))

/-- Add a VNF node. -/
def addFunction (s : Surroundings) (entity : String) (node : NodeTemplate) (d : Drafts) :
    Except TranslationError Drafts := do
  let properties := node.properties
  let (id, d) := d.idOf s properties
  let configuration ← configurationOf entity properties
  let (claimed, d) ←
    claimMachines s entity d.functions.length (node.targets "vdus") [] d
  let mgmt ← mgmtFor s entity claimed properties
  let index ← wholeProperty? properties entity "member_index"
  let logo := properties.text? "logo"
  let vnfd : Vnfd :=
    { id := id
      name := nameOf properties entity
      shortName := properties.text? "short_name"
      vendor := properties.text? "vendor"
      description := descriptionOf node
      version := properties.text? "version"
      logo := logo.map baseName
      mgmt := mgmt
      vdus := claimed.map Prod.snd
      configuration := configuration }
  let draft : FunctionDraft :=
    { node := entity, index := index, startByDefault := properties.truth? "start_by_default"
      vnfd := vnfd, logo := logo }
  return { d with functions := d.functions ++ [draft] }

end NfvCatalog.Translation
