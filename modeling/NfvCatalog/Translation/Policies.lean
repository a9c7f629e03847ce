import NfvCatalog.Translation.Draft
import NfvCatalog.Translation.Property

/-! # Policies

Policies become scaling groups, placement groups and initial primitives of the service. They refer
to VNF nodes.
-/

namespace NfvCatalog.Translation

open Tosca

/-- The place of a VNF that a policy names. -/
def memberPlace (s : Surroundings) (policy field target : String) (d : Drafts) :
    Except TranslationError Nat := do
  s.requireTarget policy field target .vnf
  match d.functionPlace? target with
  | some place => return place
  | none => throw (.danglingReference policy field target)

/-- The places of the VNFs that a policy targets. -/
def targetPlaces (s : Surroundings) (policy : String) (d : Drafts) :
    List String → Except TranslationError (List Nat)
  | [] => .ok []
  | target :: rest => do
    return (← memberPlace s policy "targets" target d) :: (← targetPlaces s policy d rest)

/-- The count of a scaled VNF. It must be written as a number. -/
def scaledCount (policy : String) (value : Value) : Except TranslationError UInt32 :=
  match value with
  | .number n =>
    match n.word? with
    | some word =>
      if word.toNat < UInt32.size then .ok word.toUInt32
      else .error (.invalidProperty policy "vnfd_members" .countNotInteger)
    | none => .error (.invalidProperty policy "vnfd_members" .countNotInteger)
  | _ => .error (.invalidProperty policy "vnfd_members" .countNotInteger)

/-- The VNFs in a mapping from nodes to counts. -/
def scaledMembers (s : Surroundings) (policy : String) (d : Drafts) :
    Value.Entries → Except TranslationError (List (Nat × UInt32))
  | [] => .ok []
  | (key, value) :: rest => do
    let count ← scaledCount policy value
    let place ← memberPlace s policy "vnfd_members" (key.scalarText?.getD "") d
    return (place, count) :: (← scaledMembers s policy d rest)

/-- The actions in a mapping from triggers to primitives. -/
def scalingActions (policy : String) :
    Value.Entries → Except TranslationError (List ScalingAction)
  | [] => .ok []
  | (trigger, primitive) :: rest =>
    match trigger.scalarText?, primitive.scalarText? with
    | some trigger, some primitive => do
      return { trigger := trigger, primitive := primitive } :: (← scalingActions policy rest)
    | _, _ => .error (.invalidProperty policy "config_actions" .actionsNotPairs)

/-- Add a scaling policy. Without counts each target is added once. -/
def addScaling (s : Surroundings) (entity : String) (policy : Policy) (d : Drafts) :
    Except TranslationError Drafts := do
  let properties := policy.properties
  let members ← match properties.mapping? "vnfd_members" with
    | some entries => scaledMembers s entity d entries
    | none => (targetPlaces s entity d policy.targets).map fun places => places.map (·, 1)
  let actions ← scalingActions entity ((properties.mapping? "config_actions").getD [])
  let least ← wholeProperty? properties entity "min_instance_count"
  let greatest ← wholeProperty? properties entity "max_instance_count"
  let group : ScalingGroup :=
    { name := nameOf properties entity, minInstances := least, maxInstances := greatest
      actions := actions }
  return { d with scaling := d.scaling ++ [{ group := group, members := members }] }

/-- Add a placement policy. -/
def addPlacement (s : Surroundings) (entity : String) (policy : Policy) (d : Drafts) :
    Except TranslationError Drafts := do
  let members ← targetPlaces s entity d policy.targets
  let group : PlacementGroup :=
    { name := nameOf policy.properties entity
      requirement := policy.properties.text? "requirement"
      strategy := (policy.properties.text? "strategy").map Text.asciiUpper }
  return { d with placements := d.placements ++ [{ group := group, members := members }] }

/-- The parameters in a mapping; one whose name is not a scalar is left out. -/
def parametersOf (entries : Value.Entries) : List PrimitiveParameter :=
  entries.filterMap fun entry =>
    entry.1.scalarText?.map fun name => { name := name, value := entry.2.scalarText? }

/-- The primitive of a policy. -/
def primitiveOf (entity : String) (policy : Policy) :
    Except TranslationError ConfigPrimitive := do
  match ← wholeProperty? policy.properties entity "seq" with
  | none => throw (.invalidProperty entity "seq" .missing)
  | some seq =>
    return { seq := seq
             name := nameOf policy.properties entity
             script := policy.properties.text? "user_defined_script"
             parameters := parametersOf ((policy.properties.mapping? "parameter").getD []) }

/-- Add a policy of an initial primitive. -/
def addPrimitive (entity : String) (policy : Policy) (d : Drafts) :
    Except TranslationError Drafts := do
  return { d with primitives := d.primitives ++ [← primitiveOf entity policy] }

end NfvCatalog.Translation
