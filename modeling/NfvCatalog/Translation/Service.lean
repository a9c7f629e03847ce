import NfvCatalog.Tosca.Inputs
import NfvCatalog.Translation.Assembly

/-! # From templates to descriptors

Every entity of a topology is assigned to its resource; then the resources are translated phase by
phase, in document order within a phase, so that an entity is translated after those that it refers
to. An entity of a type that no resource owns is passed over, or refused by a strict translation.
-/

namespace NfvCatalog.Translation

open Tosca

/-- An entity of a topology. -/
inductive Entity where
  | node (node : NodeTemplate)
  | group (group : Group)
  | policy (policy : Policy)
deriving DecidableEq, Repr, Inhabited

namespace Entity

/-- The entity as a node. -/
def asNode (name : String) : Entity → Except TranslationError NodeTemplate
  | .node it => .ok it
  | _ => .error (.entityMismatch name)

/-- The entity as a group. -/
def asGroup (name : String) : Entity → Except TranslationError Group
  | .group it => .ok it
  | _ => .error (.entityMismatch name)

/-- The entity as a policy. -/
def asPolicy (name : String) : Entity → Except TranslationError Policy
  | .policy it => .ok it
  | _ => .error (.entityMismatch name)

/-- The table that an entity's type lives in. -/
def table : Entity → TypeTable
  | .node _ => .node
  | .group _ => .group
  | .policy _ => .policy

/-- The type of an entity. -/
def typeName : Entity → String
  | .node it => it.nodeType
  | .group it => it.groupType
  | .policy it => it.policyType

/-- The entities of a topology with their names: nodes, then groups, then policies. -/
def ofTopology (topology : Topology) : List (String × Entity) :=
  topology.nodes.entries.map (fun (name, it) => (name, .node it)) ++
    topology.groups.entries.map (fun (name, it) => (name, .group it)) ++
    topology.policyPairs.map (fun (name, it) => (name, .policy it))

end Entity

/-- An entity with the resource that it belongs to. -/
structure WorkItem where
  name : String
  entity : Entity
  resource : Resource
deriving DecidableEq, Repr, Inhabited

/-- The work that entities make. -/
def workOf (template : Template) (strict : Bool) :
    List (String × Entity) → Except TranslationError (List WorkItem)
  | [] => .ok []
  | (name, entity) :: rest =>
    match Resource.resolve template entity.table entity.typeName with
    | .error error => .error (.template error)
    | .ok (some resource) => do
      return { name := name, entity := entity, resource := resource } ::
        (← workOf template strict rest)
    | .ok none =>
      if strict then .error (.unsupportedType name entity.typeName)
      else workOf template strict rest

/-- Work in the order of phases. -/
def inPhases (work : List WorkItem) : List WorkItem :=
  work.mergeSort fun a b => a.resource.phase.rank ≤ b.resource.phase.rank

/-- The phases of the nodes among work. -/
def nodePhases (work : List WorkItem) : List (String × Phase) :=
  work.filterMap fun item =>
    match item.entity with
    | .node _ => some (item.name, item.resource.phase)
    | _ => none

/-- Translate one entity. -/
def WorkItem.run (s : Surroundings) (item : WorkItem) (d : Drafts) :
    Except TranslationError Drafts :=
  let name := item.name
  match item.resource with
  | .virtualLink => do addLink s name (← item.entity.asNode name) d
  | .vdu => do addMachine s name (← item.entity.asNode name) d
  | .vnf => do addFunction s name (← item.entity.asNode name) d
  | .connectionPoint => do addPoint s name (← item.entity.asNode name) d
  | .forwardingPath => do addPath s name (← item.entity.asNode name) d
  | .forwardingGraph => do addGraph s name (← item.entity.asGroup name) d
  | .scalingGroup => do addScaling s name (← item.entity.asPolicy name) d
  | .placement => do addPlacement s name (← item.entity.asPolicy name) d
  | .initialConfig => do addPrimitive name (← item.entity.asPolicy name) d

/-- Translate a list of entities in order. -/
def runWork (s : Surroundings) : List WorkItem → Drafts → Except TranslationError Drafts
  | [], d => .ok d
  | item :: rest, d => do runWork s rest (← item.run s d)

/-- Translate a template whose inputs are substituted. -/
def translate (freshId : Nat → String) (strict : Bool) (template : Template) :
    Except TranslationError Service := do
  let work ← workOf template strict (Entity.ofTopology template.topology)
  let s : Surroundings := ⟨template, nodePhases work, freshId⟩
  assemble s (← runWork s (inPhases work) { })

/-- The choices of a translation. -/
structure Options where
  /-- Refuse entities of unknown types. -/
  strict : Bool := false
  inputs : Overrides := []
deriving DecidableEq, Repr, Inhabited

/-- Substitute the inputs of a template and translate it. -/
def serviceOf (freshId : Nat → String) (options : Options) (template : Template) :
    Except TranslationError Service :=
  match template.resolveInputs options.inputs with
  | .error error => .error (.template error)
  | .ok template => translate freshId options.strict template

end NfvCatalog.Translation
