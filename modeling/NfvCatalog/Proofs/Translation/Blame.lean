import NfvCatalog.Proofs.Translation.Steps

/-! # Errors of entities

Translating an entity fails only with errors about this entity: they name it, or a machine that it
needs and that is nobody's. So no entity is handed to the handler of another kind of entity.
-/

namespace NfvCatalog.Translation

open Tosca

/-- An error is about an entity: it names the entity, or a machine that belongs to no function. -/
@[simp] def TranslationError.IsAbout (entity : String) : TranslationError → Prop
  | .danglingReference node _ _ => node = entity
  | .wrongTarget node _ _ _ => node = entity
  | .unboundPoint node => node = entity
  | .orphanVdu _ => True
  | .claimedTwice _ _ second => second = entity
  | .invalidProperty name _ _ => name = entity
  | _ => False

/-- A computation fails only with errors about an entity. -/
def FailsFor {α : Type} (entity : String) (outcome : Except TranslationError α) : Prop :=
  ∀ error, outcome = .error error → error.IsAbout entity

/-! ## Parts of computations -/

section Parts

variable {α β : Type} {entity : String}

@[simp] theorem failsFor_ok (a : α) : FailsFor entity (.ok a) := nofun

@[simp] theorem failsFor_pure (a : α) : FailsFor entity (pure a) := nofun

@[simp] theorem failsFor_error {error : TranslationError} :
    FailsFor entity (.error error : Except TranslationError α) ↔ error.IsAbout entity := by
  simp [FailsFor]

@[simp] theorem failsFor_throw {error : TranslationError} :
    FailsFor entity (throw error : Except TranslationError α) ↔ error.IsAbout entity :=
  failsFor_error

@[simp] theorem failsFor_bind {first : Except TranslationError α}
    {next : α → Except TranslationError β} :
    FailsFor entity (first >>= next) ↔
      FailsFor entity first ∧ ∀ a, first = .ok a → FailsFor entity (next a) := by
  cases first with
  | error error => simp
  | ok a => simp

@[simp] theorem failsFor_map {outcome : Except TranslationError α} {f : α → β} :
    FailsFor entity (outcome.map f) ↔ FailsFor entity outcome := by
  simp only [FailsFor, map_eq_error]

@[simp] theorem failsFor_functor_map {outcome : Except TranslationError α} {f : α → β} :
    FailsFor entity (f <$> outcome) ↔ FailsFor entity outcome :=
  failsFor_map

end Parts

variable {s : Surroundings} {entity : String} {properties : Value.Entries} {d : Drafts}

/-! ## Properties -/

@[simp] theorem failsFor_wholeProperty (key : String) :
    FailsFor entity (wholeProperty? properties entity key) := by
  rw [wholeProperty?]
  repeat' split
  all_goals simp

@[simp] theorem failsFor_portProperty (key : String) :
    FailsFor entity (portProperty? properties entity key) := by
  rw [portProperty?]
  repeat' split
  all_goals simp

@[simp] theorem failsFor_countOf (value : Value) (key : String) :
    FailsFor entity (countOf value entity key) := by
  rw [countOf]
  repeat' split
  all_goals simp

@[simp] theorem failsFor_sizeIn (value : Value) (unit : SizeUnit) (key : String) :
    FailsFor entity (sizeIn value unit entity key) := by
  rw [sizeIn]
  split <;> simp

@[simp] theorem failsFor_readOptional {α : Type} (value : Option Value)
    {read : Value → Except TranslationError α} (each : ∀ value, FailsFor entity (read value)) :
    FailsFor entity (readOptional value read) := by
  cases value <;> simp [readOptional, each]

@[simp] theorem failsFor_readUnlessSet {α : Type} (found : Option α) (value : Option Value)
    {read : Value → Except TranslationError α} (each : ∀ value, FailsFor entity (read value)) :
    FailsFor entity (readUnlessSet found value read) := by
  cases found <;> simp [readUnlessSet, each]

/-! ## Machines -/

theorem failsFor_computeOf (node : NodeTemplate) : FailsFor entity (computeOf entity node) := by
  simp only [computeOf, virtualFlavor, hostFlavor]
  split <;> split <;> simp

theorem failsFor_addMachine (node : NodeTemplate) :
    FailsFor entity (addMachine s entity node d) := by
  simp [addMachine, failsFor_computeOf]

/-! ## Functions -/

@[simp] theorem failsFor_requireTarget (requirement target : String) (phase : Phase) :
    FailsFor entity (s.requireTarget entity requirement target phase) := by
  rw [Surroundings.requireTarget]
  repeat' split
  all_goals simp

theorem failsFor_claimMachines (place : Nat) (targets : List String) (claimed : Claimed) :
    FailsFor entity (claimMachines s entity place targets claimed d) := by
  induction targets generalizing claimed d with
  | nil => simp [claimMachines]
  | cons target rest ih =>
    simp only [claimMachines, failsFor_bind, failsFor_requireTarget, true_and]
    intro _ _
    repeat' split
    all_goals simp [ih]

theorem failsFor_mgmtFor (claimed : Claimed) :
    FailsFor entity (mgmtFor s entity claimed properties) := by
  rw [mgmtFor.eq_def]
  split
  · simp only [mgmtOf, mgmtVdu, dashboardOf]
    repeat' split
    all_goals simp
  · simp
  · simp

theorem failsFor_addFunction (node : NodeTemplate) :
    FailsFor entity (addFunction s entity node d) := by
  simp only [addFunction, configurationOf]
  repeat' split
  all_goals simp [failsFor_claimMachines, failsFor_mgmtFor]

/-! ## Links, connection points and paths -/

theorem failsFor_addLink (node : NodeTemplate) : FailsFor entity (addLink s entity node d) := by
  simp [addLink, providerOf]

theorem failsFor_joinLinks (owner : Nat) (point : String) (targets : List String) :
    FailsFor entity (joinLinks s entity owner point targets d) := by
  induction targets generalizing d with
  | nil => simp [joinLinks]
  | cons target rest ih =>
    simp only [joinLinks, failsFor_bind, failsFor_requireTarget, true_and]
    intro _ _
    split <;> exact ih

theorem failsFor_addPoint (node : NodeTemplate) : FailsFor entity (addPoint s entity node d) := by
  simp only [addPoint, boundMachine, failsFor_bind]
  constructor
  · split
    · simp
    · simp only [failsFor_bind, failsFor_requireTarget, true_and]
      intro _ _
      split <;> simp
  · intro machine _
    split <;> simp [failsFor_joinLinks]

theorem failsFor_requirePoints (targets : List String) :
    FailsFor entity (requirePoints s entity targets) := by
  induction targets with
  | nil => simp [requirePoints]
  | cons target rest ih => simp [requirePoints, ih]

theorem failsFor_addPath (node : NodeTemplate) : FailsFor entity (addPath s entity node d) := by
  simp [addPath, failsFor_requirePoints]

theorem failsFor_graphPaths (members : List String) :
    FailsFor entity (graphPaths s entity d members) := by
  induction members with
  | nil => simp [graphPaths]
  | cons member rest ih =>
    rw [graphPaths]
    repeat' split
    all_goals simp [ih]

theorem failsFor_addGraph (group : Group) : FailsFor entity (addGraph s entity group d) := by
  simp [addGraph, failsFor_graphPaths]

/-! ## Policies -/

@[simp] theorem failsFor_memberPlace (field target : String) :
    FailsFor entity (memberPlace s entity field target d) := by
  simp only [memberPlace, failsFor_bind, failsFor_requireTarget, true_and]
  intro _ _
  split <;> simp

@[simp] theorem failsFor_targetPlaces (targets : List String) :
    FailsFor entity (targetPlaces s entity d targets) := by
  induction targets with
  | nil => simp [targetPlaces]
  | cons target rest ih => simp [targetPlaces, ih]

@[simp] theorem failsFor_scaledCount (value : Value) :
    FailsFor entity (scaledCount entity value) := by
  rw [scaledCount.eq_def]
  repeat' split
  all_goals simp

theorem failsFor_scaledMembers (entries : Value.Entries) :
    FailsFor entity (scaledMembers s entity d entries) := by
  induction entries with
  | nil => simp [scaledMembers]
  | cons entry rest ih => simp [scaledMembers, ih]

theorem failsFor_scalingActions (entries : Value.Entries) :
    FailsFor entity (scalingActions entity entries) := by
  induction entries with
  | nil => simp [scalingActions]
  | cons entry rest ih =>
    rw [scalingActions.eq_def]
    dsimp only
    split <;> simp [ih]

theorem failsFor_addScaling (policy : Policy) :
    FailsFor entity (addScaling s entity policy d) := by
  rw [addScaling]
  dsimp only
  split <;> simp [failsFor_scaledMembers, failsFor_scalingActions]

theorem failsFor_addPlacement (policy : Policy) :
    FailsFor entity (addPlacement s entity policy d) := by
  simp [addPlacement]

theorem failsFor_primitiveOf (policy : Policy) : FailsFor entity (primitiveOf entity policy) := by
  simp only [primitiveOf, failsFor_bind, failsFor_wholeProperty, true_and]
  intro seq _
  cases seq <;> simp

theorem failsFor_addPrimitive (policy : Policy) :
    FailsFor entity (addPrimitive entity policy d) := by
  simp [addPrimitive, failsFor_primitiveOf]

/-! ## Items -/

/-- An item whose entity is of the table of its resource fails only with errors about its entity. -/
theorem WorkItem.failsFor_run {item : WorkItem} (owned : item.entity.table = item.resource.table) :
    FailsFor item.name (item.run s d) := by
  obtain ⟨name, entity, resource⟩ := item
  cases resource <;> cases entity <;> cases owned <;>
    simp only [WorkItem.run, Entity.asNode, Entity.asGroup, Entity.asPolicy, ok_bind]
  · exact failsFor_addLink _
  · exact failsFor_addMachine _
  · exact failsFor_addFunction _
  · exact failsFor_addPoint _
  · exact failsFor_addPath _
  · exact failsFor_addGraph _
  · exact failsFor_addScaling _
  · exact failsFor_addPlacement _
  · exact failsFor_addPrimitive _

end NfvCatalog.Translation
