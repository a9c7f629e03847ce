import NfvCatalog.Proofs.Tosca.Resolved

/-! # References to inputs

A template that declares no inputs is accepted as it is when nothing in it reads as a reference to
an input, and refused otherwise.
-/

namespace NfvCatalog.Tosca

/-! ## What refers to an input -/

mutual

/-- Whether a value is a reference to an input, or holds one. -/
def refersToInput (value : Value) : Bool :=
  (inputReference? value).isSome ||
    match value with
    | .mapping entries => entriesRefer entries
    | .sequence items => itemsRefer items
    | _ => false

/-- Whether the value of any entry refers to an input. -/
def entriesRefer : List (Value × Value) → Bool
  | [] => false
  | (_, value) :: rest => refersToInput value || entriesRefer rest

/-- Whether any item refers to an input. -/
def itemsRefer : List Value → Bool
  | [] => false
  | item :: rest => refersToInput item || itemsRefer rest

end

/-- Whether the properties of a node, or those of its capabilities, refer to an input. -/
def NodeTemplate.refersToInput (node : NodeTemplate) : Bool :=
  entriesRefer node.properties ||
    node.capabilities.entries.any fun capability => entriesRefer capability.2.properties

/-- Whether any property of a topology refers to an input. -/
def Topology.refersToInput (topology : Topology) : Bool :=
  (topology.nodes.entries.any fun node => node.2.refersToInput) ||
    (topology.groups.entries.any fun group => entriesRefer group.2.properties) ||
    topology.policies.any fun entry =>
      entry.entries.any fun policy => entriesRefer policy.2.properties

/-! ## Nothing stands for an input -/

private theorem itemsRefer_eq_any (items : List Value) :
    itemsRefer items = items.any refersToInput := by
  induction items with
  | nil => rfl
  | cons item rest ih => rw [itemsRefer, ih, List.any_cons]

private theorem entriesRefer_eq_any (entries : Value.Entries) :
    entriesRefer entries = entries.any fun entry => refersToInput entry.2 := by
  induction entries with
  | nil => rfl
  | cons entry rest ih => rw [entriesRefer, ih, List.any_cons]

/-- A value refers to no input exactly if it is answered when no input stands for anything. -/
theorem refersToInput_eq_false_iff {value : Value} :
    refersToInput value = false ↔ Answered false (fun _ => none) value := by
  have reference {value : Value} {name : String} (refers : inputReference? value = some name) :
      refersToInput value = false ↔ Answered false (fun _ => none) value := by
    rw [answered_of_reference refers, refersToInput.eq_def, refers]
    simp
  induction value using Value.inductParts with
  | null | bool | number | string =>
    refine iff_of_true rfl fun name asks => ?_
    cases asks with
    | reference refers => cases inputReference?_eq_some_iff.mpr refers
  | sequence items ih =>
    have parts : refersToInput (.sequence items) = itemsRefer items := rfl
    rw [parts, itemsRefer_eq_any, answered_sequence, List.any_eq_false]
    simp only [Bool.not_eq_true]
    exact forall₂_congr ih
  | mapping entries ih =>
    cases named : inputReference? (.mapping entries) with
    | some name => exact reference named
    | none =>
      have parts : refersToInput (.mapping entries) = entriesRefer entries := by
        rw [refersToInput, named, Option.isSome_none, Bool.false_or]
      rw [parts, entriesRefer_eq_any, answered_mapping named, List.any_eq_false]
      simp only [Bool.not_eq_true]
      exact forall₂_congr fun entry member => (ih entry member).2
  | tagged tag value _ =>
    cases named : inputReference? value with
    | some name => exact reference ((inputReference?_tagged tag value).trans named)
    | none =>
      refine iff_of_true ?_ ((answered_tagged named).mpr nofun)
      rw [refersToInput.eq_def, inputReference?_tagged, named]
      rfl

theorem Topology.refersToInput_eq_any (topology : Topology) :
    topology.refersToInput = topology.bags.any entriesRefer := by
  simp [Topology.refersToInput, NodeTemplate.refersToInput, bags, NodeTemplate.bags, policyPairs,
    List.any_flatMap, Function.comp_def, Bool.or_assoc]

/-- A topology refers to no input exactly if all its properties are answered when no input stands
for anything. -/
theorem Topology.refersToInput_eq_false_iff {topology : Topology} :
    topology.refersToInput = false ↔
      ∀ bag ∈ topology.bags, ∀ entry ∈ bag, Answered false (fun _ => none) entry.2 := by
  rw [refersToInput_eq_any, List.any_eq_false]
  refine forall₂_congr fun bag _ => ?_
  rw [entriesRefer_eq_any, Bool.not_eq_true, List.any_eq_false]
  simp only [Bool.not_eq_true]
  exact forall₂_congr fun entry _ => Tosca.refersToInput_eq_false_iff

/-- A template without inputs is accepted, unchanged, exactly when nothing in it refers to one. -/
theorem resolveInputs_eq_ok {template resolved : Template}
    (undeclared : template.topology.inputs = .empty) :
    template.resolveInputs [] = .ok resolved ↔
      template.topology.refersToInput = false ∧ resolved = template := by
  have nothing : template.given? [] = fun _ => none := by
    funext name
    rw [Template.given?, undeclared]
    rfl
  have kept (answered : ∀ bag ∈ template.topology.bags, ∀ entry ∈ bag,
      Answered false (fun _ => none) entry.2) :
      template.topology.mapBags (filledEntries false fun _ => none) = template.topology := by
    refine Topology.mapBags_eq_self fun bag inTopology => ?_
    rw [filledEntries_eq_map, listMap_eq_self]
    intro entry member
    have silent (name : String) : ¬ AsksFor false name entry.2 := fun asks =>
      Bool.false_ne_true (answered bag inTopology entry member name asks)
    rw [filled_eq_self silent]
  rw [Template.resolveInputs_iff, Topology.refersToInput_eq_false_iff]
  constructor
  · rintro ⟨-, answered, rfl⟩
    rw [nothing] at answered ⊢
    exact ⟨answered, by rw [kept answered]⟩
  · rintro ⟨answered, rfl⟩
    rw [← nothing] at answered
    refine ⟨List.forall_mem_nil _, answered, ?_⟩
    rw [nothing] at answered ⊢
    rw [kept answered]

end NfvCatalog.Tosca
