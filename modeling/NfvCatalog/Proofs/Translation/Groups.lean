import NfvCatalog.Proofs.Translation.Functions

/-! # Groups and primitives that come back

Scaling groups and placement groups name the VNF nodes of their members; a member that is no
constituent has no node and is left out. A mapping keeps one entry for each key, with the last value
that was put there.
-/

namespace NfvCatalog.Translation

open Tosca

/-! ## Mappings -/

private theorem set_map {α : Type} (name : α → String) (value : α → Value) (item : α)
    (items : List α) :
    Value.Entries.set (items.map fun a => (Value.string (name a), value a)) (name item)
        (value item) =
      (putLatest name item items).map fun a => (.string (name a), value a) := by
  induction items with
  | nil => rfl
  | cons first rest ih =>
    by_cases same : name first = name item
    · simp [Value.Entries.set, Value.Entries.insert, putLatest, same]
    · rw [putLatest, if_neg same, List.map_cons, List.map_cons, ← ih]
      simp [Value.Entries.set, Value.Entries.insert, same]

/-- A collected mapping has the latest item of each key. -/
theorem collected_map {α : Type} (name : α → String) (value : α → Value) (items : List α) :
    collected (items.map fun a => (name a, value a)) =
      (latest name items).map fun a => (.string (name a), value a) := by
  have step (items done : List α) :
      (items.map fun a => (name a, value a)).foldl
          (fun entries entry => Value.Entries.set entries entry.1 entry.2)
          (done.map fun a => (Value.string (name a), value a)) =
        (items.foldl (fun done item => putLatest name item done) done).map
          fun a => (Value.string (name a), value a) := by
    induction items generalizing done with
    | nil => rfl
    | cons item rest ih =>
      rw [List.map_cons, List.foldl_cons, set_map]
      exact ih _
  exact step items []

private theorem mapping?_mappingProperty (entries : Value.Entries) :
    (mappingProperty entries).bind Value.mapping? =
      if entries = [] then none else some entries := by
  cases entries <;> rfl

/-- A collected mapping is read as the latest items, and is left out if there are none. -/
theorem mapping?_collected_map {α : Type} (name : α → String) (value : α → Value)
    (items : List α) :
    (mappingProperty (collected (items.map fun a => (name a, value a)))).bind Value.mapping? =
      if latest name items = [] then none
      else some ((latest name items).map fun a => (.string (name a), value a)) := by
  rw [mapping?_mappingProperty, collected_map]
  simp only [List.map_eq_nil_iff]

/-- A collected mapping that counts as empty where it is left out. -/
theorem getD_mapping?_collected_map {α : Type} (name : α → String) (value : α → Value)
    (items : List α) :
    ((mappingProperty (collected (items.map fun a => (name a, value a)))).bind
        Value.mapping?).getD [] =
      (latest name items).map fun a => (.string (name a), value a) := by
  rw [mapping?_collected_map]
  by_cases empty : latest name items = []
  · rw [if_pos empty, empty]
    rfl
  · rw [if_neg empty, Option.getD_some]

/-! ## Primitives -/

private theorem parametersOf_map (parameters : List PrimitiveParameter) :
    parametersOf (parameters.map fun p => (.string p.name, (textProperty p.value).getD .null)) =
      parameters := by
  induction parameters with
  | nil => rfl
  | cons p rest ih =>
    have value : ((textProperty p.value).getD .null).scalarText? = p.value := by
      cases p.value <;> rfl
    simp only [parametersOf] at ih
    simp [parametersOf, value, ih]

private theorem run_primitive (s : Surroundings) (name : String) (policy : Policy) (d : Drafts) :
    WorkItem.run s ⟨name, .policy policy, .initialConfig⟩ d = addPrimitive name policy d := rfl

/-- The policy of a primitive becomes the primitive. -/
theorem addPrimitive_primitivePolicy (s : Surroundings) (primitive : String × ConfigPrimitive)
    (d : Drafts) :
    (primitiveItem primitive).run s d =
      .ok { d with primitives := d.primitives ++ [restoredPrimitive primitive.2] } := by
  obtain ⟨name, primitive⟩ := primitive
  have seq : wholeProperty? (primitivePolicy primitive).properties name "seq" =
      .ok (some primitive.seq) :=
    wholeProperty?_of_get? (by simp [primitivePolicy]) name
  have parameters : parametersOf
      (((primitivePolicy primitive).properties.mapping? "parameter").getD []) =
        latest PrimitiveParameter.name primitive.parameters := by
    have written : (primitivePolicy primitive).properties.mapping? "parameter" =
        (mappingProperty (collected (primitive.parameters.map fun p =>
          (p.name, (textProperty p.value).getD .null)))).bind Value.mapping? := by
      simp [primitivePolicy, Value.Entries.mapping?]
    rw [written, getD_mapping?_collected_map PrimitiveParameter.name
      fun p => (textProperty p.value).getD .null, parametersOf_map]
  have head : nameOf (primitivePolicy primitive).properties name = primitive.name ∧
      (primitivePolicy primitive).properties.text? "user_defined_script" = primitive.script := by
    simp [primitivePolicy, nameOf, Value.Entries.text?]
  rw [primitiveItem, run_primitive]
  simp only [addPrimitive, primitiveOf, seq, ok_bind, parameters, head]
  rfl

theorem runWork_primitives (s : Surroundings) (primitives : List (String × ConfigPrimitive))
    (d : Drafts) :
    runWork s (primitives.map primitiveItem) d = .ok { d with
      primitives := d.primitives ++ primitives.map fun p => restoredPrimitive p.2 } := by
  induction primitives generalizing d with
  | nil => simp [runWork]
  | cons primitive rest ih => simp [runWork, addPrimitive_primitivePolicy, ih]

/-! ## Members -/

/-- The node of a member index is that of a constituent with the index. -/
theorem exists_of_vnfOf? {members : List MemberNodes} {index : UInt32} {node : String}
    (found : vnfOf? members index = some node) :
    ∃ m ∈ members, m.member.index = index ∧ m.vnf = node := by
  obtain ⟨m, first, rfl⟩ := Option.map_eq_some_iff.mp found
  have sameIndex : m.member.index = index := by simpa using List.find?_some first
  exact ⟨m, List.mem_reverse.mp (List.mem_of_find?_eq_some first), sameIndex, rfl⟩

/-- The place of a VNF node among drafts. -/
def placeOf (functions : List FunctionDraft) (node : String) : Nat :=
  functions.findIdx (·.node = node)

/-- The VNF nodes of the members of a scaling group, with how many of each are added. -/
def scaledNodes (members : List MemberNodes) (group : ScalingGroup) : List (String × UInt32) :=
  group.members.filterMap fun m => (vnfOf? members m.member).map fun node => (node, m.count)

/-- The draft of a scaling group whose members are drafted. -/
def scalingDraft (functions : List FunctionDraft) (members : List MemberNodes)
    (group : ScalingGroup) : ScalingDraft :=
  { group :=
      { name := group.name, minInstances := group.minInstances, maxInstances := group.maxInstances
        actions := latest ScalingAction.trigger group.actions }
    members := (latest Prod.fst (scaledNodes members group)).map fun entry =>
      (placeOf functions entry.1, entry.2) }

/-- The draft of a placement group whose members are drafted. -/
def placementDraft (functions : List FunctionDraft) (members : List MemberNodes)
    (group : PlacementGroup) : PlacementDraft :=
  { group :=
      { name := group.name, requirement := group.requirement
        strategy := group.strategy.map Text.asciiUpper }
    members := (group.members.filterMap fun m => vnfOf? members m.member).map (placeOf functions) }

section Members

variable {s : Surroundings} {members : List MemberNodes}
  (known : ∀ m ∈ members, s.Knows m.vnf .vnf) {d : Drafts}
  (drafted : ∀ m ∈ members, ∃ function ∈ d.functions, function.node = m.vnf)
include known drafted

private theorem memberPlace_drafted (policy field : String) {m : MemberNodes}
    (member : m ∈ members) :
    memberPlace s policy field m.vnf d = .ok (placeOf d.functions m.vnf) := by
  have place : d.functionPlace? m.vnf = some (placeOf d.functions m.vnf) :=
    findIdx?_of_exists (by simpa using drafted m member)
  rw [memberPlace, (known m member).requireTarget, ok_bind, place]
  rfl

private theorem targetPlaces_drafted (policy : String) {targets : List String}
    (named : ∀ target ∈ targets, ∃ m ∈ members, m.vnf = target) :
    targetPlaces s policy d targets = .ok (targets.map (placeOf d.functions)) := by
  induction targets with
  | nil => rfl
  | cons target rest ih =>
    obtain ⟨m, member, rfl⟩ := named target (List.mem_cons_self ..)
    rw [targetPlaces, memberPlace_drafted known drafted policy "targets" member,
      ih fun other member => named other (List.mem_cons_of_mem _ member)]
    rfl

private theorem scaledMembers_drafted (policy : String) {scaled : List (String × UInt32)}
    (named : ∀ entry ∈ scaled, ∃ m ∈ members, m.vnf = entry.1) :
    scaledMembers s policy d
        (scaled.map fun entry => (.string entry.1, wordValue entry.2)) =
      .ok (scaled.map fun entry => (placeOf d.functions entry.1, entry.2)) := by
  induction scaled with
  | nil => rfl
  | cons entry rest ih =>
    obtain ⟨m, member, same⟩ := named entry (List.mem_cons_self ..)
    have place := memberPlace_drafted known drafted policy "vnfd_members" member
    rw [same] at place
    rw [List.map_cons, scaledMembers, scaledCount_wordValue, ok_bind, scalarText?_string,
      Option.getD_some, place, ih fun other member => named other (List.mem_cons_of_mem _ member)]
    rfl

/-! ## Placement groups -/

omit known drafted in
private theorem run_placement (s : Surroundings) (name : String) (policy : Policy) (d : Drafts) :
    WorkItem.run s ⟨name, .policy policy, .placement⟩ d = addPlacement s name policy d := rfl

/-- The policy of a placement group becomes its draft. -/
theorem addPlacement_placementPolicy (group : String × PlacementGroup) :
    (placementItem members group).run s d = .ok { d with
      placements := d.placements ++ [placementDraft d.functions members group.2] } := by
  obtain ⟨name, group⟩ := group
  have named : ∀ target ∈ group.members.filterMap (fun m => vnfOf? members m.member),
      ∃ m ∈ members, m.vnf = target := by
    intro target member
    obtain ⟨m, -, found⟩ := List.mem_filterMap.mp member
    obtain ⟨owner, inMembers, -, same⟩ := exists_of_vnfOf? found
    exact ⟨owner, inMembers, same⟩
  have places := targetPlaces_drafted known drafted name named
  have head : nameOf (placementPolicy members group).properties name = group.name ∧
      (placementPolicy members group).properties.text? "requirement" = group.requirement ∧
      (placementPolicy members group).properties.text? "strategy" = group.strategy := by
    simp [placementPolicy, nameOf, Value.Entries.text?]
  have targets : (placementPolicy members group).targets =
    group.members.filterMap fun m => vnfOf? members m.member := rfl
  rw [placementItem, run_placement]
  simp only [addPlacement, targets, places, ok_bind, head]
  rfl

theorem runWork_placements (groups : List (String × PlacementGroup)) :
    runWork s (groups.map (placementItem members)) d = .ok { d with
      placements :=
        d.placements ++ groups.map fun g => placementDraft d.functions members g.2 } := by
  induction groups generalizing d with
  | nil => simp [runWork]
  | cons group rest ih =>
    have others := @ih { d with placements :=
      d.placements ++ [placementDraft d.functions members group.2] } drafted
    rw [List.map_cons, runWork, addPlacement_placementPolicy known drafted, ok_bind, others]
    simp

/-! ## Scaling groups -/

omit known drafted in
private theorem run_scaling (s : Surroundings) (name : String) (policy : Policy) (d : Drafts) :
    WorkItem.run s ⟨name, .policy policy, .scalingGroup⟩ d = addScaling s name policy d := rfl

omit known drafted in
private theorem scalingActions_map (policy : String) (actions : List ScalingAction) :
    scalingActions policy (actions.map fun a => (.string a.trigger, .string a.primitive)) =
      .ok actions := by
  induction actions with
  | nil => rfl
  | cons action rest ih =>
    rw [List.map_cons, scalingActions, scalarText?_string, scalarText?_string, ih]
    rfl

omit known drafted in
private theorem members_scalingPolicy (members : List MemberNodes) (group : ScalingGroup) :
    (scalingPolicy members group).properties.mapping? "vnfd_members" =
      if latest Prod.fst (scaledNodes members group) = [] then none
      else some ((latest Prod.fst (scaledNodes members group)).map fun entry =>
        (.string entry.1, wordValue entry.2)) := by
  have written : (scalingPolicy members group).properties.mapping? "vnfd_members" =
      (mappingProperty (collected ((scaledNodes members group).map fun entry =>
        (entry.1, wordValue entry.2)))).bind Value.mapping? := by
    simp [scalingPolicy, scaledNodes, Value.Entries.mapping?]
  rw [written, mapping?_collected_map Prod.fst fun entry => wordValue entry.2]

omit known drafted in
private theorem actions_scalingPolicy (members : List MemberNodes) (group : ScalingGroup)
    (name : String) :
    scalingActions name
        (((scalingPolicy members group).properties.mapping? "config_actions").getD []) =
      .ok (latest ScalingAction.trigger group.actions) := by
  have written : (scalingPolicy members group).properties.mapping? "config_actions" =
      (mappingProperty (collected (group.actions.map fun a =>
        (a.trigger, .string a.primitive)))).bind Value.mapping? := by
    simp [scalingPolicy, Value.Entries.mapping?]
  rw [written, getD_mapping?_collected_map ScalingAction.trigger fun a => .string a.primitive,
    scalingActions_map]

omit known drafted in
private theorem latest_scaledNodes_named (members : List MemberNodes) (group : ScalingGroup) :
    ∀ entry ∈ latest Prod.fst (scaledNodes members group), ∃ m ∈ members, m.vnf = entry.1 := by
  intro entry member
  obtain ⟨m, -, found⟩ := List.mem_filterMap.mp (mem_of_mem_latest Prod.fst member)
  obtain ⟨node, nodeFound, rfl⟩ := Option.map_eq_some_iff.mp found
  obtain ⟨owner, inMembers, -, same⟩ := exists_of_vnfOf? nodeFound
  exact ⟨owner, inMembers, same⟩

/-- The policy of a scaling group becomes its draft. -/
theorem addScaling_scalingPolicy (group : String × ScalingGroup) :
    (scalingItem members group).run s d = .ok { d with
      scaling := d.scaling ++ [scalingDraft d.functions members group.2] } := by
  obtain ⟨name, group⟩ := group
  have entries := members_scalingPolicy members group
  have actions := actions_scalingPolicy members group name
  have least : wholeProperty? (scalingPolicy members group).properties name "min_instance_count" =
      .ok group.minInstances :=
    wholeProperty?_of_get? (by simp [scalingPolicy]) name
  have greatest : wholeProperty? (scalingPolicy members group).properties name
      "max_instance_count" = .ok group.maxInstances :=
    wholeProperty?_of_get? (by simp [scalingPolicy]) name
  have head : nameOf (scalingPolicy members group).properties name = group.name := by
    simp [scalingPolicy, nameOf, Value.Entries.text?]
  have targets : (scalingPolicy members group).targets =
      (scaledNodes members group).map Prod.fst := rfl
  rw [scalingItem, run_scaling]
  by_cases empty : scaledNodes members group = []
  · simp only [addScaling, entries, latest_eq_nil, empty, if_true, targets, List.map_nil,
      targetPlaces, actions, least, greatest, head, ok_bind, Except.map]
    simp [scalingDraft, empty]
  · have places := scaledMembers_drafted known drafted name (latest_scaledNodes_named members group)
    simp only [addScaling, entries, latest_eq_nil, empty, if_false, places, actions, least,
      greatest, head, ok_bind]
    rfl

theorem runWork_scaling (groups : List (String × ScalingGroup)) :
    runWork s (groups.map (scalingItem members)) d = .ok { d with
      scaling := d.scaling ++ groups.map fun g => scalingDraft d.functions members g.2 } := by
  induction groups generalizing d with
  | nil => simp [runWork]
  | cons group rest ih =>
    have others := @ih { d with scaling :=
      d.scaling ++ [scalingDraft d.functions members group.2] } drafted
    rw [List.map_cons, runWork, addScaling_scalingPolicy known drafted, ok_bind, others]
    simp

end Members

end NfvCatalog.Translation
