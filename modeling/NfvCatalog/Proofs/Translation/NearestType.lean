import Mathlib.Data.List.Chain
import Mathlib.Order.WellFounded
import NfvCatalog.Proofs.Outcome
import NfvCatalog.Proofs.Tosca.OrderedMap
import NfvCatalog.Proofs.Translation.Work
import NfvCatalog.Translation.Error

/-! # The nearest handled type

Walking from a type to the types it is derived from ends at a type without a parent, or comes to a
type again. It comes to a type again exactly if every type on the way has a parent, as only so many
types are declared. An entity is handled like the first handled type on the way.
-/

/-! ## Derivation -/

namespace NfvCatalog.Tosca

/-- A type is declared as derived from another. -/
def DerivesFrom (types : OrderedMap TypeDefinition) (type parent : String) : Prop :=
  ∃ definition, types.get? type = some definition ∧ definition.derivedFrom = some parent

/-- Following derivations from a type goes on for ever: there is always a declared type with a
parent. -/
def DerivesEndlessly (types : OrderedMap TypeDefinition) (type : String) : Prop :=
  ∃ path : Nat → String, path 0 = type ∧ ∀ n, DerivesFrom types (path n) (path (n + 1))

/-- The types from a type on, each derived from the next, up to one that is not declared or has no
parent. -/
structure IsTypeChain (types : OrderedMap TypeDefinition) (type : String) (chain : List String) :
    Prop where
  first : chain.head? = some type
  derived : chain.IsChain (DerivesFrom types)
  last : ∀ last, chain.getLast? = some last →
    types.get? last = none ∨
      ∃ definition, types.get? last = some definition ∧ definition.derivedFrom = none
  distinct : chain.Nodup

variable {types : OrderedMap TypeDefinition}

theorem parentType?_eq_some_iff {type parent : String} :
    parentType? types type = some parent ↔ DerivesFrom types type parent :=
  Option.bind_eq_some_iff

theorem parentType?_eq_none_iff {type : String} :
    parentType? types type = none ↔
      types.get? type = none ∨
        ∃ definition, types.get? type = some definition ∧ definition.derivedFrom = none := by
  rw [parentType?]
  cases types.get? type <;> simp

/-- A type has one parent at most. -/
theorem DerivesFrom.eq {type parent other : String} (derives : DerivesFrom types type parent)
    (also : DerivesFrom types type other) : parent = other := by
  have isParent := parentType?_eq_some_iff.mpr derives
  rw [parentType?_eq_some_iff.mpr also] at isParent
  exact (Option.some.inj isParent).symm

theorem DerivesFrom.parentType?_ne_none {type parent : String}
    (derives : DerivesFrom types type parent) : parentType? types type ≠ none := by
  rw [parentType?_eq_some_iff.mpr derives]
  exact Option.some_ne_none parent

/-- A type with a parent is declared. -/
theorem DerivesFrom.mem_keys {type parent : String} (derives : DerivesFrom types type parent) :
    type ∈ types.keys := by
  obtain ⟨definition, found, -⟩ := derives
  obtain ⟨entry, isEntry, -⟩ := Option.map_eq_some_iff.mp found
  have named : entry.1 = type := by simpa using List.find?_some isEntry
  exact named ▸ List.mem_map_of_mem (List.mem_of_find?_eq_some isEntry)

/-- Derivations go on for ever exactly if the types on the way are not well-founded. -/
theorem derivesEndlessly_iff {type : String} :
    DerivesEndlessly types type ↔
      ¬ Acc (fun parent type => DerivesFrom types type parent) type := by
  rw [not_acc_iff_exists_descending_chain]
  rfl

/-- A type that leads back to itself has no end of ancestors. -/
theorem not_acc_of_circle {type : String}
    (circle : Relation.TransGen (DerivesFrom types) type type) :
    ¬ Acc (fun parent type => DerivesFrom types type parent) type := by
  intro ends
  induction ends with
  | intro type _ ih =>
    obtain ⟨parent, derives, back⟩ := Relation.TransGen.head'_iff.mp circle
    exact ih parent derives (.tail' back derives)

/-! ## The walk -/

/-- A walk from a type to its ancestors, as far as some types have been seen: the ancestors up to
one without a parent, or nothing when it comes to a type that was seen. -/
inductive Walk (types : OrderedMap TypeDefinition) :
    List String → String → Option (List String) → Prop
  | top {seen : List String} {type : String} (orphan : parentType? types type = none) :
      Walk types seen type (some [])
  | again {seen : List String} {type parent : String} (derives : DerivesFrom types type parent)
      (known : parent ∈ seen) : Walk types seen type none
  | up {seen : List String} {type parent : String} {result : Option (List String)}
      (derives : DerivesFrom types type parent) (fresh : parent ∉ seen)
      (rest : Walk types (parent :: seen) parent result) :
      Walk types seen type (result.map (parent :: ·))

/-- With one step more than there are declared types the walk comes to its end: the types that were
left behind are declared and distinct, so there are no more than that. -/
theorem walk_ancestors? {steps : Nat} {type : String} {behind : List String}
    (distinct : (type :: behind).Nodup) (declared : behind ⊆ types.keys)
    (enough : types.size < steps + behind.length) :
    Walk types (type :: behind) type (ancestors? types steps (type :: behind) type) := by
  induction steps generalizing type behind with
  | zero =>
    have few : behind.length ≤ types.keys.length :=
      (List.nodup_cons.mp distinct).2.length_le_of_subset declared
    rw [OrderedMap.keys, List.length_map] at few
    rw [OrderedMap.size] at enough
    omega
  | succ steps ih =>
    rw [ancestors?]
    cases next : parentType? types type with
    | none => exact .top next
    | some parent =>
      have derives := parentType?_eq_some_iff.mp next
      by_cases known : parent ∈ type :: behind
      · simp only [known, if_true]
        exact .again derives known
      · simp only [known, if_false]
        apply Walk.up derives known
        apply ih
        · exact List.nodup_cons.mpr ⟨known, distinct⟩
        · exact List.cons_subset.mpr ⟨derives.mem_keys, declared⟩
        · rw [List.length_cons]
          omega

namespace Walk

variable {seen : List String} {type : String} {result : Option (List String)}

/-- A walk that comes to a seen type could go on for ever, as the seen types lead to where it is. -/
theorem not_acc (walk : Walk types seen type result) (repeats : result = none)
    (leads : ∀ name ∈ seen, Relation.ReflTransGen (DerivesFrom types) name type) :
    ¬ Acc (fun parent type => DerivesFrom types type parent) type := by
  induction walk with
  | top => cases repeats
  | @again seen type parent derives known =>
    apply not_acc_of_circle
    exact .head' derives (leads parent known)
  | @up seen type parent result derives _ _ ih =>
    have ahead : ∀ name ∈ parent :: seen,
        Relation.ReflTransGen (DerivesFrom types) name parent := by
      intro name member
      rcases List.mem_cons.mp member with rfl | member
      · exact .refl
      · exact (leads name member).tail derives
    intro ends
    exact ih (by simpa using repeats) ahead (ends.inv derives)

/-- The types on a walk that comes to an end are derived from each other and new. -/
theorem derived_and_distinct (walk : Walk types seen type result) {ancestors : List String}
    (ended : result = some ancestors) :
    (type :: ancestors).IsChain (DerivesFrom types) ∧
      (∀ last, (type :: ancestors).getLast? = some last → parentType? types last = none) ∧
      ancestors.Nodup ∧ ancestors.Disjoint seen := by
  induction walk generalizing ancestors with
  | top orphan =>
    obtain rfl := Option.some.inj ended
    refine ⟨List.isChain_singleton _, ?_, List.nodup_nil, List.disjoint_nil_left _⟩
    rintro _ ⟨⟩
    exact orphan
  | again => cases ended
  | up derives fresh _ ih =>
    obtain ⟨others, isRest, rfl⟩ := Option.map_eq_some_iff.mp ended
    obtain ⟨derived, top, distinct, apart⟩ := ih isRest
    obtain ⟨own, apart⟩ := List.disjoint_cons_right.mp apart
    refine ⟨List.isChain_cons_cons.mpr ⟨derives, derived⟩, ?_, List.nodup_cons.mpr ⟨own, distinct⟩,
      List.disjoint_cons_left.mpr ⟨fresh, apart⟩⟩
    intro last isLast
    exact top last (by simpa using isLast)

end Walk

/-! ## Chains -/

/-- A walk that comes to an end goes along a chain. -/
theorem Walk.isTypeChain {name : String} {ancestors : List String}
    (walk : Walk types [name] name (some ancestors)) :
    IsTypeChain types name (name :: ancestors) := by
  obtain ⟨derived, top, distinct, apart⟩ := walk.derived_and_distinct rfl
  have own : name ∉ ancestors := fun member => apart member (List.mem_singleton_self _)
  constructor
  · rfl
  · exact derived
  · intro last isLast
    exact parentType?_eq_none_iff.mp (top last isLast)
  · exact List.nodup_cons.mpr ⟨own, distinct⟩

/-- The ancestors of a type are determined, as every type has one parent at most. -/
private theorem ancestors_eq {type : String} {ancestors others : List String}
    (derived : (type :: ancestors).IsChain (DerivesFrom types))
    (also : (type :: others).IsChain (DerivesFrom types))
    (top : ∀ last, (type :: ancestors).getLast? = some last → parentType? types last = none)
    (otherTop : ∀ last, (type :: others).getLast? = some last → parentType? types last = none) :
    ancestors = others := by
  induction ancestors generalizing type others with
  | nil =>
    cases others with
    | nil => rfl
    | cons parent others =>
      exact absurd (top type rfl) (List.isChain_cons_cons.mp also).1.parentType?_ne_none
  | cons parent ancestors ih =>
    obtain ⟨derives, derived⟩ := List.isChain_cons_cons.mp derived
    cases others with
    | nil => exact absurd (otherTop type rfl) derives.parentType?_ne_none
    | cons other others =>
      obtain ⟨otherDerives, also⟩ := List.isChain_cons_cons.mp also
      obtain rfl := derives.eq otherDerives
      rw [ih derived also (by simpa using top) (by simpa using otherTop)]

/-- A chain ends, so derivations from its first type do. -/
private theorem acc_of_chain {type : String} {ancestors : List String}
    (derived : (type :: ancestors).IsChain (DerivesFrom types))
    (top : ∀ last, (type :: ancestors).getLast? = some last → parentType? types last = none) :
    Acc (fun parent type => DerivesFrom types type parent) type := by
  induction ancestors generalizing type with
  | nil =>
    constructor
    intro parent derives
    exact absurd (top type rfl) derives.parentType?_ne_none
  | cons parent ancestors ih =>
    obtain ⟨derives, derived⟩ := List.isChain_cons_cons.mp derived
    constructor
    intro other also
    obtain rfl := derives.eq also
    exact ih derived (by simpa using top)

namespace IsTypeChain

variable {name : String} {chain other : List String}

theorem exists_cons (along : IsTypeChain types name chain) :
    ∃ ancestors, chain = name :: ancestors ∧
      ∀ last, (name :: ancestors).getLast? = some last → parentType? types last = none := by
  obtain ⟨ancestors, rfl⟩ := List.head?_eq_some_iff.mp along.first
  refine ⟨ancestors, rfl, fun last isLast => ?_⟩
  exact parentType?_eq_none_iff.mpr (along.last last isLast)

theorem not_endless (along : IsTypeChain types name chain) : ¬ DerivesEndlessly types name := by
  obtain ⟨ancestors, rfl, top⟩ := along.exists_cons
  rw [derivesEndlessly_iff, not_not]
  exact acc_of_chain along.derived top

protected theorem eq (along : IsTypeChain types name chain)
    (also : IsTypeChain types name other) : chain = other := by
  obtain ⟨ancestors, rfl, top⟩ := along.exists_cons
  obtain ⟨others, rfl, otherTop⟩ := also.exists_cons
  rw [ancestors_eq along.derived also.derived top otherTop]

end IsTypeChain

/-! ## Type chains -/

/-- The walk from a type comes to an end, and tells the chain of the type. -/
theorem walk_typeChain (types : OrderedMap TypeDefinition) (name : String) :
    Walk types [name] name ((typeChain types name).toOption.map List.tail) := by
  have walk : Walk types [name] name (ancestors? types (types.size + 1) [name] name) :=
    walk_ancestors? (List.nodup_singleton name) (List.nil_subset _) (Nat.lt_succ_self _)
  have told : (typeChain types name).toOption.map List.tail =
      ancestors? types (types.size + 1) [name] name := by
    rw [typeChain]
    cases ancestors? types (types.size + 1) [name] name <;> rfl
  exact told ▸ walk

private theorem typeChain_cases (types : OrderedMap TypeDefinition) (name : String) :
    typeChain types name = .error (.typeCycle name) ∨
      ∃ ancestors, typeChain types name = .ok (name :: ancestors) := by
  rw [typeChain]
  split
  · exact .inr ⟨_, rfl⟩
  · exact .inl rfl

variable {name : String}

theorem isTypeChain_of_typeChain {chain : List String} (found : typeChain types name = .ok chain) :
    IsTypeChain types name chain := by
  have walk := walk_typeChain types name
  rcases typeChain_cases types name with cycle | ⟨ancestors, isChain⟩
  · cases found.symm.trans cycle
  · obtain rfl := Except.ok.inj (found.symm.trans isChain)
    rw [found] at walk
    exact walk.isTypeChain

/-- The chain of a type is refused exactly if derivations go on for ever. -/
theorem typeChain_eq_error_iff {error : TemplateError} :
    typeChain types name = .error error ↔
      error = .typeCycle name ∧ DerivesEndlessly types name := by
  rcases typeChain_cases types name with cycle | ⟨ancestors, found⟩
  · have walk := walk_typeChain types name
    rw [cycle] at walk
    have endless : DerivesEndlessly types name := by
      apply derivesEndlessly_iff.mpr
      apply walk.not_acc rfl
      intro seen member
      rw [List.mem_singleton.mp member]
    rw [cycle]
    constructor
    · intro same
      exact ⟨(Except.error.inj same).symm, endless⟩
    · rintro ⟨rfl, -⟩
      rfl
  · rw [found]
    refine ⟨nofun, ?_⟩
    rintro ⟨-, endless⟩
    exact absurd endless (isTypeChain_of_typeChain found).not_endless

theorem typeChain_eq_ok_iff {chain : List String} :
    typeChain types name = .ok chain ↔ IsTypeChain types name chain := by
  refine ⟨isTypeChain_of_typeChain, fun along => ?_⟩
  rcases typeChain_cases types name with cycle | ⟨ancestors, found⟩
  · exact absurd (typeChain_eq_error_iff.mp cycle).2 along.not_endless
  · rw [found, (isTypeChain_of_typeChain found).eq along]

end NfvCatalog.Tosca

/-! ## The nearest type -/

namespace NfvCatalog.Translation

open Tosca

namespace Resource

/-- A type is handled by the last registered resource that owns it. -/
theorem handler?_registerAll (resources : List Resource) (table : TypeTable) (name : String) :
    (registerAll resources).handler? table name =
      resources.reverse.find? fun resource =>
        resource.table = table && resource.typeNames.contains name := by
  induction resources using List.reverseRecOn with
  | nil => rfl
  | append_singleton rest resource ih =>
    have last : registerAll (rest ++ [resource]) =
        (registerAll rest).register resource.table resource.typeNames resource := by
      rw [registerAll, List.foldl_append]
      rfl
    have same : (resource.table = table && resource.typeNames.contains name) =
        decide (table = resource.table ∧ name ∈ resource.typeNames) := by
      simp [eq_comm]
    rw [List.reverse_append, List.reverse_singleton, List.singleton_append, List.find?_cons, ← ih,
      last, Registry.register, same]
    by_cases owns : table = resource.table ∧ name ∈ resource.typeNames <;> simp [owns]

/-- Registering all resources gives every type to the one that owns it. -/
theorem registerAll_all : registerAll all = registry := by
  have same (table : TypeTable) (name : String) :
      (registerAll all).handler? table name = ofType? table name := by
    rw [handler?_registerAll]
    cases found : all.reverse.find? fun resource =>
        resource.table = table && resource.typeNames.contains name with
    | none =>
      apply Eq.symm
      apply List.find?_eq_none.mpr
      intro resource member
      exact List.find?_eq_none.mp found resource (List.mem_reverse.mpr member)
    | some resource =>
      have owns := List.find?_some found
      simp only [Bool.and_eq_true, decide_eq_true_eq, List.contains_iff_mem] at owns
      obtain ⟨rfl, member⟩ := owns
      exact (ofType?_of_mem_typeNames resource name member).symm
  exact congrArg Registry.mk (funext fun table => funext (same table))

end Resource

namespace Registry

variable {α : Type}

theorem resolve_eq_error_iff {registry : Registry α} {template : Template} {table : TypeTable}
    {name : String} {error : TemplateError} :
    registry.resolve template table name = .error error ↔
      template.typeChain table name = .error error := by
  rw [resolve, bind_eq_error]
  constructor
  · rintro (refused | ⟨chain, -, impossible⟩)
    · exact refused
    · cases impossible
  · exact .inl

theorem resolve_eq_ok_iff {registry : Registry α} {template : Template} {table : TypeTable}
    {name : String} {handler? : Option α} :
    registry.resolve template table name = .ok handler? ↔
      ∃ chain, IsTypeChain (template.types table) name chain ∧
        chain.findSome? (registry.handler? table) = handler? := by
  simp only [resolve, bind_eq_ok, pure_eq_ok, Template.typeChain, typeChain_eq_ok_iff]

/-- The walk from a type to its ancestors comes to an end. A type from which derivations go on for
ever has no chain, any other has exactly one. The type is handled like the first handled type on its
chain, if any is handled. -/
theorem resolve_nearest (registry : Registry α) (template : Template) (table : TypeTable)
    (name : String) :
    let types := template.types table
    Walk types [name] name ((template.typeChain table name).toOption.map List.tail) ∧
    (∀ error, template.typeChain table name = .error error ↔
      error = .typeCycle name ∧ DerivesEndlessly types name) ∧
    (∀ chain, template.typeChain table name = .ok chain ↔ IsTypeChain types name chain) ∧
    (∀ error, registry.resolve template table name = .error error ↔
      error = .typeCycle name ∧ DerivesEndlessly types name) ∧
    (∀ handler, registry.resolve template table name = .ok (some handler) ↔
      ∃ before type after, IsTypeChain types name (before ++ type :: after) ∧
        registry.handler? table type = some handler ∧
        ∀ other ∈ before, registry.handler? table other = none) ∧
    (registry.resolve template table name = .ok none ↔
      ∃ chain, IsTypeChain types name chain ∧
        ∀ type ∈ chain, registry.handler? table type = none) := by
  intro types
  refine ⟨walk_typeChain types name, fun error => typeChain_eq_error_iff,
    fun chain => typeChain_eq_ok_iff,
    fun error => resolve_eq_error_iff.trans typeChain_eq_error_iff, fun handler => ?_, ?_⟩
  · rw [resolve_eq_ok_iff]
    constructor
    · rintro ⟨chain, along, found⟩
      obtain ⟨before, type, after, rfl, handles, unhandled⟩ := List.findSome?_eq_some_iff.mp found
      exact ⟨before, type, after, along, handles, unhandled⟩
    · rintro ⟨before, type, after, along, handles, unhandled⟩
      exact ⟨_, along, List.findSome?_eq_some_iff.mpr
        ⟨before, type, after, rfl, handles, unhandled⟩⟩
  · simp only [resolve_eq_ok_iff, List.findSome?_eq_none_iff]
    rfl

end Registry

/-! ## Strict translations

Entity by entity and before anything is translated, a strict translation makes sure that it knows
what to do. It refuses the first entity that no resource handles, and has no influence otherwise.
-/

variable {template : Template}

/-- An entity is handled: its type has a chain, and a type on the chain is one of those that a
resource for the same table names. -/
def Handled (template : Template) (entry : String × Entity) : Prop :=
  ∃ chain, IsTypeChain (template.types entry.2.table) entry.2.typeName chain ∧
    ∃ type ∈ chain, ∃ resource : Resource,
      resource.table = entry.2.table ∧ type ∈ resource.typeNames

theorem isSome_ofType?_iff {table : TypeTable} {name : String} :
    (Resource.ofType? table name).isSome ↔
      ∃ resource : Resource, resource.table = table ∧ name ∈ resource.typeNames := by
  constructor
  · intro owned
    obtain ⟨resource, owner⟩ := Option.isSome_iff_exists.mp owned
    have owns := List.find?_some owner
    simp only [Bool.and_eq_true, decide_eq_true_eq, List.contains_iff_mem] at owns
    exact ⟨resource, owns⟩
  · rintro ⟨resource, rfl, member⟩
    rw [ofType?_of_mem_typeNames resource name member]
    rfl

/-- Entities are handled exactly if their types resolve to a resource. -/
theorem handled_iff {entry : String × Entity} :
    Handled template entry ↔
      ∃ resource, Resource.resolve template entry.2.table entry.2.typeName =
        .ok (some resource) := by
  simp only [Resource.resolve, Registry.resolve_eq_ok_iff]
  rw [exists_comm]
  refine exists_congr fun chain => ?_
  rw [exists_and_left, ← Option.isSome_iff_exists, List.findSome?_isSome_iff]
  refine and_congr_right fun _ => exists_congr fun type => and_congr_right fun _ => ?_
  exact isSome_ofType?_iff.symm

/-- If all entities are handled, strictness makes no difference. -/
theorem workOf_of_handled {entities : List (String × Entity)}
    (handled : ∀ entry ∈ entities, Handled template entry) (strict : Bool) :
    workOf template strict entities = .ok (entities.filterMap (itemOf? template)) := by
  refine workOf_eq_ok.mpr ⟨fun entry member => ?_, rfl⟩
  obtain ⟨resource, resolved⟩ := handled_iff.mp (handled entry member)
  exact ⟨_, resolved, fun _ => Option.some_ne_none resource⟩

/-- What a strict translation says of an entity that is not handled. -/
inductive RefusedWith (template : Template) (entry : String × Entity) : TranslationError → Prop
  | cycle (endless : DerivesEndlessly (template.types entry.2.table) entry.2.typeName) :
      RefusedWith template entry (.template (.typeCycle entry.2.typeName))
  | unsupported (ends : ¬ DerivesEndlessly (template.types entry.2.table) entry.2.typeName) :
      RefusedWith template entry (.unsupportedType entry.1 entry.2.typeName)

/-- The first entity that is not handled is refused. -/
theorem workOf_of_unhandled {entry : String × Entity} (unhandled : ¬ Handled template entry)
    {before : List (String × Entity)} (handled : ∀ entry ∈ before, Handled template entry)
    (after : List (String × Entity)) :
    ∃ error, RefusedWith template entry error ∧
      workOf template true (before ++ entry :: after) = .error error := by
  induction before with
  | nil =>
    rw [List.nil_append, workOf]
    cases resolved : Resource.resolve template entry.2.table entry.2.typeName with
    | error error =>
      obtain ⟨rfl, endless⟩ :=
        typeChain_eq_error_iff.mp (Registry.resolve_eq_error_iff.mp resolved)
      exact ⟨_, .cycle endless, rfl⟩
    | ok owner =>
      cases owner with
      | some resource => exact absurd (handled_iff.mpr ⟨resource, resolved⟩) unhandled
      | none =>
        obtain ⟨_, along, -⟩ := Registry.resolve_eq_ok_iff.mp resolved
        exact ⟨_, .unsupported along.not_endless, rfl⟩
  | cons first rest ih =>
    obtain ⟨firstHandled, restHandled⟩ := List.forall_mem_cons.mp handled
    obtain ⟨resource, resolved⟩ := handled_iff.mp firstHandled
    obtain ⟨error, refusal, refused⟩ := ih restHandled
    refine ⟨error, refusal, ?_⟩
    rw [List.cons_append, workOf, resolved, refused]
    rfl

/-- The first entity of a template that is not handled. -/
def IsFirstUnhandled (template : Template) (entry : String × Entity) : Prop :=
  ∃ before after, Entity.ofTopology template.topology = before ++ entry :: after ∧
    (∀ other ∈ before, Handled template other) ∧ ¬ Handled template entry

private theorem exists_isFirstUnhandled
    (unhandled : ¬ ∀ entry ∈ Entity.ofTopology template.topology, Handled template entry) :
    ∃ entry, IsFirstUnhandled template entry := by
  classical
  cases found : (Entity.ofTopology template.topology).find?
      fun entry => ¬ Handled template entry with
  | none => exact absurd (by simpa using List.find?_eq_none.mp found) unhandled
  | some entry =>
    obtain ⟨refused, before, after, split, handled⟩ := List.find?_eq_some_iff_append.mp found
    exact ⟨entry, before, after, split, by simpa using handled, by simpa using refused⟩

/-- Strict and other translations agree if all entities are handled. A strict translation fails
otherwise, and it is the first entity that is not handled for which it does. So all that it accepts
is translated alike without it. -/
theorem translate_strict (freshId : Nat → String) (template : Template) :
    ((∀ entry ∈ Entity.ofTopology template.topology, Handled template entry) →
      translate freshId true template = translate freshId false template) ∧
    ((¬ ∀ entry ∈ Entity.ofTopology template.topology, Handled template entry) →
      ∃ entry error, IsFirstUnhandled template entry ∧ RefusedWith template entry error ∧
        translate freshId true template = .error error) ∧
    ∀ service, translate freshId true template = .ok service →
      translate freshId false template = .ok service := by
  have same (handled : ∀ entry ∈ Entity.ofTopology template.topology, Handled template entry) :
      translate freshId true template = translate freshId false template := by
    rw [translate, translate, workOf_of_handled handled, workOf_of_handled handled]
  have refused (unhandled : ¬ ∀ entry ∈ Entity.ofTopology template.topology,
      Handled template entry) : ∃ entry error, IsFirstUnhandled template entry ∧
        RefusedWith template entry error ∧ translate freshId true template = .error error := by
    obtain ⟨entry, before, after, split, handled, itself⟩ := exists_isFirstUnhandled unhandled
    obtain ⟨error, refusal, said⟩ := workOf_of_unhandled itself handled after
    refine ⟨entry, error, ⟨before, after, split, handled, itself⟩, refusal, ?_⟩
    rw [translate, split, said]
    rfl
  refine ⟨same, refused, fun service accepted => ?_⟩
  by_cases handled : ∀ entry ∈ Entity.ofTopology template.topology, Handled template entry
  · rw [← same handled, accepted]
  · obtain ⟨_, error, -, -, failed⟩ := refused handled
    cases accepted.symm.trans failed

end NfvCatalog.Translation
