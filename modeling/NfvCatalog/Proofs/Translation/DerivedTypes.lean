import NfvCatalog.Proofs.Translation.Closure
import NfvCatalog.Proofs.Translation.Surroundings
import NfvCatalog.Tosca.Template

/-! # Derived types

An entity of a derived type is translated like one of the first owned type on the chain. The one
exception is a link whose properties name no type: the type of the link is told by the last letters
of the node's own type, which a derived type need not share with its ancestor.
-/

/-! ## Chains inside chains

Every type of a chain starts a chain of its own: what is found beyond a type on the way from another
is found from the type itself, where fewer types have been seen and more steps are left.
-/

namespace NfvCatalog.Tosca

variable {types : OrderedMap TypeDefinition}

/-- More steps and fewer types seen find the same ancestors. -/
theorem ancestors?_mono {steps steps' : Nat} {seen seen' chain : List String} {current : String}
    (more : steps ≤ steps') (fewer : ∀ name ∈ seen', name ∈ seen)
    (found : ancestors? types steps seen current = some chain) :
    ancestors? types steps' seen' current = some chain := by
  induction steps generalizing steps' seen seen' current chain with
  | zero => cases found
  | succ steps ih =>
    obtain ⟨left, rfl⟩ : ∃ left, steps' = left + 1 := ⟨steps' - 1, by omega⟩
    simp only [ancestors?] at found ⊢
    cases next : parentType? types current with
    | none => simpa [next] using found
    | some parent =>
      simp only [next] at found ⊢
      by_cases known : parent ∈ seen
      · simp [known] at found
      · have unknown : parent ∉ seen' := fun member => known (fewer parent member)
        rw [if_neg known] at found
        rw [if_neg unknown]
        obtain ⟨rest, foundRest, rfl⟩ := Option.map_eq_some_iff.mp found
        have kept : ∀ name ∈ parent :: seen', name ∈ parent :: seen := fun name member =>
          (List.mem_cons.mp member).elim (fun same => same ▸ List.mem_cons_self ..)
            fun member => List.mem_cons_of_mem _ (fewer name member)
        rw [ih (by omega) kept foundRest, Option.map_some]

/-- Whatever type is found has ancestors that are found from it on, having seen the type itself. -/
private theorem exists_ancestors?_of_mem {steps : Nat} {seen chain : List String}
    {current type : String} (found : ancestors? types steps seen current = some chain)
    (member : type ∈ chain) :
    ∃ left seen' rest, left ≤ steps ∧ type ∈ seen' ∧
      ancestors? types left seen' type = some rest := by
  induction steps generalizing seen current chain with
  | zero => cases found
  | succ steps ih =>
    simp only [ancestors?] at found
    cases next : parentType? types current with
    | none =>
      obtain rfl : [] = chain := by simpa [next] using found
      cases member
    | some parent =>
      simp only [next] at found
      by_cases known : parent ∈ seen
      · simp [known] at found
      · rw [if_neg known] at found
        obtain ⟨rest, foundRest, rfl⟩ := Option.map_eq_some_iff.mp found
        rcases List.mem_cons.mp member with rfl | member
        · exact ⟨steps, _, rest, Nat.le_succ steps, List.mem_cons_self .., foundRest⟩
        · obtain ⟨left, seen', others, fewer, inSeen, foundOthers⟩ := ih foundRest member
          exact ⟨left, seen', others, Nat.le_succ_of_le fewer, inSeen, foundOthers⟩

/-- Every type of a chain starts a chain. -/
theorem typeChain_of_mem {name type : String} {chain : List String}
    (found : typeChain types name = .ok chain) (member : type ∈ chain) :
    ∃ rest, typeChain types type = .ok (type :: rest) := by
  rw [typeChain] at found
  cases above : ancestors? types (types.size + 1) [name] name with
  | none => simp [above] at found
  | some ancestors =>
    obtain rfl : name :: ancestors = chain := by simpa [above] using found
    obtain ⟨left, seen', rest, fewer, inSeen, foundRest⟩ : ∃ left seen' rest,
        left ≤ types.size + 1 ∧ type ∈ seen' ∧
          ancestors? types left seen' type = some rest := by
      rcases List.mem_cons.mp member with rfl | member
      · exact ⟨_, _, ancestors, Nat.le_refl _, List.mem_cons_self .., above⟩
      · exact exists_ancestors?_of_mem above member
    have own : ancestors? types (types.size + 1) [type] type = some rest :=
      ancestors?_mono fewer (by simpa using inSeen) foundRest
    exact ⟨rest, by rw [typeChain, own]⟩

end NfvCatalog.Tosca

/-! ## Translation -/

namespace NfvCatalog.Translation

open Tosca

/-! ### Entities of other types -/

/-- An entity with another type. -/
def Entity.withType (type : String) : Entity → Entity
  | .node it => .node { it with nodeType := type }
  | .group it => .group { it with groupType := type }
  | .policy it => .policy { it with policyType := type }

@[simp] theorem Entity.table_withType (type : String) (entity : Entity) :
    (entity.withType type).table = entity.table := by
  cases entity <;> rfl

@[simp] theorem Entity.typeName_withType (type : String) (entity : Entity) :
    (entity.withType type).typeName = type := by
  cases entity <;> rfl

/-- Where an entity stands in a topology. -/
inductive EntityPlace where
  | node (name : String)
  | group (name : String)
  | policy (entry : Nat) (name : String)
deriving DecidableEq, Repr

/-- The entity at a place. -/
def EntityPlace.entity? (topology : Topology) : EntityPlace → Option Entity
  | .node name => (topology.nodes.get? name).map .node
  | .group name => (topology.groups.get? name).map .group
  | .policy entry name => ((topology.policies[entry]?).bind (·.get? name)).map .policy

/-- A template in which the entity at a place has another type. -/
def EntityPlace.retyped (template : Template) (type : String) : EntityPlace → Template
  | .node name =>
    { template with topology.nodes := template.topology.nodes.modify name fun node =>
        { node with nodeType := type } }
  | .group name =>
    { template with topology.groups := template.topology.groups.modify name fun group =>
        { group with groupType := type } }
  | .policy entry name =>
    { template with topology.policies := template.topology.policies.modify entry fun policies =>
        policies.modify name fun policy => { policy with policyType := type } }

/-- The default for the type of a link is another under a node type than under the node's own. -/
def Entity.DefaultsDiffer (entity : Entity) (type : String) : Prop :=
  ∃ node, entity = .node node ∧ Resource.ofType? .node type = some .virtualLink ∧
    (node.properties.text? "type").or (node.properties.text? "vld_type") = none ∧
      defaultLinkType type ≠ defaultLinkType node.nodeType

/-- A node stands at a place of nodes. -/
private theorem node_of_entity? {topology : Topology} {place : EntityPlace} {node : NodeTemplate}
    (there : place.entity? topology = some (.node node)) :
    ∃ name, place = .node name ∧ topology.nodes.get? name = some node := by
  cases place with
  | node name =>
    obtain ⟨_, found, same⟩ := Option.map_eq_some_iff.mp there
    cases same
    exact ⟨name, rfl, found⟩
  | group name | policy entry name =>
    obtain ⟨_, -, same⟩ := Option.map_eq_some_iff.mp there
    cases same

/-! ### Work that is done alike -/

/-- Items that do the same in all surroundings. -/
structure WorkItem.Like (item item' : WorkItem) : Prop where
  name : item'.name = item.name
  table : item'.entity.table = item.entity.table
  resource : item'.resource = item.resource
  run : ∀ s d, item'.run s d = item.run s d

/-- Entries of topologies that are the same, or belong to a resource and do the same. -/
inductive EntryLike (template : Template) : String × Entity → String × Entity → Prop
  | same (entry : String × Entity) : EntryLike template entry entry
  | resolved {name : String} {entity entity' : Entity} {resource : Resource}
    (old : Resource.resolve template entity.table entity.typeName = .ok (some resource))
    (new : Resource.resolve template entity'.table entity'.typeName = .ok (some resource))
    (like : WorkItem.Like ⟨name, entity, resource⟩ ⟨name, entity', resource⟩) :
    EntryLike template (name, entity) (name, entity')

/-- Outcomes of finding work: the same error, or work that is done alike. -/
inductive WorkLike : Except TranslationError (List WorkItem) →
    Except TranslationError (List WorkItem) → Prop
  | error (error : TranslationError) : WorkLike (.error error) (.error error)
  | ok {work work' : List WorkItem} (like : List.Forall₂ WorkItem.Like work work') :
    WorkLike (.ok work) (.ok work')

/-- One more item that is done alike. -/
private theorem WorkLike.cons {item item' : WorkItem} {rest rest' : Except _ (List WorkItem)}
    (first : item.Like item') (others : WorkLike rest rest') :
    WorkLike (do return item :: (← rest)) (do return item' :: (← rest')) := by
  cases others with
  | error error => exact .error error
  | ok like => exact .ok (.cons first like)

theorem workOf_like {template template' : Template} {strict : Bool}
    {entries entries' : List (String × Entity)}
    (types : ∀ table name, Resource.resolve template' table name =
      Resource.resolve template table name)
    (like : List.Forall₂ (EntryLike template) entries entries') :
    WorkLike (workOf template strict entries) (workOf template' strict entries') := by
  induction like with
  | nil => exact .ok .nil
  | @cons entry entry' rest rest' first others ih =>
    cases first with
    | same =>
      simp only [workOf, types]
      rcases Resource.resolve template entry.2.table entry.2.typeName with error | _ | resource
      · exact .error _
      · cases strict
        · exact ih
        · exact .error _
      · exact .cons ⟨rfl, rfl, rfl, fun _ _ => rfl⟩ ih
    | resolved old new same =>
      simp only [workOf, types, old, new]
      exact .cons same ih

section Like

variable {work work' : List WorkItem} (like : List.Forall₂ WorkItem.Like work work')
include like

private theorem nodePhases_like : nodePhases work' = nodePhases work := by
  induction like with
  | nil => rfl
  | @cons item item' rest rest' first others ih =>
    obtain ⟨name, entity, resource⟩ := item
    obtain ⟨name', entity', resource'⟩ := item'
    obtain ⟨rfl, table, rfl, -⟩ := first
    rw [nodePhases, nodePhases] at ih ⊢
    rw [List.filterMap_cons, List.filterMap_cons, ih]
    cases entity <;> cases entity' <;> first | rfl | cases table

private theorem inPhases_like : List.Forall₂ WorkItem.Like (inPhases work) (inPhases work') := by
  rw [inPhases_eq, inPhases_eq]
  refine List.rel_flatMap (List.forall₂_same.mpr fun _ _ => rfl) ?_
  rintro rank _ rfl
  refine List.rel_filter (fun item item' same => ?_) like
  simp only [same.resource]

theorem runWork_like {s s' : Surroundings} (alike : s.Alike s') (d : Drafts) :
    runWork s' work' d = runWork s work d := by
  induction like generalizing d with
  | nil => rfl
  | cons first others ih => simp only [runWork, alike.run, first.run, ih]

end Like

/-! ### Retyped templates -/

section Retyped

variable (template : Template) (place : EntityPlace) (type : String)

/-- Types are declared as before. -/
private theorem resolve_retyped (table : TypeTable) (name : String) :
    Resource.resolve (place.retyped template type) table name =
      Resource.resolve template table name := by
  cases place <;> cases table <;> rfl

private theorem hasNode_retyped (node : String) :
    (place.retyped template type).topology.nodes.contains node =
      template.topology.nodes.contains node := by
  cases place with
  | node name => exact OrderedMap.contains_modify ..
  | group name => rfl
  | policy entry name => rfl

private theorem assemble_retyped (phases : List (String × Phase)) (freshId : Nat → String)
    (d : Drafts) :
    assemble ⟨place.retyped template type, phases, freshId⟩ d =
      assemble ⟨template, phases, freshId⟩ d := by
  cases place <;> rfl

variable {template place type} {entity : Entity}
  (there : place.entity? template.topology = some entity)
include there

/-- A retyped template has the same entries but for the one at the place. -/
private theorem ofTopology_retyped {same : String × Entity → String × Entity → Prop}
    (stay : ∀ entry, same entry entry)
    (changed : ∀ name, same (name, entity) (name, entity.withType type)) :
    List.Forall₂ same (Entity.ofTopology template.topology)
      (Entity.ofTopology (place.retyped template type).topology) := by
  have kept (entries : List (String × Entity)) : List.Forall₂ same entries entries :=
    List.forall₂_same.mpr fun entry _ => stay entry
  have mapped {α : Type} {entries entries' : List (String × α)} (wrap : α → Entity)
      (like : List.Forall₂ (fun entry entry' =>
        same (entry.1, wrap entry.2) (entry'.1, wrap entry'.2)) entries entries') :
      List.Forall₂ same (entries.map fun (name, it) => (name, wrap it))
        (entries'.map fun (name, it) => (name, wrap it)) := by
    rw [List.forall₂_map_left_iff, List.forall₂_map_right_iff]
    exact like
  cases place with
  | node name =>
    obtain ⟨node, found, rfl⟩ := Option.map_eq_some_iff.mp there
    refine List.rel_append (List.rel_append (mapped .node ?_) (kept _)) (kept _)
    exact OrderedMap.forall₂_modify found (fun _ => stay _) (changed name)
  | group name =>
    obtain ⟨group, found, rfl⟩ := Option.map_eq_some_iff.mp there
    refine List.rel_append (List.rel_append (kept _) (mapped .group ?_)) (kept _)
    exact OrderedMap.forall₂_modify found (fun _ => stay _) (changed name)
  | policy entry name =>
    obtain ⟨policy, found, rfl⟩ := Option.map_eq_some_iff.mp there
    obtain ⟨policies, listed, found⟩ := Option.bind_eq_some_iff.mp found
    refine List.rel_append (kept _) (mapped .policy ?_)
    refine List.rel_flatMap (forall₂_modify listed (fun _ => ?_)
      (OrderedMap.forall₂_modify found (fun _ => stay _) (changed name))) fun _ _ like => like
    exact List.forall₂_same.mpr fun _ _ => stay _

end Retyped

/-- An entity is translated like one of another type of its resource, unless the defaults for the
type of a link differ. -/
private theorem like_withType {entity : Entity} {name type : String} {resource : Resource}
    (owned : Resource.ofType? entity.table type = some resource)
    (agree : ¬ entity.DefaultsDiffer type) :
    WorkItem.Like ⟨name, entity, resource⟩ ⟨name, entity.withType type, resource⟩ := by
  refine ⟨rfl, by simp, rfl, fun s d => ?_⟩
  cases resource with
  | virtualLink =>
    cases entity with
    | node it =>
      have sameType : linkTypeOf { it with nodeType := type } = linkTypeOf it := by
        rw [linkTypeOf, linkTypeOf]
        cases written : (it.properties.text? "type").or (it.properties.text? "vld_type") with
        | some linkType => rfl
        | none => exact not_not.mp fun differ => agree ⟨it, rfl, owned, written, differ⟩
      rw [linkTypeOf, linkTypeOf] at sameType
      simp only [WorkItem.run, Entity.withType, Entity.asNode, ok_bind, addLink, sameType]
      rfl
    | group it | policy it => rfl
  | _ => cases entity <;> rfl

/-- An entity belongs to the resource of the first owned type on its chain, and so do the entities
of this type itself. -/
private theorem exists_resolve {template : Template} {table : TypeTable} {name type : String}
    {chain : List String} (acyclic : template.typeChain table name = .ok chain)
    (first : chain.find? (fun name => (Resource.ofType? table name).isSome) = some type) :
    ∃ resource, Resource.ofType? table type = some resource ∧
      Resource.resolve template table name = .ok (some resource) ∧
      Resource.resolve template table type = .ok (some resource) := by
  obtain ⟨owned, before, after, rfl, unowned⟩ := List.find?_eq_some_iff_append.mp first
  obtain ⟨resource, owns⟩ := Option.isSome_iff_exists.mp owned
  refine ⟨resource, owns, ?_, ?_⟩
  · have found : (before ++ type :: after).findSome? (Resource.ofType? table) = some resource :=
      List.findSome?_eq_some_iff.mpr ⟨before, type, after, rfl, owns, fun other member => by
        simpa using unowned other member⟩
    simp only [Resource.resolve, Registry.resolve, Resource.registry, acyclic, ok_bind, found]
    rfl
  · obtain ⟨rest, above⟩ := typeChain_of_mem acyclic (List.mem_append_cons_self)
    have above : template.typeChain table type = .ok (type :: rest) := above
    simp only [Resource.resolve, Registry.resolve, Resource.registry, above, ok_bind,
      List.findSome?_cons, owns]
    rfl

/-! ### The types of links -/

/-- The links of an accepted template have the types that their nodes give. -/
theorem map_linkType_of_translate {freshId : Nat → String} {strict : Bool} {template : Template}
    {service : Service} (accepted : translate freshId strict template = .ok service) :
    service.nsd.vlds.map (·.linkType) = (nodesOf template .virtualLink).map fun entry =>
      some (Text.asciiUpper (linkTypeOf entry.2)) := by
  obtain ⟨work, d, made, follows, -, ran⟩ := translate_ok accepted
  obtain ⟨indices, assembled⟩ := assemble_ok ran
  have drafted := follows.links
  rw [ofResource_inPhases rfl, ofResource_workOf made rfl, List.map_map] at drafted
  rw [assembled.vlds, List.map_map]
  exact drafted

/-- The default for a type is in capital letters. -/
private theorem asciiUpper_defaultLinkType (nodeType : String) :
    Text.asciiUpper (defaultLinkType nodeType) = defaultLinkType nodeType := by
  rw [defaultLinkType]
  split <;> decide

/-- Retyping a node within its resource changes the node in place. -/
private theorem nodesOf_retyped {template : Template} {name type : String} {node : NodeTemplate}
    {resource owner : Resource} (there : template.topology.nodes.get? name = some node)
    (old : Resource.resolve template .node node.nodeType = .ok (some owner))
    (new : Resource.resolve template .node type = .ok (some owner)) :
    nodesOf ((EntityPlace.node name).retyped template type) resource =
      (nodesOf template resource).map fun entry =>
        (entry.1, if entry.1 = name then { entry.2 with nodeType := type } else entry.2) := by
  have resolved := resolve_retyped template (.node name) type .node
  simp only [nodesOf, resolved]
  simp only [EntityPlace.retyped, OrderedMap.entries_modify, List.filter_map, Function.comp_def]
  refine congrArg _ (List.filter_congr fun entry member => ?_)
  by_cases here : entry.1 = name
  · obtain ⟨name, itsNode⟩ := entry
    obtain rfl : name = _ := here
    obtain rfl : itsNode = node :=
      Option.some.inj ((OrderedMap.get?_eq_some_of_mem _ member).symm.trans there)
    simp [old, new]
  · rw [if_neg here]

/-- A retyped link has another type if the defaults differ. -/
private theorem linkTypes_retyped {template : Template} {name type : String} {node : NodeTemplate}
    (there : template.topology.nodes.get? name = some node)
    (old : Resource.resolve template .node node.nodeType = .ok (some .virtualLink))
    (new : Resource.resolve template .node type = .ok (some .virtualLink))
    (written : (node.properties.text? "type").or (node.properties.text? "vld_type") = none)
    (differ : defaultLinkType type ≠ defaultLinkType node.nodeType) :
    ((nodesOf ((EntityPlace.node name).retyped template type) .virtualLink).map fun entry =>
      some (Text.asciiUpper (linkTypeOf entry.2))) ≠
      (nodesOf template .virtualLink).map fun entry =>
        some (Text.asciiUpper (linkTypeOf entry.2)) := by
  intro same
  rw [nodesOf_retyped there old new, List.map_map] at same
  have listed : (name, node) ∈ nodesOf template .virtualLink := by
    have inNodes : (name, node) ∈ template.topology.nodes.entries := by
      obtain ⟨entry, found, rfl⟩ := Option.map_eq_some_iff.mp there
      have named : entry.1 = name := by simpa using List.find?_some found
      exact named ▸ List.mem_of_find?_eq_some found
    exact List.mem_filter.mpr ⟨inNodes, by simp [old, Except.toOption]⟩
  have here := List.map_inj_left.mp same (name, node) listed
  simp only [Function.comp_apply, if_true, Option.some.injEq, linkTypeOf, written,
    Option.getD_none, asciiUpper_defaultLinkType] at here
  exact differ here

/-! ### Translation of derived types -/

/-- Let an entity of a template be given the first owned type on the chain of its own type. The
template is translated as before, unless the entity is a link node that names no type for its link
and the two node types stand for different defaults. In this case no accepted template is
translated as before. -/
theorem translate_retyped {template : Template} {place : EntityPlace} {entity : Entity}
    {type : String} {chain : List String} (there : place.entity? template.topology = some entity)
    (acyclic : template.typeChain entity.table entity.typeName = .ok chain)
    (first : chain.find? (fun name => (Resource.ofType? entity.table name).isSome) = some type)
    (freshId : Nat → String) (strict : Bool) :
    (¬ entity.DefaultsDiffer type →
      translate freshId strict (place.retyped template type) =
        translate freshId strict template) ∧
    ∀ service, translate freshId strict template = .ok service →
      (translate freshId strict (place.retyped template type) = .ok service ↔
        ¬ entity.DefaultsDiffer type) := by
  obtain ⟨resource, owned, old, new⟩ := exists_resolve acyclic first
  have kept (agree : ¬ entity.DefaultsDiffer type) :
      translate freshId strict (place.retyped template type) =
        translate freshId strict template := by
    have like := ofTopology_retyped there EntryLike.same fun _ =>
      .resolved old (by simpa using new) (like_withType owned agree)
    have found := @workOf_like _ _ strict _ _ (resolve_retyped template place type) like
    rw [translate, translate]
    revert found
    generalize workOf template strict (Entity.ofTopology template.topology) = outcome
    generalize workOf (place.retyped template type) strict _ = outcome'
    rintro (error | @⟨work, work', like⟩)
    · rfl
    · have alike : Surroundings.Alike ⟨template, nodePhases work, freshId⟩
          ⟨place.retyped template type, nodePhases work, freshId⟩ :=
        ⟨hasNode_retyped template place type, rfl, rfl⟩
      simp only [ok_bind, nodePhases_like like, runWork_like (inPhases_like like) alike,
        assemble_retyped]
  refine ⟨kept, fun service accepted => ⟨fun same differ => ?_, fun agree =>
    (kept agree).trans accepted⟩⟩
  obtain ⟨node, rfl, isLink, written, differ⟩ := differ
  obtain ⟨name, rfl, isNode⟩ := node_of_entity? there
  obtain rfl : resource = .virtualLink := Option.some.inj (owned.symm.trans isLink)
  have types := map_linkType_of_translate accepted
  rw [map_linkType_of_translate same] at types
  exact linkTypes_retyped isNode old new written differ types

/-- The declaration of a type that is derived from another. -/
def derivedFrom (parent : String) : TypeDefinition := { derivedFrom := some parent }

/-- A link of a derived type that names no type. -/
def derivedLink (name type : String) : NodeTemplate := textNode type [("id", name)] []

/-- A service of two links, whose types are derived from those of a line and of a network. -/
def derivedTemplate : Template :=
  { version := profileVersion
    metadata := [(.string "ID", .string "line_nsd"), (.string "name", .string "line")]
    nodeTypes := .ofList [
      ("vendor.nodes.Wire", derivedFrom "tosca.nodes.nfv.VL.ELine"),
      ("vendor.nodes.Segment", derivedFrom "vendor.nodes.Lan"),
      ("vendor.nodes.Lan", derivedFrom "tosca.nodes.nfv.VL.ELAN")]
    topology :=
      { nodes := .ofList [
          ("wire", derivedLink "wire" "vendor.nodes.Wire"),
          ("lan", derivedLink "lan" "vendor.nodes.Segment")] } }

/-- What the entities of the template are drafted as. -/
def derivedDrafts : Drafts :=
  { links := [
      { node := "wire", vld := { id := "wire", name := "wire", linkType := some "ELAN" } },
      { node := "lan", vld := { id := "lan", name := "lan", linkType := some "ELAN" } }] }

/-- The network may be given the type that its own is derived from. The line may not: it has become
a network, because its own type does not end like that of a line. -/
theorem derivedTemplate_retyped :
    ∃ service, translate (fun _ => "") true derivedTemplate = .ok service ∧
      service.nsd.vlds.map (·.linkType) = [some "ELAN", some "ELAN"] ∧
      translate (fun _ => "") true ((EntityPlace.node "lan").retyped derivedTemplate
        "tosca.nodes.nfv.VL.ELAN") = .ok service ∧
      translate (fun _ => "") true ((EntityPlace.node "wire").retyped derivedTemplate
        "tosca.nodes.nfv.VL.ELine") ≠ .ok service := by
  obtain ⟨service, accepted, parts⟩ := @exists_translated (fun _ => "") true derivedTemplate
    derivedDrafts [] (by decide +kernel) rfl (by decide) rfl
  have lan := (@translate_retyped derivedTemplate (.node "lan")
    (.node (derivedLink "lan" "vendor.nodes.Segment")) "tosca.nodes.nfv.VL.ELAN"
    ["vendor.nodes.Segment", "vendor.nodes.Lan", "tosca.nodes.nfv.VL.ELAN"]
    (by decide +kernel) (by decide +kernel) (by decide +kernel) (fun _ => "") true).1
  have wire := (@translate_retyped derivedTemplate (.node "wire")
    (.node (derivedLink "wire" "vendor.nodes.Wire")) "tosca.nodes.nfv.VL.ELine"
    ["vendor.nodes.Wire", "tosca.nodes.nfv.VL.ELine"]
    (by decide +kernel) (by decide +kernel) (by decide +kernel) (fun _ => "") true).2
  refine ⟨service, accepted, by rw [parts.vlds]; rfl, (lan ?_).trans accepted, fun same => ?_⟩
  · rintro ⟨node, isNode, -, -, differ⟩
    cases isNode
    exact differ (by decide)
  · exact (wire service accepted).mp same
      ⟨_, rfl, by decide +kernel, by decide +kernel, by decide +kernel⟩

end NfvCatalog.Translation
