import Mathlib.Data.List.Destutter
import NfvCatalog.Proofs.Translation.Emitted

/-! # Files that are listed

A service lists the files of machines, then the logos of functions, then the scripts of primitives.
A file that repeats the one before it is left out. So a file is listed once exactly if all of its
mentions stand together.
-/

namespace NfvCatalog.Translation

open Tosca

/-! ## Repeats -/

section Repeats

variable {α : Type} {same : α → α → Bool} {items : List α}

/-- Items that are the same stand together: all between two of them are the same as these. -/
def Grouped (same : α → α → Bool) (items : List α) : Prop :=
  ∀ first middle last, [first, middle, last].Sublist items → same first last → same first middle

theorem grouped_cons {item : α} :
    Grouped same (item :: items) ↔ Grouped same items ∧
      ∀ middle last, [middle, last].Sublist items → same item last → same item middle := by
  constructor
  · intro grouped
    exact ⟨fun first middle last within => grouped first middle last (within.cons item),
      fun middle last within => grouped item middle last (within.cons_cons item)⟩
  · rintro ⟨grouped, together⟩ first middle last within
    cases within with
    | cons _ within => exact grouped first middle last within
    | cons_cons _ within => exact together middle last within

/-- Items without repeats are those that differ from the item before them. -/
theorem dropRepeats_eq_destutter (same : α → α → Bool) (items : List α) :
    dropRepeats same items = items.destutter fun item next => ¬ same item next := by
  fun_induction dropRepeats same items with
  | case1 => rfl
  | case2 item => rfl
  | case3 item next others repeats ih =>
    rw [ih, List.destutter_cons_cons, if_neg (by simpa using repeats), List.destutter_cons']
  | case4 item next others differs ih =>
    rw [ih, List.destutter_cons_cons, if_pos (by simpa using differs), List.destutter_cons']

/-- An item that differs from the one after it stands alone. -/
private theorem grouped_cons_of_differs {item next : α} (differs : ¬ same item next) :
    Grouped same (item :: next :: items) ↔
      (∀ other ∈ next :: items, ¬ same item other) ∧ Grouped same (next :: items) := by
  rw [grouped_cons, and_comm]
  refine and_congr_left fun _ => ⟨fun together other member asItem => ?_,
    fun none_same middle last within asItem => ?_⟩
  · rcases List.mem_cons.mp member with rfl | member
    · exact differs asItem
    · exact differs (together next other
        ((List.singleton_sublist.mpr member).cons_cons next) asItem)
  · exact absurd asItem (none_same last (within.subset (by simp)))

variable (alike : Equivalence fun item other => same item other = true)
include alike

/-- An item is left out only if another that is the same is kept. -/
theorem exists_mem_dropRepeats {item : α} (member : item ∈ items) :
    ∃ kept ∈ dropRepeats same items, same item kept := by
  fun_induction dropRepeats same items generalizing item with
  | case1 => cases member
  | case2 only => exact ⟨item, member, alike.refl item⟩
  | case3 first next others repeats ih =>
    rcases List.mem_cons.mp member with rfl | member
    · exact ih (List.mem_cons_self ..)
    · rcases List.mem_cons.mp member with rfl | member
      · obtain ⟨kept, inKept, asFirst⟩ := ih (List.mem_cons_self ..)
        exact ⟨kept, inKept, alike.trans (alike.symm repeats) asFirst⟩
      · exact ih (List.mem_cons_of_mem _ member)
  | case4 first next others differs ih =>
    rcases List.mem_cons.mp member with rfl | member
    · exact ⟨item, List.mem_cons_self .., alike.refl item⟩
    · obtain ⟨kept, inKept, asItem⟩ := ih member
      exact ⟨kept, List.mem_cons_of_mem _ inKept, asItem⟩

/-- An item that repeats the one before it changes nothing about what stands together. -/
private theorem grouped_cons_of_repeats {item next : α} (repeats : same item next) :
    Grouped same (item :: next :: items) ↔ Grouped same (item :: items) := by
  constructor
  · intro grouped first middle last within
    exact grouped first middle last
      (within.trans ((List.sublist_cons_self next items).cons_cons item))
  · intro grouped
    obtain ⟨others, together⟩ := grouped_cons.mp grouped
    refine grouped_cons.mpr ⟨grouped_cons.mpr ⟨others, fun middle last within asNext => ?_⟩,
      fun middle last within asItem => ?_⟩
    · have asItem := together middle last within (alike.trans repeats asNext)
      exact alike.trans (alike.symm repeats) asItem
    · cases within with
      | cons _ within => exact together middle last within asItem
      | cons_cons => exact repeats

/-- Without repeats no two items are the same, exactly if those that are the same stood together. -/
theorem pairwise_dropRepeats_iff :
    (dropRepeats same items).Pairwise (fun item other => ¬ same item other) ↔
      Grouped same items := by
  fun_induction dropRepeats same items with
  | case1 => exact iff_of_true .nil fun _ _ _ within => by cases within
  | case2 only =>
    refine iff_of_true (List.pairwise_singleton ..) fun _ _ _ within => ?_
    exact absurd within.length_le (by simp)
  | case3 first next others repeats ih => rw [ih, grouped_cons_of_repeats alike repeats]
  | case4 first next others differs ih =>
    rw [List.pairwise_cons, ih, grouped_cons_of_differs differs]
    refine and_congr_left fun _ => ⟨fun apart other member asFirst => ?_,
      fun apart kept member => apart kept ?_⟩
    · obtain ⟨kept, inKept, asOther⟩ := exists_mem_dropRepeats alike member
      exact apart kept inKept (alike.trans asFirst asOther)
    · rw [dropRepeats_eq_destutter] at member
      exact (List.destutter_sublist _ _).subset member

end Repeats

/-! ## Listed files -/

theorem Artifact.same_iff {left right : Artifact} :
    left.same right ↔ left.kind = right.kind ∧ left.owner = right.owner ∧
      Path.components left.source = Path.components right.source := by
  simp [Artifact.same, and_assoc]

theorem Artifact.same_equivalence :
    Equivalence fun left right : Artifact => left.same right = true where
  refl _ := same_iff.mpr ⟨rfl, rfl, rfl⟩
  symm as := by
    obtain ⟨kind, owner, path⟩ := same_iff.mp as
    exact same_iff.mpr ⟨kind.symm, owner.symm, path.symm⟩
  trans as also := by
    obtain ⟨kind, owner, path⟩ := same_iff.mp as
    obtain ⟨kind', owner', path'⟩ := same_iff.mp also
    exact same_iff.mpr ⟨kind.trans kind', owner.trans owner', path.trans path'⟩

/-- The files of a machine that belongs to a descriptor. -/
def ownedFiles (vnfd : Option String) (files : List (ArtifactKind × String)) : List Artifact :=
  match vnfd with
  | none => []
  | some id => files.map fun file => { kind := file.1, source := file.2, owner := .vnfd id }

/-- The files of machines, in document order. They belong to the descriptor of the constituent whose
VNF node names the machine. -/
def filesOfMachines (template : Template) (members : List ConstituentVnfd) : List Artifact :=
  (nodesOf template .vdu).flatMap fun entry =>
    ownedFiles ((ownerAmong (nodesOf template .vnf) entry.1).bind fun place =>
      (members[place]?).map (·.vnfd)) (artifactFiles entry.2)

/-- The logos of VNF nodes, in document order. -/
def logosOfFunctions (template : Template) (members : List ConstituentVnfd) : List Artifact :=
  ((nodesOf template .vnf).zip members).filterMap fun pair =>
    (pair.1.2.properties.text? "logo").map fun logo =>
      { kind := .icon, source := logo, owner := .vnfd pair.2.vnfd }

/-- The scripts of primitives. -/
def scriptsOfPrimitives (primitives : List ConfigPrimitive) : List Artifact :=
  primitives.filterMap fun primitive =>
    primitive.script.map fun script =>
      { kind := .script, source := Path.join "scripts" script, owner := .nsd }

/-- All files that a template mentions for its service, as often as it mentions them. -/
def mentionedFiles (template : Template) (nsd : Nsd) : List Artifact :=
  filesOfMachines template nsd.constituents ++ logosOfFunctions template nsd.constituents ++
    scriptsOfPrimitives nsd.primitives

section Drafted

variable {template : Template} {d : Drafts} {service : Service} {indices : List UInt32}
  (drafted : DraftedFrom template d) (assembled : Assembled d service indices)
include drafted assembled

private theorem flatMap_machines :
    (d.machines.flatMap fun machine =>
      match machine.owner.bind fun place =>
        (d.functions[place]?).map fun f => ArtifactOwner.vnfd f.vnfd.id with
      | none => []
      | some owner => machine.files.map fun (kind, source) =>
          ({ kind := kind, source := source, owner := owner } : Artifact)) =
      filesOfMachines template service.nsd.constituents := by
  have vnfds (place : Nat) : (service.nsd.constituents[place]?).map (·.vnfd) =
      (d.functions[place]?).map (·.vnfd.id) := by
    rw [← List.getElem?_map, ← List.getElem?_map,
      (constituentsOf_of_assembled drafted assembled).vnfds]
  have each : (nodesOf template .vdu).map (fun entry =>
        ownedFiles ((ownerAmong (nodesOf template .vnf) entry.1).bind fun place =>
          (service.nsd.constituents[place]?).map (·.vnfd)) (artifactFiles entry.2)) =
      d.machines.map fun m =>
        ownedFiles ((ownerAmong (nodesOf template .vnf) m.node).bind fun place =>
          (d.functions[place]?).map (·.vnfd.id)) m.files :=
    map_eq_map_of_forall₂ drafted.machines fun entry m isM => by
      simp only [isM.named, isM.files, vnfds]
  rw [filesOfMachines, List.flatMap_def (l := nodesOf template .vdu), each, ← List.flatMap_def]
  refine List.flatMap_congr fun m member => ?_
  rw [drafted.owners m member]
  cases ownerAmong (nodesOf template .vnf) m.node with
  | none => rfl
  | some place =>
    rw [Option.bind_some, Option.bind_some]
    cases d.functions[place]? <;> rfl

private theorem filterMap_functions :
    (d.functions.filterMap fun f => f.logo.map fun logo =>
      ({ kind := .icon, source := logo, owner := .vnfd f.vnfd.id } : Artifact)) =
      logosOfFunctions template service.nsd.constituents := by
  have logos : d.functions.map (·.logo) =
      (nodesOf template .vnf).map fun entry => entry.2.properties.text? "logo" := by
    refine (map_eq_map_of_forall₂ drafted.each_function fun entry f isF => ?_).symm
    obtain ⟨plain, points, isPlain, rfl⟩ := isF
    rw [logo_withPoints, isPlain.logo]
  have vnfds := (constituentsOf_of_assembled drafted assembled).vnfds
  have pairs : d.functions.map (fun f => (f.logo, f.vnfd.id)) =
      ((nodesOf template .vnf).zip service.nsd.constituents).map fun pair =>
        (pair.1.2.properties.text? "logo", pair.2.vnfd) := by
    have zipped := congrArg₂ List.zip logos vnfds.symm
    rwa [List.zip_map', List.zip_map] at zipped
  have made := congrArg (List.filterMap fun pair : Option String × String => pair.1.map fun logo =>
    ({ kind := .icon, source := logo, owner := .vnfd pair.2 } : Artifact)) pairs
  rwa [List.filterMap_map, List.filterMap_map] at made

/-- The files of a service are those that the template mentions, without repeats. -/
theorem artifacts_eq :
    service.artifacts = dropRepeats Artifact.same (mentionedFiles template service.nsd) := by
  rw [assembled.artifacts, mentionedFiles, ← flatMap_machines drafted assembled,
    ← filterMap_functions drafted assembled]
  rfl

end Drafted

private theorem owner_of_mem_ownedFiles {vnfd : Option String} {files : List (ArtifactKind × String)}
    {file : Artifact} (member : file ∈ ownedFiles vnfd files) :
    ∃ id, vnfd = some id ∧ file.owner = .vnfd id := by
  cases vnfd with
  | none => cases member
  | some id =>
    obtain ⟨_, -, rfl⟩ := List.mem_map.mp member
    exact ⟨id, rfl, rfl⟩

/-- A mentioned file belongs to the service or to the descriptor of a constituent. -/
theorem owner_of_mem_mentionedFiles {template : Template} {nsd : Nsd} {file : Artifact}
    (mentioned : file ∈ mentionedFiles template nsd) :
    file.owner = .nsd ∨ ∃ member ∈ nsd.constituents, file.owner = .vnfd member.vnfd := by
  rcases List.mem_append.mp mentioned with inOthers | isScript
  · rcases List.mem_append.mp inOthers with ofMachine | isLogo
    · obtain ⟨entry, -, inFiles⟩ := List.mem_flatMap.mp ofMachine
      obtain ⟨vnfd, named, owner⟩ := owner_of_mem_ownedFiles inFiles
      obtain ⟨place, -, there⟩ := Option.bind_eq_some_iff.mp named
      obtain ⟨member, seated, rfl⟩ := Option.map_eq_some_iff.mp there
      exact .inr ⟨member, List.mem_of_getElem? seated, owner⟩
    · obtain ⟨⟨entry, member⟩, paired, isLogo⟩ := List.mem_filterMap.mp isLogo
      obtain ⟨logo, -, rfl⟩ := Option.map_eq_some_iff.mp isLogo
      exact .inr ⟨member, (List.of_mem_zip paired).2, rfl⟩
  · obtain ⟨primitive, -, isScript⟩ := List.mem_filterMap.mp isScript
    obtain ⟨script, -, rfl⟩ := Option.map_eq_some_iff.mp isScript
    exact .inl rfl

/-- Files are listed as they are mentioned, but for those that repeat the one before them. -/
structure ListedFrom (mentioned listed : List Artifact) : Prop where
  sublist : listed.Sublist mentioned
  kept : ∀ file ∈ mentioned, ∃ other ∈ listed, file.same other
  neighbours : listed.IsChain fun file next => ¬ file.same next
  once : listed.Pairwise (fun file other => ¬ file.same other) ↔ Grouped Artifact.same mentioned

theorem listedFrom_dropRepeats (mentioned : List Artifact) :
    ListedFrom mentioned (dropRepeats Artifact.same mentioned) where
  sublist := by
    rw [dropRepeats_eq_destutter]
    exact List.destutter_sublist _ mentioned
  kept _ member := exists_mem_dropRepeats Artifact.same_equivalence member
  neighbours := by
    rw [dropRepeats_eq_destutter]
    exact List.isChain_destutter _ mentioned
  once := pairwise_dropRepeats_iff Artifact.same_equivalence

/-- An accepted template's service lists every file that the template mentions, and each only once
exactly if its mentions stand together. Every file belongs to the service or to a descriptor that is
emitted with it. -/
theorem translate_lists_files {freshId : Nat → String} {strict : Bool} {template : Template}
    {service : Service} (accepted : translate freshId strict template = .ok service) :
    ListedFrom (mentionedFiles template service.nsd) service.artifacts ∧
      ∀ artifact ∈ service.artifacts, artifact.owner = .nsd ∨
        ∃ vnfd ∈ service.vnfds, artifact.owner = .vnfd vnfd.id := by
  obtain ⟨d, indices, -, drafted, assembled, -⟩ := exists_drafts accepted
  have listed : ListedFrom (mentionedFiles template service.nsd) service.artifacts := by
    rw [artifacts_eq drafted assembled]
    exact listedFrom_dropRepeats _
  refine ⟨listed, fun artifact member => ?_⟩
  rcases owner_of_mem_mentionedFiles (listed.sublist.subset member) with isService | isFunction
  · exact .inl isService
  · obtain ⟨constituent, inService, owner⟩ := isFunction
    have supplied := assembled.refersWithin.supplied constituent inService
    obtain ⟨vnfd, inVnfds, same⟩ := List.find?_isSome.mp supplied
    exact .inr ⟨vnfd, List.mem_reverse.mp inVnfds, by rw [owner, of_decide_eq_true same]⟩

/-! ## A service of one function with two machines -/

/-- A function of two machines that are started from the same files. -/
def routerTemplate : Template :=
  let machine (id : String) : NodeTemplate :=
    { textNode "tosca.nodes.nfv.VDU" [("id", id)] [] with
      artifacts := .ofList [
        ("image", .path "images/vm.qcow2"), ("cloud_init", .path "cloud_init/vm.cfg")] }
  { version := profileVersion
    metadata := [(.string "ID", .string "router_nsd")]
    topology :=
      { nodes := .ofList [
          ("router", textNode "tosca.nodes.nfv.VNF" [("id", "router_vnfd")]
            [("vdus", "left"), ("vdus", "right")]),
          ("left", machine "left"), ("right", machine "right")] } }

/-- What the nodes of the template are drafted as. -/
def routerDrafts : Drafts :=
  let machine (id : String) : Vdu :=
    { id := id, name := id, image := some "vm.qcow2", cloudInit := some "vm.cfg" }
  let files := [(ArtifactKind.image, "images/vm.qcow2"), (.cloudInit, "cloud_init/vm.cfg")]
  { machines := [
      { node := "left", vdu := machine "left", files := files, owner := some 0 },
      { node := "right", vdu := machine "right", files := files, owner := some 0 }]
    functions := [
      { node := "router"
        vnfd := {
          id := "router_vnfd", name := "router", vdus := [machine "left", machine "right"] } }] }

/-- Both machines have their files listed, as the start-up data of one stands between the images. -/
theorem routerTemplate_lists_files :
    ∃ service, translate (fun _ => "") true routerTemplate = .ok service ∧
      service.artifacts.map (·.kind) = [.image, .cloudInit, .image, .cloudInit] ∧
      ¬ Grouped Artifact.same (mentionedFiles routerTemplate service.nsd) := by
  obtain ⟨service, accepted, parts⟩ := @exists_translated (fun _ => "") true routerTemplate
    routerDrafts [1] (by decide +kernel) rfl (by decide) rfl
  have primitives : service.nsd.primitives = [] := parts.primitives.trans List.mergeSort_nil
  have files : service.artifacts = artifactsOf routerDrafts [] := primitives ▸ parts.artifacts
  rw [artifactsOf, dropRepeats_eq_destutter] at files
  obtain ⟨listed, -⟩ := translate_lists_files accepted
  refine ⟨service, accepted, ?_, fun grouped => ?_⟩
  · rw [files]
    decide
  · have once := listed.once.mpr grouped
    rw [files] at once
    revert once
    decide

end NfvCatalog.Translation
