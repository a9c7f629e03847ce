import NfvCatalog.Proofs.Translation.Blame
import NfvCatalog.Proofs.Translation.Indices
import NfvCatalog.Proofs.Translation.NamedNodes

/-! # Places that are stored

Drafts refer to functions and to paths by their places, and to connection points by their nodes.
Whatever has been translated, all that they refer to is there; only while a function claims machines
do these belong to a function that is still to come. So nothing is ever looked up in vain when the
drafts are assembled.
-/

namespace NfvCatalog.Translation

open Tosca

/-! ## Seated drafts -/

/-- Every place that drafts store is one of the list it is for, and every hop is a connection
point. -/
structure Drafts.Seated (d : Drafts) : Prop where
  owners : ∀ m ∈ d.machines, ∀ place ∈ m.owner, place < d.functions.length
  links : ∀ link ∈ d.links, ∀ point ∈ link.points, point.1 < d.functions.length
  points : ∀ point ∈ d.points, point.function < d.functions.length
  hops : ∀ path ∈ d.paths, ∀ hop ∈ path.hops, ∃ point ∈ d.points, point.node = hop
  paths : ∀ graph ∈ d.graphs, ∀ place ∈ graph.paths, place < d.paths.length
  scaling : ∀ scaling ∈ d.scaling, ∀ member ∈ scaling.members, member.1 < d.functions.length
  placements : ∀ placement ∈ d.placements, ∀ place ∈ placement.members, place < d.functions.length

theorem Drafts.isSome_point?_iff {d : Drafts} {node : String} :
    (d.point? node).isSome ↔ ∃ point ∈ d.points, point.node = node := by
  simp [Drafts.point?]

section Lookups

variable {s : Surroundings} {name : String} {d d' : Drafts}

private theorem lt_of_memberPlace {field target : String} {place : Nat}
    (found : memberPlace s name field target d = .ok place) : place < d.functions.length := by
  simp only [memberPlace, bind_eq_ok] at found
  obtain ⟨-, -, found⟩ := found
  split at found
  · next there =>
    obtain rfl := Except.ok.inj found
    exact (List.findIdx?_eq_some_iff_getElem.mp there).1
  · cases found

private theorem lt_of_targetPlaces {targets : List String} {places : List Nat}
    (found : targetPlaces s name d targets = .ok places) :
    ∀ place ∈ places, place < d.functions.length := by
  induction targets generalizing places with
  | nil =>
    obtain rfl := Except.ok.inj found
    simp
  | cons target rest ih =>
    simp only [targetPlaces, bind_eq_ok, pure_eq_ok] at found
    obtain ⟨place, first, others, found, rfl⟩ := found
    exact List.forall_mem_cons.mpr ⟨lt_of_memberPlace first, ih found⟩

private theorem lt_of_scaledMembers {entries : Value.Entries} {members : List (Nat × UInt32)}
    (found : scaledMembers s name d entries = .ok members) :
    ∀ member ∈ members, member.1 < d.functions.length := by
  induction entries generalizing members with
  | nil =>
    obtain rfl := Except.ok.inj found
    simp
  | cons entry rest ih =>
    simp only [scaledMembers, bind_eq_ok, pure_eq_ok] at found
    obtain ⟨count, -, place, first, others, found, rfl⟩ := found
    exact List.forall_mem_cons.mpr ⟨lt_of_memberPlace first, ih found⟩

private theorem lt_of_scalingMembers {policy : Policy} {members : List (Nat × UInt32)}
    (found : scalingMembers s name policy d = .ok members) :
    ∀ member ∈ members, member.1 < d.functions.length := by
  rw [scalingMembers] at found
  split at found
  · exact lt_of_scaledMembers found
  · obtain ⟨places, targets, rfl⟩ := map_eq_ok.mp found
    exact List.forall_mem_map.mpr (lt_of_targetPlaces targets)

private theorem lt_of_graphPaths {members : List String} {places : List Nat}
    (found : graphPaths s name d members = .ok places) :
    ∀ place ∈ places, place < d.paths.length := by
  induction members generalizing places with
  | nil =>
    obtain rfl := Except.ok.inj found
    simp
  | cons member rest ih =>
    rw [graphPaths] at found
    split at found
    · next place there =>
      simp only [bind_eq_ok, pure_eq_ok] at found
      obtain ⟨others, found, rfl⟩ := found
      exact List.forall_mem_cons.mpr
        ⟨(List.findIdx?_eq_some_iff_getElem.mp there).1, ih found⟩
    · split at found
      · exact ih found
      · cases found

end Lookups

namespace Drafts.Seated

variable {s : Surroundings} {name : String} {node : NodeTemplate} {d d' : Drafts}
  (seated : d.Seated)

theorem start : Seated { } := by
  constructor <;> simp

include seated

theorem link (added : addLink s name node d = .ok d') : d'.Seated := by
  obtain ⟨vld, drawn, -, rfl⟩ := addLink_ok added
  exact { seated with
    links := by simpa [or_imp, forall_and] using seated.links }

theorem machine (added : addMachine s name node d = .ok d') : d'.Seated := by
  obtain ⟨m, drawn, -, -, nobody, -, -, rfl⟩ := addMachine_ok added
  exact { seated with
    owners := by
      refine List.forall_mem_append.mpr ⟨seated.owners, List.forall_mem_singleton.mpr ?_⟩
      simp [nobody] }

theorem function (added : addFunction s name node d = .ok d') : d'.Seated := by
  obtain ⟨f, machines, drawn, owners, rfl⟩ := addFunction_keeps added
  have grown {place : Nat} (inside : place < d.functions.length) :
      place < (d.functions ++ [f]).length := by
    rw [List.length_append]
    exact Nat.lt_add_right _ inside
  exact { seated with
    owners := fun m member place owner => by
      rcases owners m member with own | ⟨old, inOld, same⟩
      · obtain rfl := Option.some.inj (own.symm.trans owner)
        simp
      · exact grown (seated.owners old inOld place (same.trans owner))
    links := fun link member point inLink => grown (seated.links link member point inLink)
    points := fun point member => grown (seated.points point member)
    scaling := fun scaling member one inGroup => grown (seated.scaling scaling member one inGroup)
    placements := fun placement member place inGroup =>
      grown (seated.placements placement member place inGroup) }

theorem point (added : addPoint s name node d = .ok d') : d'.Seated := by
  simp only [addPoint, bind_eq_ok] at added
  obtain ⟨machine, bound, added⟩ := added
  obtain ⟨-, member⟩ := boundMachine_ok bound
  cases owned : machine.owner with
  | none => simp [owned] at added
  | some owner =>
    simp only [owned, bind_eq_ok, pure_eq_ok] at added
    obtain ⟨_, joins, rfl⟩ := added
    obtain ⟨-, links, -, onLinks, rfl⟩ := joinLinks_keeps joins
    have inside := seated.owners machine member owner owned
    constructor <;> simp only [List.length_modify]
    · exact seated.owners
    · intro link member entry inLink
      rcases onLinks link member entry inLink with rfl | ⟨old, inLinks, inOld⟩
      · exact inside
      · exact seated.links old inLinks entry inOld
    · exact List.forall_mem_append.mpr ⟨seated.points, List.forall_mem_singleton.mpr inside⟩
    · intro path member hop inPath
      obtain ⟨point, drafted, named⟩ := seated.hops path member hop inPath
      exact ⟨point, List.mem_append_left _ drafted, named⟩
    · exact seated.paths
    · exact seated.scaling
    · exact seated.placements

theorem path (drafted : ∀ target, s.Knows target .connectionPoint →
      ∃ point ∈ d.points, point.node = target)
    (added : addPath s name node d = .ok d') : d'.Seated := by
  obtain ⟨path, drawn, -, hops, known, rfl⟩ := addPath_ok added
  exact { seated with
    hops := by
      refine List.forall_mem_append.mpr ⟨seated.hops, List.forall_mem_singleton.mpr ?_⟩
      exact fun hop inPath => drafted hop (known hop (hops ▸ inPath))
    paths := fun graph member place inGraph => by
      rw [List.length_append]
      exact Nat.lt_add_right _ (seated.paths graph member place inGraph) }

theorem graph {group : Group} (added : addGraph s name group d = .ok d') : d'.Seated := by
  obtain ⟨graph, drawn, found, rfl⟩ := addGraph_ok added
  have inside := lt_of_graphPaths found
  exact { seated with
    paths := List.forall_mem_append.mpr
      ⟨seated.paths, List.forall_mem_singleton.mpr inside⟩ }

theorem scale {policy : Policy} (added : addScaling s name policy d = .ok d') : d'.Seated := by
  obtain ⟨scaling, found, rfl⟩ := addScaling_ok added
  have inside := lt_of_scalingMembers found
  exact { seated with
    scaling := List.forall_mem_append.mpr
      ⟨seated.scaling, List.forall_mem_singleton.mpr inside⟩ }

theorem place {policy : Policy} (added : addPlacement s name policy d = .ok d') : d'.Seated := by
  obtain ⟨placement, found, rfl⟩ := addPlacement_ok added
  have inside := lt_of_targetPlaces found
  exact { seated with
    placements := List.forall_mem_append.mpr
      ⟨seated.placements, List.forall_mem_singleton.mpr inside⟩ }

/-- An item leaves drafts seated, if a path finds the connection points that are known. -/
theorem step {item : WorkItem}
    (drafted : item.resource = .forwardingPath → ∀ target, s.Knows target .connectionPoint →
      ∃ point ∈ d.points, point.node = target)
    (ran : item.run s d = .ok d') : d'.Seated := by
  obtain ⟨name, entity, resource⟩ := item
  cases resource <;> simp only [WorkItem.run, bind_eq_ok] at ran <;> obtain ⟨it, -, added⟩ := ran
  case virtualLink => exact seated.link added
  case vdu => exact seated.machine added
  case vnf => exact seated.function added
  case connectionPoint => exact seated.point added
  case forwardingPath => exact seated.path (drafted rfl) added
  case forwardingGraph => exact seated.graph added
  case scalingGroup => exact seated.scale added
  case placement => exact seated.place added
  case initialConfig =>
    obtain ⟨primitive, rfl⟩ := addPrimitive_ok added
    exact { seated with }

end Drafts.Seated

/-! ## Runs -/

section Runs

variable {d : Drafts}

/-- Seated drafts with a connection point for every node of one that is done. -/
structure Drafts.SeatedAfter (done : List WorkItem) (d : Drafts) : Prop extends d.Seated where
  drafted : ∀ item ∈ done, item.resource = .connectionPoint →
    ∃ point ∈ d.points, point.node = item.name

theorem seatedAfter_of_runWork {template : Template} {freshId : Nat → String}
    {work done rest : List WorkItem} (split : inPhases work = done ++ rest)
    (ran : runWork ⟨template, nodePhases work, freshId⟩ done { } = .ok d) :
    d.SeatedAfter done := by
  refine runWork_steps (fun done d => d.SeatedAfter done) ⟨.start, by simp⟩
    (fun before item others d after now seated ran => ?_) ran
  have points : after.points.map (·.node) = _ := (WorkItem.nodes_of_run ran).1
  refine ⟨seated.step (fun isPath target known => ?_) ran, fun other isDone isPoint => ?_⟩
  · -- A connection point that is known is done, because paths come later.
    have here : inPhases work = before ++ item :: (others ++ rest) := by simp [split, now]
    obtain ⟨other, isDone, rfl, phase⟩ := mem_done_of_knows here known (by rw [isPath]; decide)
    refine seated.drafted other isDone ?_
    cases own : other.resource <;> simp_all [Resource.phase]
  · rw [← List.mem_map, points, List.mem_append]
    rcases List.mem_append.mp isDone with isDone | isItem
    · exact .inl (List.mem_map.mpr (seated.drafted other isDone isPoint))
    · obtain rfl := List.mem_singleton.mp isItem
      exact .inr (by simp [isPoint])

end Runs

/-! ## Claims -/

/-- However many machines the next function has claimed, they belong to functions that are there, or
to the one to come. -/
def Drafts.ClaimsSeated (s : Surroundings) (d : Drafts) : Prop :=
  ∀ (name : String) (properties : Value.Entries) (targets : List String)
      (claimed claimed' : Claimed) (d' : Drafts),
    claimMachines s name d.functions.length targets claimed (d.idOf s properties).2 =
      .ok (claimed', d') →
    d'.functions = d.functions ∧ ∀ m ∈ d'.machines, ∀ place ∈ m.owner,
      place = d.functions.length ∨ place < d'.functions.length

theorem Drafts.Seated.claims {d : Drafts} (seated : d.Seated) (s : Surroundings) :
    d.ClaimsSeated s := by
  intro name properties targets claimed claimed' d' ran
  obtain ⟨id, drawn, taken, -⟩ := idOf_eq s properties d
  rw [taken] at ran
  obtain ⟨-, machines, rfl, owners⟩ := claimMachines_keeps ran
  refine ⟨rfl, fun m member place owner => ?_⟩
  rcases owners m member with own | ⟨old, inOld, same⟩
  · exact .inl (Option.some.inj (owner.symm.trans own))
  · exact .inr (seated.owners old inOld place (same.trans owner))

/-! ## Assembling -/

section Assembling

variable {s : Surroundings} {d : Drafts}

private theorem exists_hopsOf (roster : Roster) (path : PathDraft) (order : Nat)
    {hops : List String} (there : ∀ hop ∈ hops, ∃ point ∈ d.points, point.node = hop) :
    ∃ made, hopsOf roster d path order hops = .ok made := by
  induction hops generalizing order with
  | nil => exact ⟨[], rfl⟩
  | cons hop rest ih =>
    obtain ⟨here, there⟩ := List.forall_mem_cons.mp there
    obtain ⟨point, found⟩ := Option.isSome_iff_exists.mp (Drafts.isSome_point?_iff.mpr here)
    obtain ⟨others, made⟩ := ih (order + 1) there
    rw [hopsOf, found]
    simp only [made, ok_bind]
    split
    · exact ⟨others, rfl⟩
    · exact ⟨_, rfl⟩

private theorem exists_pathsOf (seated : d.Seated) (roster : Roster) (places : List Nat) :
    ∃ made, pathsOf roster d places = .ok made := by
  induction places with
  | nil => exact ⟨[], rfl⟩
  | cons place rest ih =>
    obtain ⟨others, made⟩ := ih
    cases found : d.paths[place]? with
    | none => exact ⟨others, by rw [pathsOf, found]; exact made⟩
    | some path =>
      obtain ⟨hops, madeHops⟩ := exists_hopsOf roster path 1
        (seated.hops path (List.mem_of_getElem? found))
      exact ⟨_, by rw [pathsOf, found]; simp only [madeHops, made, ok_bind]; rfl⟩

/-- Every hop of every graph is found. -/
theorem Drafts.Seated.exists_graphsOf (seated : d.Seated) (roster : Roster)
    (graphs : List GraphDraft) : ∃ made, graphsOf roster d graphs = .ok made := by
  induction graphs with
  | nil => exact ⟨[], rfl⟩
  | cons graph rest ih =>
    obtain ⟨others, made⟩ := ih
    obtain ⟨paths, madePaths⟩ := exists_pathsOf seated roster graph.paths
    exact ⟨_, by rw [graphsOf]; simp only [madePaths, made, ok_bind]; rfl⟩

/-- Assembling fails only for a machine without an owner or for the indices. -/
theorem Drafts.Seated.assemble_error (seated : d.Seated) {error : TranslationError}
    (failed : assemble s d = .error error) :
    (∃ m ∈ d.machines, m.owner = none ∧ error = .orphanVdu m.node) ∨
      ∃ index, memberIndices d.functions = .error (.duplicateIndex index) ∧
        error = .duplicateIndex index := by
  rw [assemble] at failed
  split at failed
  · next orphan found =>
    refine .inl ⟨orphan, List.mem_of_find?_eq_some found, ?_, (Except.error.inj failed).symm⟩
    simpa using List.find?_some found
  · rcases bind_eq_error.mp failed with failed | ⟨indices, -, failed⟩
    · obtain ⟨index, repeated⟩ := memberIndices_error
        fun _ granted => by cases failed.symm.trans granted
      exact .inr ⟨index, repeated, Except.error.inj (failed.symm.trans repeated)⟩
    · obtain ⟨graphs, made⟩ := seated.exists_graphsOf (rosterOf indices d.functions) d.graphs
      simp only [made, ok_bind] at failed
      cases failed

end Assembling

/-! ## Whole translations -/

section Translations

variable {template : Template} {strict : Bool} {freshId : Nat → String}

private theorem workOf_error {entities : List (String × Entity)} {error : TranslationError}
    (failed : workOf template strict entities = .error error) (name : String) :
    error ≠ .entityMismatch name := by
  induction entities with
  | nil => cases failed
  | cons entry rest ih =>
    rw [workOf] at failed
    split at failed
    · obtain rfl := Except.error.inj failed
      intro mismatch
      cases mismatch
    · rcases bind_eq_error.mp failed with failed | ⟨_, -, failed⟩
      · exact ih failed
      · cases failed
    · split at failed
      · obtain rfl := Except.error.inj failed
        intro mismatch
        cases mismatch
      · exact ih failed

/-- When drafts are assembled, there is a member for every place of a function and a connection
point for every hop; so what fails is an orphan or the indices. -/
structure Drafts.Assembles (s : Surroundings) (d : Drafts) : Prop where
  members : ∀ indices, memberIndices d.functions = .ok indices →
    ∀ place < d.functions.length, ((rosterOf indices d.functions)[place]?).isSome
  graphs : ∀ roster, ∃ graphs, graphsOf roster d d.graphs = .ok graphs
  errors : ∀ error, assemble s d = .error error →
    (∃ m ∈ d.machines, m.owner = none ∧ error = .orphanVdu m.node) ∨
      ∃ index, memberIndices d.functions = .error (.duplicateIndex index) ∧
        error = .duplicateIndex index

theorem Drafts.Seated.assembles {d : Drafts} (seated : d.Seated) (s : Surroundings) :
    d.Assembles s where
  members indices granted place inside := by
    have count := (nodup_of_memberIndices granted).2
    have seats : (rosterOf indices d.functions).length = d.functions.length := by
      simp [rosterOf, count]
    rw [List.getElem?_eq_getElem (seats ▸ inside)]
    rfl
  graphs roster := seated.exists_graphsOf roster d.graphs
  errors _ failed := seated.assemble_error failed

/-- No translation hands an entity to the handler of another kind. After any part of the work all
that drafts refer to is there, also while machines are claimed and when the drafts are assembled. -/
theorem translate_looks_up (freshId : Nat → String) (strict : Bool) (template : Template) :
    (∀ name, translate freshId strict template ≠ .error (.entityMismatch name)) ∧
    ∀ work, workOf template strict (Entity.ofTopology template.topology) = .ok work →
      ∀ done rest d, inPhases work = done ++ rest →
        runWork ⟨template, nodePhases work, freshId⟩ done { } = .ok d →
          d.Seated ∧ d.ClaimsSeated ⟨template, nodePhases work, freshId⟩ ∧
            d.Assembles ⟨template, nodePhases work, freshId⟩ := by
  refine ⟨fun name failed => ?_, fun work made done rest d split ran => ?_⟩
  · rcases bind_eq_error.mp failed with failed | ⟨work, made, failed⟩
    · exact workOf_error failed name rfl
    · rcases bind_eq_error.mp failed with failed | ⟨d, ran, failed⟩
      · obtain ⟨done, item, rest, between, split, -, failed⟩ := runWork_eq_error.mp failed
        have inOrder : item ∈ inPhases work := by simp [split]
        have owned := table_of_workOf made item (List.mem_mergeSort.mp inOrder)
        exact WorkItem.failsFor_run owned _ failed
      · have seated := (seatedAfter_of_runWork (List.append_nil _).symm ran).toSeated
        rcases seated.assemble_error failed with ⟨_, -, -, same⟩ | ⟨_, -, same⟩ <;> cases same
  · have seated := (seatedAfter_of_runWork split ran).toSeated
    exact ⟨seated, seated.claims _, seated.assembles _⟩

end Translations

end NfvCatalog.Translation
