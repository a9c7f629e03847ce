import NfvCatalog.CommandLine.Commands
import NfvCatalog.Proofs.Cleanup.Executed

/-! # What the cleanup command deletes

The command opens an account only if it is told which names are meant. It then lists what its filter
selects, deletes that and nothing else, and nothing at all on a dry run. Its code tells whether the
account failed in any of this.
-/

namespace NfvCatalog

variable {σ : Type}

/-! ## Filters of requests -/

theorem ResourceKind.name_of_ofName? {name : String} {kind : ResourceKind}
    (named : ofName? name = some kind) : kind.name = name := by
  simpa using List.find?_some named

namespace CommandLine

/-- The filter that the flags of a request describe. -/
structure Describes (request : CleanupRequest) (filter : ResourceFilter) : Prop where
  /-- A pattern selects names; without one, all names are asked for. -/
  names : match request.name with
    | some pattern => ∃ expression, Regex.parse pattern = .ok expression ∧
        filter.names = some expression
    | none => request.all = true ∧ filter.names = none
  /-- What is to be kept is kept. -/
  exclude : filter.exclude = request.exclude
  /-- The kinds are those that are named, or all if none is. -/
  kinds : filter.kinds.map (·.name) =
    if request.kinds = [] then ResourceKind.deletionOrder.map (·.name) else request.kinds

theorem names_of_kindsNamed {names : List String} {kinds : List ResourceKind}
    (named : kindsNamed names = .ok kinds) : kinds.map (·.name) = names := by
  induction names generalizing kinds with
  | nil =>
    obtain rfl := Except.ok.inj named
    rfl
  | cons name rest ih =>
    rw [kindsNamed, List.mapM_cons, bind_eq_ok] at named
    obtain ⟨kind, own, rest⟩ := named
    obtain ⟨others, named, same⟩ := bind_eq_ok.mp rest
    obtain rfl := Except.ok.inj same
    have own : kind.name = name := by
      split at own
      · next found =>
        obtain rfl := Except.ok.inj own
        exact ResourceKind.name_of_ofName? found
      · cases own
    rw [List.map_cons, own, ih named]

theorem ofFlags?_cases {pattern : Option String} {all : Bool} {names : NameSelection}
    (chosen : NameSelection.ofFlags? pattern all = some names) :
    (∃ text, pattern = some text ∧ names = .matching text) ∨
      (pattern = none ∧ all = true ∧ names = .all) := by
  cases pattern with
  | some text => exact .inl ⟨text, rfl, (Option.some.inj chosen).symm⟩
  | none =>
    cases all with
    | true => exact .inr ⟨rfl, rfl, (Option.some.inj chosen).symm⟩
    | false => cases chosen

/-- A filter is made of what its request describes. -/
theorem describes_of_make {request : CleanupRequest} {names : NameSelection}
    {kinds : List ResourceKind} {filter : ResourceFilter}
    (chosen : NameSelection.ofFlags? request.name request.all = some names)
    (named : kindsNamed request.kinds = .ok kinds)
    (made : ResourceFilter.make names request.exclude kinds = .ok filter) :
    Describes request filter := by
  have kindNames := names_of_kindsNamed named
  have kindsOf : (if kinds.isEmpty then ResourceKind.deletionOrder else kinds).map (·.name) =
      if request.kinds = [] then ResourceKind.deletionOrder.map (·.name) else request.kinds := by
    rw [← kindNames]
    cases kinds <;> simp
  obtain ⟨pattern, given, rfl⟩ | ⟨given, all, rfl⟩ := ofFlags?_cases chosen
  · obtain ⟨selected, selects, same⟩ := bind_eq_ok.mp made
    obtain rfl := Except.ok.inj same
    obtain ⟨expression, parsed, rfl⟩ := map_eq_ok.mp selects
    refine ⟨?_, rfl, kindsOf⟩
    rw [given]
    exact ⟨expression, mapError_eq_ok.mp parsed, rfl⟩
  · obtain rfl := Except.ok.inj made
    refine ⟨?_, rfl, kindsOf⟩
    rw [given]
    exact ⟨all, rfl⟩

/-- The filter of a cleanup is the one that its request describes. -/
theorem describes_of_cleanupTarget {config : Config} {request : CleanupRequest}
    {names : NameSelection} {account : CloudAccount} {filter : ResourceFilter}
    (chosen : NameSelection.ofFlags? request.name request.all = some names)
    (target : cleanupTarget config request names = .ok (account, filter)) :
    Describes request filter := by
  rw [cleanupTarget] at target
  split at target
  · obtain ⟨kinds, named, made⟩ := bind_eq_ok.mp (show (kindsNamed request.kinds >>= _) = _ from target)
    obtain ⟨filter, made, same⟩ := bind_eq_ok.mp made
    cases same
    exact describes_of_make chosen named (mapError_eq_ok.mp made)
  · cases target

/-! ## Cleanups with a log -/

/-- What an account is asked under a filter, and what it answers: its listings, and the deletions
unless it is a dry run. -/
def cleanupCalls (access : AccountAccess σ) (request : CleanupRequest) (filter : ResourceFilter)
    (state : σ) : List AccountCall :=
  let (plan, after) := CleanupPlan.build access filter state
  (access.listings filter.requested state).1.map .listing ++
    (access.deletions (if request.dryRun then [] else plan.resources) after).1.map .deletion

section

variable (access : AccountAccess σ) (request : CleanupRequest) (filter : ResourceFilter) (state : σ)

theorem build_recorded (log : List AccountCall) :
    CleanupPlan.build access.recorded filter (state, log) =
      ((CleanupPlan.build access filter state).1, (CleanupPlan.build access filter state).2,
        log ++ (access.listings filter.requested state).1.map .listing) := by
  rw [CleanupPlan.build_eq, CleanupPlan.build_eq, AccountAccess.listings_recorded]

/-- A log holds the calls of a cleanup and changes nothing. -/
theorem cleanUp_recorded :
    cleanUp access.recorded request filter (state, []) =
      ((cleanUp access request filter state).1, (cleanUp access request filter state).2,
        cleanupCalls access request filter state) := by
  rw [cleanUp, cleanUp, cleanupCalls, build_recorded]
  cases CleanupPlan.build access filter state with
  | mk plan after =>
    dsimp only
    by_cases empty : plan.isEmpty = true
    · have nothing : plan.resources = [] := by simpa [CleanupPlan.isEmpty] using empty
      simp [empty, nothing, AccountAccess.deletions]
    rw [if_neg empty, if_neg empty]
    by_cases dry : request.dryRun = true
    · simp [dry, AccountAccess.deletions]
    · simp [dry, CleanupPlan.execute_recorded]

/-- The code of a cleanup tells whether a call failed. -/
theorem cleanUp_result :
    (cleanUp access request filter state).1.result =
      .ok (verdictCode ((cleanupCalls access request filter state).all (!·.fails))) := by
  have complete := @CleanupPlan.isComplete_build σ access filter state
  rw [cleanUp, cleanupCalls]
  cases built : CleanupPlan.build access filter state with
  | mk plan after =>
    rw [built] at complete
    dsimp only at complete ⊢
    rw [List.all_append, ← complete]
    by_cases empty : plan.isEmpty = true
    · have nothing : plan.resources = [] := by simpa [CleanupPlan.isEmpty] using empty
      simp [empty, nothing, AccountAccess.deletions]
    rw [if_neg empty]
    by_cases dry : request.dryRun = true
    · simp [dry, AccountAccess.deletions]
    · simp only [dry, Bool.false_eq_true, if_false]
      rw [CleanupPlan.isSuccess_execute, Bool.and_comm]

end

/-! ## The command -/

/-- The command on an account that keeps a log from when it is opened. -/
def recordedCleanup (connect : CloudAccount → Except Failure σ) (access : AccountAccess σ)
    (config : Config) (request : CleanupRequest) : CleanupOutcome (σ × List AccountCall) :=
  cleanup (fun account => (connect account).map (·, [])) access.recorded config request

/-- The command is refused without a choice of names, fails before the account is open, or cleans up
the account. -/
theorem recordedCleanup_cases (connect : CloudAccount → Except Failure σ)
    (access : AccountAccess σ) (config : Config) (request : CleanupRequest) :
    (∃ explanation, cleanup connect access config request = ⟨.refused explanation, none⟩ ∧
      recordedCleanup connect access config request = ⟨.refused explanation, none⟩) ∨
    ((∃ names, NameSelection.ofFlags? request.name request.all = some names) ∧
      ((∃ error, cleanup connect access config request = ⟨.failed error, none⟩ ∧
        recordedCleanup connect access config request = ⟨.failed error, none⟩) ∨
      (∃ filter state, Describes request filter ∧
        cleanup connect access config request =
          ⟨(cleanUp access request filter state).1,
            some (cleanUp access request filter state).2⟩ ∧
        recordedCleanup connect access config request =
          ⟨(cleanUp access request filter state).1,
            some ((cleanUp access request filter state).2,
              cleanupCalls access request filter state)⟩))) := by
  rw [recordedCleanup, cleanup, cleanup]
  cases chosen : NameSelection.ofFlags? request.name request.all with
  | none => exact .inl ⟨_, rfl, rfl⟩
  | some names =>
    refine .inr ⟨⟨names, rfl⟩, ?_⟩
    dsimp only
    cases target : cleanupTarget config request names with
    | error error => exact .inl ⟨error, rfl, rfl⟩
    | ok found =>
      obtain ⟨account, filter⟩ := found
      have described := describes_of_cleanupTarget chosen target
      dsimp only
      cases connect account with
      | error failure => exact .inl ⟨_, rfl, rfl⟩
      | ok state =>
        refine .inr ⟨filter, state, described, rfl, ?_⟩
        change CleanupOutcome.mk (cleanUp access.recorded request filter (state, [])).1
          (some (cleanUp access.recorded request filter (state, [])).2) = _
        rw [cleanUp_recorded]

section

variable (access : AccountAccess σ) (request : CleanupRequest) (filter : ResourceFilter) (state : σ)

/-- Each selected kind is listed once, in the order of deletion. -/
theorem lists_cleanupCalls :
    (cleanupCalls access request filter state).filterMap (·.lists?) = filter.requested := by
  simp [cleanupCalls, List.filterMap_map, AccountCall.lists?,
    AccountAccess.kinds_listings]

/-- What is planned is deleted, unless it is a dry run. -/
theorem deletes_cleanupCalls :
    (cleanupCalls access request filter state).filterMap (·.deletes?) =
      if request.dryRun then [] else (CleanupPlan.build access filter state).1.resources := by
  simp [cleanupCalls, List.filterMap_map, AccountCall.deletes?,
    AccountAccess.resources_deletions]

end

/-- The command deletes nothing unless names are chosen, and the account is not even opened then. It
lists the kinds that its flags describe, each once. It deletes nothing on a dry run, and otherwise
only what its flags describe. A code other than that of usage is zero exactly if nothing that the
account was asked failed. -/
theorem cleanup_safe (connect : CloudAccount → Except Failure σ) (access : AccountAccess σ)
    (config : Config) (request : CleanupRequest) :
    let plain := cleanup connect access config request
    let logged := recordedCleanup connect access config request
    logged.printed = plain.printed ∧ logged.state.map Prod.fst = plain.state ∧
      (request.name = none → request.all = false →
        logged.printed.result = .ok usageCode ∧ logged.state = none) ∧
      (∀ state calls, logged.state = some (state, calls) → ∃ filter, Describes request filter ∧
        calls.filterMap (·.lists?) = filter.requested ∧
        (∀ resource ∈ calls.filterMap (·.deletes?), filter.selects resource = true) ∧
        (request.dryRun = true → calls.filterMap (·.deletes?) = [])) ∧
      (∀ code, logged.printed.result = .ok code → code ≠ usageCode →
        ∃ state calls, logged.state = some (state, calls) ∧
          (code = 0 ↔ ∀ call ∈ calls, call.fails = false)) := by
  intro plain logged
  obtain ⟨explanation, isPlain, isLogged⟩ | ⟨⟨names, chosen⟩, ⟨error, isPlain, isLogged⟩ |
    ⟨filter, state, described, isPlain, isLogged⟩⟩ :=
      recordedCleanup_cases connect access config request
  · rw [show plain = _ from isPlain, show logged = _ from isLogged]
    refine ⟨rfl, rfl, fun _ _ => ⟨rfl, rfl⟩, nofun, fun code result other => ?_⟩
    exact absurd (Except.ok.inj result).symm other
  · rw [show plain = _ from isPlain, show logged = _ from isLogged]
    refine ⟨rfl, rfl, fun unnamed some => ?_, nofun, nofun⟩
    rw [unnamed, some] at chosen
    cases chosen
  · rw [show plain = _ from isPlain, show logged = _ from isLogged]
    refine ⟨rfl, rfl, fun unnamed some => ?_, ?_, fun code result _ => ?_⟩
    · rw [unnamed, some] at chosen
      cases chosen
    · rintro after calls same
      obtain ⟨rfl, rfl⟩ := Prod.mk.inj (Option.some.inj same)
      refine ⟨filter, described, lists_cleanupCalls access request filter state, ?_, ?_⟩
      · rw [deletes_cleanupCalls]
        split
        · exact List.forall_mem_nil _
        · exact fun resource => CleanupPlan.selects_of_mem_build
      · intro dry
        rw [deletes_cleanupCalls, if_pos dry]
    · rw [cleanUp_result] at result
      obtain rfl := Except.ok.inj result
      refine ⟨_, _, rfl, ?_⟩
      have zero (good : Bool) : verdictCode good = 0 ↔ good = true := by cases good <;> decide
      simp [zero]

/-- An account with one machine, which cannot be deleted. -/
def stuckAccess : AccountAccess Unit where
  list kind state := (.ok (if kind = .vm then [⟨.vm, "1", "rift-ping"⟩] else []), state)
  delete _ state := (.error (.cloud "resource busy"), state)

theorem cleanup_safe_stuck :
    let clean := recordedCleanup (fun _ => .ok ()) stuckAccess
      { clouds := [("lab", .mock "lab.json")] }
    let rehearsed := clean { account := "lab", all := true, dryRun := true }
    let asked := clean { account := "lab", all := true }
    (clean { account := "lab" }).printed.result = .ok usageCode ∧
      (∃ calls, rehearsed.state = some ((), calls) ∧ calls.filterMap (·.deletes?) = []) ∧
      asked.printed.result = .ok 1 ∧
      ∃ calls, asked.state = some ((), calls) ∧ ∃ call ∈ calls, call.fails = true := by
  intro clean rehearsed asked
  have safe := cleanup_safe (fun _ => .ok ()) stuckAccess
    { clouds := [("lab", .mock "lab.json")] }
  obtain ⟨-, -, unasked, -⟩ := safe { account := "lab" }
  obtain ⟨-, -, -, opened, -⟩ := safe { account := "lab", all := true, dryRun := true }
  obtain ⟨-, -, -, -, verdict⟩ := safe { account := "lab", all := true }
  obtain ⟨filter, -, -, -, dry⟩ := opened () _ rfl
  obtain ⟨state, calls, ran, zero⟩ := verdict 1 rfl (by decide)
  refine ⟨(unasked rfl rfl).1, ⟨_, rfl, dry rfl⟩, rfl, calls, ran, ?_⟩
  by_contra none
  refine absurd (zero.mpr fun call member => ?_) (by decide)
  exact Bool.eq_false_iff.mpr fun fails => none ⟨call, member, fails⟩

end CommandLine

end NfvCatalog
