import NfvCatalog.Proofs.Cleanup.Planned

/-! # What an account is asked

The calls that an account gets are recorded in a log. Recording changes nothing else. A plan asks
for its listings only, and carrying it out deletes its resources one by one, each once and in order,
whether or not other deletions fail.
-/

namespace NfvCatalog

variable {σ : Type}

/-! ## Deletions -/

/-- A resource that an account was asked to delete, and what it answered. -/
structure Deletion where
  resource : CloudResource
  outcome : Except Failure Unit

namespace Deletion

/-- The resource and why it could not be deleted. -/
def failure? (deletion : Deletion) : Option (CloudResource × Failure) :=
  match deletion.outcome with
  | .ok () => none
  | .error failure => some (deletion.resource, failure)

end Deletion

/-- What an account was asked, and what it answered. -/
inductive AccountCall where
  | listing (listing : Listing)
  | deletion (deletion : Deletion)

namespace AccountCall

/-- The resource of a deletion. -/
def deletes? : AccountCall → Option CloudResource
  | .listing _ => none
  | .deletion answer => some answer.resource

/-- The kind of a listing. -/
def lists? : AccountCall → Option ResourceKind
  | .listing answer => some answer.kind
  | .deletion _ => none

/-- Whether the account answered with a failure. -/
def fails : AccountCall → Bool
  | .listing answer => answer.failure?.isSome
  | .deletion answer => answer.failure?.isSome

end AccountCall

namespace AccountAccess

/-- An account that keeps a log of what it is asked beside its state. -/
def recorded (access : AccountAccess σ) : AccountAccess (σ × List AccountCall) where
  list kind state :=
    let (outcome, after) := access.list kind state.1
    (outcome, after, state.2 ++ [.listing ⟨kind, outcome⟩])
  delete resource state :=
    let (outcome, after) := access.delete resource state.1
    (outcome, after, state.2 ++ [.deletion ⟨resource, outcome⟩])

/-- The answers of an account that is asked to delete resources one after another, and its state
then. -/
def deletions (access : AccountAccess σ) : List CloudResource → σ → List Deletion × σ
  | [], state => ([], state)
  | resource :: rest, state =>
    let (outcome, state) := access.delete resource state
    let (others, state) := access.deletions rest state
    (⟨resource, outcome⟩ :: others, state)

variable (access : AccountAccess σ)

theorem list_recorded (kind : ResourceKind) (state : σ) (log : List AccountCall) :
    access.recorded.list kind (state, log) =
      ((access.list kind state).1, (access.list kind state).2,
        log ++ [.listing ⟨kind, (access.list kind state).1⟩]) := rfl

theorem delete_recorded (resource : CloudResource) (state : σ) (log : List AccountCall) :
    access.recorded.delete resource (state, log) =
      ((access.delete resource state).1, (access.delete resource state).2,
        log ++ [.deletion ⟨resource, (access.delete resource state).1⟩]) := rfl

theorem listings_recorded (kinds : List ResourceKind) (state : σ) (log : List AccountCall) :
    access.recorded.listings kinds (state, log) =
      ((access.listings kinds state).1, (access.listings kinds state).2,
        log ++ (access.listings kinds state).1.map .listing) := by
  induction kinds generalizing state log with
  | nil => simp [listings]
  | cons kind rest ih => simp [listings, list_recorded, ih]

theorem deletions_recorded (resources : List CloudResource) (state : σ)
    (log : List AccountCall) :
    access.recorded.deletions resources (state, log) =
      ((access.deletions resources state).1, (access.deletions resources state).2,
        log ++ (access.deletions resources state).1.map .deletion) := by
  induction resources generalizing state log with
  | nil => simp [deletions]
  | cons resource rest ih => simp [deletions, delete_recorded, ih]

theorem resources_deletions (resources : List CloudResource) (state : σ) :
    (access.deletions resources state).1.map (·.resource) = resources := by
  induction resources generalizing state with
  | nil => rfl
  | cons resource rest ih => exact congrArg (resource :: ·) (ih _)

end AccountAccess

namespace CleanupPlan

variable {access : AccountAccess σ} {filter : ResourceFilter} {plan : CleanupPlan}

/-- What is announced of deletions. -/
def announced (resources : List CloudResource) : List ProgressEvent :=
  resources.flatMap fun resource => [.message ("Deleting " ++ resource.text), .increment 1]

/-- The report about deletions. -/
def reportOf (deletions : List Deletion) : CleanupReport where
  deleted := (deletions.filter (·.failure?.isNone)).map (·.resource)
  failed := deletions.filterMap (·.failure?)

theorem deleteEach_eq (resources : List CloudResource) (report : CleanupReport) (state : σ) :
    deleteEach access resources report state =
      (⟨report.deleted ++ (reportOf (access.deletions resources state).1).deleted,
          report.failed ++ (reportOf (access.deletions resources state).1).failed⟩,
        announced resources, (access.deletions resources state).2) := by
  induction resources generalizing report state with
  | nil => simp [deleteEach, AccountAccess.deletions, reportOf, announced]
  | cons resource rest ih =>
    rw [deleteEach, AccountAccess.deletions]
    rcases access.delete resource state with ⟨_ | _, after⟩ <;>
      simp [ih, reportOf, announced, Deletion.failure?]

/-- Carrying out a plan deletes its resources one after another and reports what became of them. -/
theorem execute_eq (plan : CleanupPlan) (state : σ) :
    execute access plan state =
      (reportOf (access.deletions plan.resources state).1,
        .length (UInt64.ofNat plan.resources.length) :: announced plan.resources ++
          [lastEvent (reportOf (access.deletions plan.resources state).1)],
        (access.deletions plan.resources state).2) := by
  simp [execute, deleteEach_eq]

/-- A log of what the account is asked when a plan is carried out holds its deletions only. -/
theorem execute_recorded (access : AccountAccess σ) (plan : CleanupPlan) (state : σ)
    (log : List AccountCall) :
    execute access.recorded plan (state, log) =
      ((execute access plan state).1, (execute access plan state).2.1,
        (execute access plan state).2.2,
        log ++ (access.deletions plan.resources state).1.map .deletion) := by
  rw [execute_eq, execute_eq, AccountAccess.deletions_recorded]

/-- A plan is made of the listings of the selected kinds. -/
theorem build_eq (filter : ResourceFilter) (state : σ) :
    build access filter state =
      (⟨(access.listings filter.requested state).1.flatMap (·.resources.filter filter.selects),
          (access.listings filter.requested state).1.filterMap (·.failure?)⟩,
        (access.listings filter.requested state).2) := by
  have requested : ResourceKind.deletionOrder.filter filter.kinds.contains = filter.requested :=
    List.filter_congr fun kind _ => by simp
  rw [build, requested, addKinds_eq, List.nil_append, List.nil_append]

theorem isEmpty_filterMap {α β : Type} (failure? : α → Option β) (items : List α) :
    (items.filterMap failure?).isEmpty = items.all fun item => !(failure? item).isSome := by
  rw [Bool.eq_iff_iff, List.isEmpty_iff, List.filterMap_eq_nil_iff, List.all_eq_true]
  simp

/-- A plan is complete if no listing failed. -/
theorem isComplete_build (filter : ResourceFilter) (state : σ) :
    (build access filter state).1.isComplete =
      ((access.listings filter.requested state).1.map AccountCall.listing).all (!·.fails) := by
  rw [build_eq, isComplete, isEmpty_filterMap, List.all_map]
  rfl

/-- A report tells of success if no deletion failed. -/
theorem isSuccess_execute (plan : CleanupPlan) (state : σ) :
    (execute access plan state).1.isSuccess =
      ((access.deletions plan.resources state).1.map AccountCall.deletion).all (!·.fails) := by
  rw [execute_eq, CleanupReport.isSuccess, reportOf, isEmpty_filterMap, List.all_map]
  rfl

/-- Everything in a plan is selected. -/
theorem selects_of_mem_build {filter : ResourceFilter} {state : σ} {resource : CloudResource}
    (planned : resource ∈ (build access filter state).1.resources) :
    filter.selects resource = true := by
  rw [build_eq] at planned
  obtain ⟨listing, -, inside⟩ := List.mem_flatMap.mp planned
  exact (List.mem_filter.mp inside).2

end CleanupPlan

end NfvCatalog
