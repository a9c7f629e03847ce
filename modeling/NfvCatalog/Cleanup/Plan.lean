import NfvCatalog.Failure
import NfvCatalog.Tool.Progress

/-! # Plans of deletion

A filter selects resources of an account, and a plan deletes what is selected.
-/

/-! ## Selecting resources

A filter takes resources by kind and by name and leaves out those that are to be kept. There is no
silent choice of everything: all names have to be asked for.
-/

namespace NfvCatalog

/-- Which names are selected. -/
inductive NameSelection where
  | matching (pattern : String)
  | all
deriving DecidableEq, Repr, Inhabited

/-- The selection that a pattern and a flag for all names ask for; a pattern counts before the
flag. -/
def NameSelection.ofFlags? (pattern : Option String) (all : Bool) : Option NameSelection :=
  match pattern, all with
  | some pattern, _ => some (.matching pattern)
  | none, true => some .all
  | none, false => none

/-- Which resources are selected. Without an expression every name is. -/
structure ResourceFilter where
  names : Option Regex
  exclude : List String
  kinds : List ResourceKind
deriving DecidableEq, Repr, Inhabited

namespace ResourceFilter

/-- The filter of a selection. No kinds mean all kinds. -/
def make (selection : NameSelection) (exclude : List String) (kinds : List ResourceKind) :
    Except Failure ResourceFilter := do
  let names ← match selection with
    | .matching pattern => (Regex.parse pattern).mapError .badNamePattern |>.map some
    | .all => .ok none
  return { names, exclude, kinds := if kinds.isEmpty then ResourceKind.deletionOrder else kinds }

/-- The filter that selects every resource. -/
def everything : ResourceFilter :=
  { names := none, exclude := [], kinds := ResourceKind.deletionOrder }

/-- Whether a resource is selected: its kind is, it is not excluded by name or id, and its name
matches. -/
def selects (filter : ResourceFilter) (resource : CloudResource) : Bool :=
  filter.kinds.contains resource.kind &&
    !(filter.exclude.any fun kept => kept = resource.name || kept = resource.id) &&
    filter.names.all fun expression => expression.matchesIn resource.name

end ResourceFilter

end NfvCatalog

/-! ## Carrying out a plan

A plan lists an account kind by kind in the order of deletion and keeps what a filter selects. To
carry it out, every resource of the plan is deleted once; failures are gathered and do not stop it.
-/

namespace NfvCatalog

/-- What can be done with an account. Both operations may change the state behind it. -/
structure AccountAccess (σ : Type) where
  list : ResourceKind → σ → Except Failure (List CloudResource) × σ
  delete : CloudResource → σ → Except Failure Unit × σ

/-- The resources to delete, in order, and the kinds that could not be listed. -/
structure CleanupPlan where
  resources : List CloudResource := []
  listFailures : List (ResourceKind × Failure) := []
deriving DecidableEq, Repr, Inhabited

/-- What became of a plan. -/
structure CleanupReport where
  deleted : List CloudResource := []
  failed : List (CloudResource × Failure) := []
deriving DecidableEq, Repr, Inhabited

/-- Whether nothing failed. -/
def CleanupReport.isSuccess (report : CleanupReport) : Bool := report.failed.isEmpty

namespace CleanupPlan

/-- Add the selected resources of one kind. -/
def addKind {σ : Type} (access : AccountAccess σ) (filter : ResourceFilter) (kind : ResourceKind)
    (plan : CleanupPlan) (state : σ) : CleanupPlan × σ :=
  match access.list kind state with
  | (.ok resources, state) =>
    ({ plan with resources := plan.resources ++ resources.filter filter.selects }, state)
  | (.error failure, state) =>
    ({ plan with listFailures := plan.listFailures ++ [(kind, failure)] }, state)

/-- Add the selected resources of kinds in order. -/
def addKinds {σ : Type} (access : AccountAccess σ) (filter : ResourceFilter) :
    List ResourceKind → CleanupPlan → σ → CleanupPlan × σ
  | [], plan, state => (plan, state)
  | kind :: rest, plan, state =>
    let (plan, state) := addKind access filter kind plan state
    addKinds access filter rest plan state

/-- The plan of an account under a filter. -/
def build {σ : Type} (access : AccountAccess σ) (filter : ResourceFilter) (state : σ) :
    CleanupPlan × σ :=
  addKinds access filter (ResourceKind.deletionOrder.filter filter.kinds.contains) { } state

/-- Whether there is nothing to delete. -/
def isEmpty (plan : CleanupPlan) : Bool := plan.resources.isEmpty

/-- Whether every selected kind was listed. -/
def isComplete (plan : CleanupPlan) : Bool := plan.listFailures.isEmpty

/-- Delete resources in order, after those already reported. -/
def deleteEach {σ : Type} (access : AccountAccess σ) :
    List CloudResource → CleanupReport → σ → CleanupReport × List ProgressEvent × σ
  | [], report, state => (report, [], state)
  | resource :: rest, report, state =>
    let (outcome, state) := access.delete resource state
    let report := match outcome with
      | .ok () => { report with deleted := report.deleted ++ [resource] }
      | .error failure => { report with failed := report.failed ++ [(resource, failure)] }
    let (report, events, state) := deleteEach access rest report state
    (report, .message ("Deleting " ++ resource.text) :: .increment 1 :: events, state)

/-- The last event of a report. -/
def lastEvent (report : CleanupReport) : ProgressEvent :=
  if report.isSuccess then
    .finish ("Deleted " ++ toString report.deleted.length ++ " resource(s)")
  else .failure (toString report.failed.length ++ " deletion(s) failed")

/-- Carry out a plan. -/
def execute {σ : Type} (access : AccountAccess σ) (plan : CleanupPlan) (state : σ) :
    CleanupReport × List ProgressEvent × σ :=
  let (report, events, state) := deleteEach access plan.resources { } state
  (report, .length (UInt64.ofNat plan.resources.length) :: events ++ [lastEvent report], state)

end CleanupPlan

end NfvCatalog
