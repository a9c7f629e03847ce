import Mathlib.Data.List.Nodup
import NfvCatalog.Cleanup.Account
import NfvCatalog.Proofs.Document.Fields
import NfvCatalog.Proofs.Lists.Basic
import NfvCatalog.Proofs.Outcome

/-! # What is planned for deletion

A plan asks an account for each selected kind once, in the order of deletion. Its resources are
those of the listings that the filter wants, in the order in which they are listed, and its failures
those of the listings that failed.
-/

namespace NfvCatalog

variable {σ : Type}

/-! ## Listings -/

/-- What an account answers when it is asked for the resources of a kind. -/
structure Listing where
  kind : ResourceKind
  outcome : Except Failure (List CloudResource)

namespace Listing

/-- The resources that are listed, none if the listing failed. -/
def resources (listing : Listing) : List CloudResource :=
  match listing.outcome with
  | .ok resources => resources
  | .error _ => []

/-- The kind and why it could not be listed. -/
def failure? (listing : Listing) : Option (ResourceKind × Failure) :=
  match listing.outcome with
  | .ok _ => none
  | .error failure => some (listing.kind, failure)

end Listing

namespace AccountAccess

/-- The answers of an account that is asked for kinds one after another, and its state then. -/
def listings (access : AccountAccess σ) : List ResourceKind → σ → List Listing × σ
  | [], state => ([], state)
  | kind :: rest, state =>
    let (outcome, state) := access.list kind state
    let (others, state) := access.listings rest state
    (⟨kind, outcome⟩ :: others, state)

/-- An account that is asked for a kind lists resources of that kind only, if any. -/
def ListsByKind (access : AccountAccess σ) : Prop :=
  ∀ kind state resources, (access.list kind state).1 = .ok resources →
    ∀ resource ∈ resources, resource.kind = kind

variable {access : AccountAccess σ}

theorem kinds_listings (kinds : List ResourceKind) (state : σ) :
    (access.listings kinds state).1.map (·.kind) = kinds := by
  induction kinds generalizing state with
  | nil => rfl
  | cons kind rest ih => exact congrArg (kind :: ·) (ih _)

theorem ListsByKind.kind_eq (byKind : access.ListsByKind) {kinds : List ResourceKind} {state : σ} :
    ∀ listing ∈ (access.listings kinds state).1, ∀ resource ∈ listing.resources,
      resource.kind = listing.kind := by
  induction kinds generalizing state with
  | nil =>
    intro listing member
    cases member
  | cons kind rest ih =>
    refine List.forall_mem_cons.mpr ⟨fun resource member => ?_, ih⟩
    cases listed : (access.list kind state).1 with
    | error failure =>
      rw [listed] at member
      cases member
    | ok resources =>
      rw [listed] at member
      exact byKind kind state resources listed resource member

end AccountAccess

/-- A client's listing of a kind is read as resources of the kind. -/
theorem ClientSession.kind_of_parseListing {kind : ResourceKind} {text : String}
    {resources : List CloudResource} (read : parseListing kind text = .ok resources) :
    ∀ resource ∈ resources, resource.kind = kind := by
  rw [parseListing, mapError_eq_ok] at read
  obtain ⟨node, -, read⟩ := bind_eq_ok.mp read
  obtain ⟨items, -, rows⟩ := bind_eq_ok.mp read
  intro resource member
  obtain ⟨row, isRow⟩ := Record.exists_of_mem_readItems rows resource member
  rw [rowOfNode, bind_eq_ok] at isRow
  obtain ⟨record, -, isRow⟩ := isRow
  obtain ⟨id, -, isRow⟩ := bind_eq_ok.mp isRow
  obtain ⟨name, -, isRow⟩ := bind_eq_ok.mp isRow
  obtain rfl := Except.ok.inj isRow
  rfl

theorem MockAccount.kind_of_list {account : MockAccount} {kind : ResourceKind} :
    ∀ resource ∈ account.list kind, resource.kind = kind :=
  List.forall_mem_map.mpr fun _ _ => rfl

/-- Accounts of either sort list resources by kind. -/
theorem OpenAccount.access_listsByKind : access.ListsByKind := by
  rintro kind ⟨account, tree⟩ resources listed
  cases account with
  | mock account =>
    obtain rfl := Except.ok.inj listed
    exact MockAccount.kind_of_list
  | client session =>
    have found : (session.list kind tree).1 = .ok resources := listed
    rw [ClientSession.list] at found
    split at found
    · exact ClientSession.kind_of_parseListing found
    · cases found

/-! ## What a filter wants -/

namespace ResourceFilter

/-- A filter wants a resource, whatever its kind: its name matches, and neither its name nor its id
is excluded. -/
def Wants (filter : ResourceFilter) (resource : CloudResource) : Prop :=
  (∀ expression ∈ filter.names, expression.matchesIn resource.name = true) ∧
    resource.name ∉ filter.exclude ∧ resource.id ∉ filter.exclude

instance (filter : ResourceFilter) : DecidablePred filter.Wants :=
  fun _ => inferInstanceAs (Decidable (_ ∧ _ ∧ _))

/-- The kinds that a filter selects, each once, in the order of deletion. -/
def requested (filter : ResourceFilter) : List ResourceKind :=
  ResourceKind.deletionOrder.filter (· ∈ filter.kinds)

variable {filter : ResourceFilter}

theorem selects_iff {resource : CloudResource} :
    filter.selects resource = true ↔ resource.kind ∈ filter.kinds ∧ filter.Wants resource := by
  have kept : (filter.exclude.any fun kept => kept = resource.name || kept = resource.id) = false ↔
      resource.name ∉ filter.exclude ∧ resource.id ∉ filter.exclude := by
    rw [Bool.eq_false_iff, ne_eq, List.any_eq_true, ← not_or, not_iff_not]
    constructor
    · rintro ⟨kept, member, same⟩
      rcases (by simpa using same : kept = resource.name ∨ kept = resource.id) with rfl | rfl
      · exact .inl member
      · exact .inr member
    · rintro (member | member)
      · exact ⟨_, member, by simp⟩
      · exact ⟨_, member, by simp⟩
  have matched : filter.names.all (fun expression => expression.matchesIn resource.name) = true ↔
      ∀ expression ∈ filter.names, expression.matchesIn resource.name = true := by
    cases filter.names <;> simp
  rw [selects, Bool.and_eq_true, Bool.and_eq_true, Bool.not_eq_true', kept, matched, Wants,
    List.contains_iff_mem]
  constructor
  · rintro ⟨⟨kind, kept⟩, name⟩
    exact ⟨kind, name, kept⟩
  · rintro ⟨kind, name, kept⟩
    exact ⟨⟨kind, kept⟩, name⟩

theorem mem_requested {kind : ResourceKind} : kind ∈ filter.requested ↔ kind ∈ filter.kinds := by
  simp [requested, ResourceKind.mem_deletionOrder]

theorem sorted_requested :
    filter.requested.Pairwise fun first second => first.rank < second.rank := by
  have sorted : ResourceKind.deletionOrder.Pairwise
      fun first second => first.rank < second.rank := by decide
  exact sorted.filter _

end ResourceFilter

/-! ## Plans -/

namespace CleanupPlan

variable {access : AccountAccess σ} {filter : ResourceFilter}

/-- A kind adds what is selected of its listing, or the failure of it. -/
theorem addKind_eq (kind : ResourceKind) (plan : CleanupPlan) (state : σ) :
    addKind access filter kind plan state =
      (⟨plan.resources ++
            (Listing.mk kind (access.list kind state).1).resources.filter filter.selects,
          plan.listFailures ++ (Listing.mk kind (access.list kind state).1).failure?.toList⟩,
        (access.list kind state).2) := by
  rw [addKind]
  cases access.list kind state with
  | mk outcome state => cases outcome <;> simp [Listing.resources, Listing.failure?]

/-- Kinds add what is selected of their listings, and the failures of these. -/
theorem addKinds_eq (kinds : List ResourceKind) (plan : CleanupPlan) (state : σ) :
    addKinds access filter kinds plan state =
      (⟨plan.resources ++
            (access.listings kinds state).1.flatMap (·.resources.filter filter.selects),
          plan.listFailures ++ (access.listings kinds state).1.filterMap (·.failure?)⟩,
        (access.listings kinds state).2) := by
  induction kinds generalizing plan state with
  | nil => simp [addKinds, AccountAccess.listings]
  | cons kind rest ih =>
    rw [addKinds, addKind_eq]
    dsimp only
    rw [ih, AccountAccess.listings]
    simp only [List.flatMap_cons, List.append_assoc, List.filterMap_cons]
    cases Listing.failure? ⟨kind, (access.list kind state).1⟩ <;> simp

/-- A plan is what a filter makes of listings, no more and no less. -/
structure Exact (filter : ResourceFilter) (listings : List Listing) (plan : CleanupPlan) :
    Prop where
  /-- Each selected kind was listed once, in the order of deletion. -/
  kinds : listings.map (·.kind) = filter.requested
  /-- The resources are those that the filter wants, in the order in which they are listed. -/
  resources : plan.resources = listings.flatMap (·.resources.filter filter.Wants)
  /-- The resources of a kind are those that the filter wants of its listing. -/
  ofKind : ∀ listing ∈ listings,
    plan.resources.filter (·.kind = listing.kind) = listing.resources.filter filter.Wants
  /-- No resource comes before one that has to be deleted earlier. -/
  ordered : plan.resources.Pairwise fun first second => first.kind.rank ≤ second.kind.rank
  /-- No resource comes twice if none is listed twice for a kind. -/
  once : (∀ listing ∈ listings, listing.resources.Nodup) → plan.resources.Nodup
  /-- The failures are those of the listings. -/
  failures : plan.listFailures = listings.filterMap (·.failure?)

/-- A relation holds along what is wanted of listings in the order of deletion if it holds along
each listing and from every resource to those of kinds that are deleted after it. -/
private theorem pairwise_wanted {listings : List Listing}
    {related : CloudResource → CloudResource → Prop}
    (sorted : listings.Pairwise fun first second => first.kind.rank < second.kind.rank)
    (byKind : ∀ listing ∈ listings, ∀ resource ∈ listing.resources, resource.kind = listing.kind)
    (within : ∀ listing ∈ listings, (listing.resources.filter filter.Wants).Pairwise related)
    (apart : ∀ first second : CloudResource, first.kind.rank < second.kind.rank →
      related first second) :
    (listings.flatMap (·.resources.filter filter.Wants)).Pairwise related := by
  refine List.pairwise_flatMap.mpr ⟨within, ?_⟩
  refine sorted.imp_of_mem fun {first second} isFirst isSecond before => ?_
  intro left isLeft right isRight
  have leftKind := byKind first isFirst left (List.mem_filter.mp isLeft).1
  have rightKind := byKind second isSecond right (List.mem_filter.mp isRight).1
  exact apart left right (by rwa [leftKind, rightKind])

/-- The part of a kind in a plan of listings by kind comes from the listings of the kind. -/
private theorem filter_wanted (kind : ResourceKind) {listings : List Listing}
    (byKind : ∀ listing ∈ listings, ∀ resource ∈ listing.resources, resource.kind = listing.kind) :
    (listings.flatMap (·.resources.filter filter.Wants)).filter (·.kind = kind) =
      (listings.filter (·.kind = kind)).flatMap (·.resources.filter filter.Wants) := by
  induction listings with
  | nil => rfl
  | cons listing rest ih =>
    obtain ⟨ofKind, restKinds⟩ := List.forall_mem_cons.mp byKind
    rw [List.flatMap_cons, List.filter_append, ih restKinds]
    by_cases same : listing.kind = kind
    · have all : (listing.resources.filter filter.Wants).filter (·.kind = kind) =
          listing.resources.filter filter.Wants := by
        refine List.filter_eq_self.mpr fun resource inside => ?_
        simpa [ofKind resource (List.mem_filter.mp inside).1] using same
      rw [all, List.filter_cons_of_pos (by simpa using same), List.flatMap_cons]
    · have none : (listing.resources.filter filter.Wants).filter (·.kind = kind) = [] := by
        refine List.filter_eq_nil_iff.mpr fun resource inside => ?_
        simpa [ofKind resource (List.mem_filter.mp inside).1] using same
      rw [none, List.filter_cons_of_neg (by simpa using same), List.nil_append]

/-- Of listings of the selected kinds, each of its kind, a filter selects what it wants. -/
private theorem selected_eq_wanted {listings : List Listing}
    (kinds : listings.map (·.kind) = filter.requested)
    (byKind : ∀ listing ∈ listings, ∀ resource ∈ listing.resources, resource.kind = listing.kind) :
    listings.flatMap (·.resources.filter filter.selects) =
      listings.flatMap (·.resources.filter filter.Wants) := by
  refine List.flatMap_congr fun listing member => List.filter_congr fun resource inside => ?_
  have selected : resource.kind ∈ filter.kinds := by
    rw [byKind listing member resource inside, ← filter.mem_requested, ← kinds]
    exact List.mem_map_of_mem member
  rw [Bool.eq_iff_iff, ResourceFilter.selects_iff, decide_eq_true_eq]
  exact and_iff_right selected

/-- What is selected of listings of the selected kinds, each of its kind, is an exact plan. -/
theorem exact_of_listings {listings : List Listing}
    (kinds : listings.map (·.kind) = filter.requested)
    (byKind : ∀ listing ∈ listings, ∀ resource ∈ listing.resources, resource.kind = listing.kind) :
    Exact filter listings
      ⟨listings.flatMap (·.resources.filter filter.selects),
        listings.filterMap (·.failure?)⟩ := by
  have sorted : listings.Pairwise fun first second => first.kind.rank < second.kind.rank := by
    have sortedKinds := filter.sorted_requested
    rwa [← kinds, List.pairwise_map] at sortedKinds
  have distinct : (listings.map (·.kind)).Nodup :=
    List.pairwise_map.mpr (sorted.imp fun before same => by simp [same] at before)
  rw [selected_eq_wanted kinds byKind]
  constructor
  · exact kinds
  · rfl
  · intro listing member
    refine (filter_wanted listing.kind byKind).trans ?_
    rw [filter_key Listing.kind distinct member, List.flatMap_singleton]
  · refine pairwise_wanted sorted byKind (fun listing member => ?_) fun _ _ => Nat.le_of_lt
    refine List.pairwise_of_forall_mem_list fun first isFirst second isSecond => ?_
    have firstKind := byKind listing member first (List.mem_filter.mp isFirst).1
    have secondKind := byKind listing member second (List.mem_filter.mp isSecond).1
    exact Nat.le_of_eq (congrArg ResourceKind.rank (firstKind.trans secondKind.symm))
  · intro distinct
    refine pairwise_wanted sorted byKind (fun listing member => ?_) ?_
    · exact (distinct listing member).filter _
    · rintro first second before rfl
      exact Nat.lt_irrefl _ before
  · rfl

/-- A plan is exactly what the filter makes of what the account lists. -/
theorem build_exact (byKind : access.ListsByKind) (filter : ResourceFilter) (state : σ) :
    (build access filter state).1.Exact filter (access.listings filter.requested state).1 ∧
      (build access filter state).2 = (access.listings filter.requested state).2 := by
  have requested : ResourceKind.deletionOrder.filter filter.kinds.contains = filter.requested :=
    List.filter_congr fun kind _ => by simp
  rw [build, requested, addKinds_eq]
  exact ⟨exact_of_listings (access.kinds_listings filter.requested state) byKind.kind_eq, rfl⟩

/-- An account in which flavors cannot be listed. -/
def labAccess : AccountAccess Unit where
  list kind state :=
    match kind with
    | .vm => (.ok [⟨.vm, "v1", "rift-ping"⟩, ⟨.vm, "v2", "jenkins"⟩], state)
    | .port => (.ok [⟨.port, "p1", "rift-ping-port"⟩], state)
    | .network => (.ok [⟨.network, "n1", "rift-mgmt"⟩, ⟨.network, "n2", "public"⟩], state)
    | .image => (.ok [], state)
    | .flavor => (.error (.cloud "no permission"), state)
  delete _ state := (.ok (), state)

/-- Names that begin with a word, but not the management network, of some kinds, one of them given
twice. -/
def labFilter : ResourceFilter where
  names := some (.both (.anchor .start) (.text ['r', 'i', 'f', 't', '-']))
  exclude := ["rift-mgmt"]
  kinds := [.flavor, .network, .port, .vm, .port]

theorem labAccess_planned :
    labAccess.ListsByKind ∧
      (build labAccess labFilter ()).1 =
        ⟨[⟨.vm, "v1", "rift-ping"⟩, ⟨.port, "p1", "rift-ping-port"⟩],
          [(.flavor, .cloud "no permission")]⟩ := by
  have byKind : labAccess.ListsByKind := by
    intro kind state resources listed
    cases kind <;> cases listed <;> decide
  obtain ⟨exact, -⟩ := build_exact byKind labFilter ()
  refine ⟨byKind, ?_⟩
  cases planned : (build labAccess labFilter ()).1 with
  | mk resources failures =>
    rw [planned] at exact
    obtain rfl := exact.resources
    obtain rfl := exact.failures
    rfl

end CleanupPlan

end NfvCatalog
