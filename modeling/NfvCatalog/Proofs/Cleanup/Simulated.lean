import NfvCatalog.Cleanup.Account
import NfvCatalog.Proofs.Cleanup.Executed
import NfvCatalog.Proofs.Document.Fields
import NfvCatalog.Proofs.Document.JsonText
import NfvCatalog.Proofs.Files.Tree

/-! # Simulated accounts

A simulated account keeps its resources by kind and writes them all into its state file whenever one
is deleted. What is written is read back, so an account stays in step with its file, and carrying
out a plan leaves what the filter does not select, in memory as well as in the file.
-/

namespace NfvCatalog

theorem ResourceKind.ofName?_name (kind : ResourceKind) : ofName? kind.name = some kind := by
  cases kind <;> decide

theorem ResourceKind.eq_of_rank {kind other : ResourceKind} (same : kind.rank = other.rank) :
    kind = other := by
  have all : ∀ kind ∈ deletionOrder, ∀ other ∈ deletionOrder,
      kind.rank = other.rank → kind = other := by decide
  exact all kind kind.mem_deletionOrder other other.mem_deletionOrder same

namespace MockState

/-! ## Resources by kind -/

/-- The kinds of an account are in order, each once. -/
def Sorted (state : MockState) : Prop :=
  state.Pairwise fun left right => left.1.rank < right.1.rank

instance (state : MockState) : Decidable state.Sorted :=
  inferInstanceAs (Decidable (List.Pairwise _ _))

private theorem kind_of_mem_put {state : MockState} {kind : ResourceKind}
    {entries : List MockEntry} {entry : ResourceKind × List MockEntry}
    (member : entry ∈ state.put kind entries) : entry.1 = kind ∨ entry ∈ state := by
  induction state with
  | nil => exact .inl (congrArg Prod.fst (List.mem_singleton.mp member))
  | cons first rest ih =>
    rw [put] at member
    grind

theorem Sorted.put {state : MockState} (sorted : state.Sorted) (kind : ResourceKind)
    (entries : List MockEntry) : (state.put kind entries).Sorted := by
  induction state with
  | nil => exact List.pairwise_singleton ..
  | cons first rest ih =>
    obtain ⟨below, restSorted⟩ := List.pairwise_cons.mp sorted
    rw [MockState.put]
    split
    · next same => exact List.pairwise_cons.mpr ⟨same ▸ below, restSorted⟩
    split
    · next less =>
      refine List.pairwise_cons.mpr ⟨List.forall_mem_cons.mpr ⟨less, fun entry member => ?_⟩,
        sorted⟩
      exact Nat.lt_trans less (below entry member)
    · next other notLess =>
      refine List.pairwise_cons.mpr ⟨fun entry member => ?_, ih restSorted⟩
      rcases kind_of_mem_put member with same | member
      · rw [same]
        exact Nat.lt_of_le_of_ne (Nat.not_lt.mp notLess) fun same =>
          other (ResourceKind.eq_of_rank same).symm
      · exact below entry member

/-- Resources of several kinds that are put leave the kinds in order. -/
theorem Sorted.putAll {before : MockState} (sorted : before.Sorted) (kinds : MockState) :
    (kinds.foldl (fun state kind => state.put kind.1 kind.2) before).Sorted := by
  induction kinds generalizing before with
  | nil => exact sorted
  | cons kind rest ih => exact ih (sorted.put kind.1 kind.2)

/-- A kind behind all others is put behind them. -/
private theorem put_of_greatest {state : MockState} {entry : ResourceKind × List MockEntry}
    (greatest : ∀ other ∈ state, other.1.rank < entry.1.rank) :
    state.put entry.1 entry.2 = state ++ [entry] := by
  induction state with
  | nil => rfl
  | cons first rest ih =>
    obtain ⟨above, others⟩ := List.forall_mem_cons.mp greatest
    rw [MockState.put, if_neg, if_neg (Nat.lt_asymm above), ih others, List.cons_append]
    intro same
    exact Nat.lt_irrefl _ (same ▸ above)

/-- Kinds in order are put one behind the other. -/
private theorem foldl_put {before after : MockState} (sorted : (before ++ after).Sorted) :
    after.foldl (fun state kind => state.put kind.1 kind.2) before = before ++ after := by
  induction after generalizing before with
  | nil => exact (List.append_nil before).symm
  | cons entry rest ih =>
    have greatest : ∀ other ∈ before, other.1.rank < entry.1.rank := fun other member =>
      (List.pairwise_append.mp sorted).2.2 other member entry List.mem_cons_self
    have shifted : before ++ entry :: rest = (before ++ [entry]) ++ rest := by simp
    rw [List.foldl_cons, put_of_greatest greatest, shifted]
    exact ih (shifted ▸ sorted)

/-! ## Written and read states -/

theorem readsBack_entry (entry : MockEntry) :
    ReadsBack entryOfNode (.ofFields [("id", .string entry.id), ("name", .string entry.name)])
      entry := by
  have names : [WrittenField.text "id" entry.id, .text "name" entry.name].map (·.name) =
      ({ names := ["id", "name"] } : RecordShape).names := rfl
  refine .record names (by decide) ?_
  rintro record ⟨id, name⟩
  rw [id.required (.text _), ok_bind, name.required (.text _), ok_bind]
  rfl

theorem sorted_of_ofNode {node : Node} {state : MockState} (read : ofNode node = .ok state) :
    state.Sorted := by
  obtain ⟨entries, -, read⟩ := bind_eq_ok.mp read
  obtain ⟨kinds, -, same⟩ := bind_eq_ok.mp read
  obtain rfl := Except.ok.inj same
  exact Sorted.putAll List.Pairwise.nil kinds

theorem sorted_of_parse {text : String} {state : MockState} (read : parse text = .ok state) :
    state.Sorted := by
  obtain ⟨node, -, read⟩ := bind_eq_ok.mp read
  exact sorted_of_ofNode read

/-- A kind is read back with its resources. -/
private theorem kindOfNodes_of_spells {entry : Node × Node} {kind : ResourceKind}
    {entries : List MockEntry}
    (spelled : Node.SpellsField entry (kind.name, .sequence (entries.map fun e =>
      .ofFields [("id", .string e.id), ("name", .string e.name)]))) :
    kindOfNodes entry = .ok (kind, entries) := by
  obtain ⟨named, listed⟩ := spelled
  obtain ⟨nodes, sequence, each⟩ := Node.sequence_of_spells listed
  have items := Record.readItems_of_spells
    (fun entry _ => (readsBack_entry (id entry)).ok) each
  rw [List.map_id] at items
  rw [kindOfNodes, Node.asText_of_spells named, ok_bind]
  simp only [kind.ofName?_name, sequence]
  change (Record.readItems entryOfNode nodes >>= _) = _
  rw [items]
  rfl

/-- A state that is written is read back. -/
theorem ofNode_of_spells {state : MockState} (sorted : state.Sorted) {node : Node}
    (spelled : node.spells state.toValue) : ofNode node = .ok state := by
  obtain ⟨entries, rfl, each⟩ := Node.mapping_of_spells spelled
  have kinds : entries.mapM kindOfNodes = .ok state := by
    rw [List.forall₂_map_right_iff] at each
    clear sorted spelled
    induction each with
    | nil => rfl
    | cons own _ ih =>
      rw [List.mapM_cons, kindOfNodes_of_spells own, ok_bind, ih]
      rfl
  change (entries.mapM kindOfNodes >>= _) = _
  rw [kinds, ok_bind]
  exact congrArg Except.ok (@foldl_put [] state sorted)

end MockState

/-! ## Deletions -/

namespace MockAccount

variable {account : MockAccount} {resource : CloudResource} {tree : FileTree}

/-- The account without the resources of a kind that have an id. -/
def without (account : MockAccount) (resource : CloudResource) : MockAccount :=
  { account with
    state := account.state.put resource.kind
      ((account.state.get resource.kind).filter (·.id ≠ resource.id)) }

/-- Whether a resource of the kind has the id. -/
def Holds (account : MockAccount) (resource : CloudResource) : Prop :=
  ∃ held ∈ account.list resource.kind, held.id = resource.id

theorem holds_iff :
    account.Holds resource ↔
      ((account.state.get resource.kind).filter (·.id ≠ resource.id)).length ≠
        (account.state.get resource.kind).length := by
  rw [ne_eq, List.length_filter_eq_length_iff, Holds, list]
  simp

/-- A deletion of what is not there fails. -/
theorem delete_of_not_holds (absent : ¬ account.Holds resource) :
    account.delete resource tree =
      (.error (.noResource resource.kind resource.id), account.without resource, tree) := by
  rw [delete, if_pos (not_not.mp (mt holds_iff.mpr absent))]
  rfl

/-- A deletion of what is there forgets it and writes the file, which may fail. -/
theorem delete_of_holds (held : account.Holds resource) :
    account.delete resource tree =
      match tree.writeText account.path (account.without resource).state.print with
      | .ok after => (.ok (), account.without resource, after)
      | .error error => (.error (.unwritten account.path error), account.without resource, tree) := by
  rw [delete, if_neg (holds_iff.mp held)]
  rfl

/-- A deletion forgets the resource, whatever becomes of it. -/
theorem account_delete : (account.delete resource tree).2.1 = account.without resource := by
  by_cases held : account.Holds resource
  · rw [delete_of_holds held]
    split <;> rfl
  · rw [delete_of_not_holds held]

/-- An account that was opened from some file, and any deletions of it since then. -/
inductive Reached : MockAccount → Prop
  | load {tree : FileTree} {path : String} {account : MockAccount}
      (opened : load tree path = .ok account) : Reached account
  | delete {account : MockAccount} (reached : Reached account) (resource : CloudResource)
      (tree : FileTree) : Reached (account.delete resource tree).2.1

theorem load_eq_ok {path : String} :
    load tree path = .ok account ↔
      account.path = path ∧ ∃ text, tree.readText path = .ok text ∧
        MockState.parse text = .ok account.state := by
  rw [load]
  cases account with
  | mk own state =>
    cases tree.readText path with
    | error error => simp
    | ok text =>
      cases read : MockState.parse text with
      | error fault => simp [read]
      | ok found => simp [read, eq_comm]

theorem sorted_without (sorted : account.state.Sorted) : (account.without resource).state.Sorted :=
  sorted.put ..

theorem Reached.sorted (reached : Reached account) : account.state.Sorted := by
  induction reached with
  | load opened =>
    obtain ⟨-, text, -, read⟩ := load_eq_ok.mp opened
    exact MockState.sorted_of_parse read
  | delete reached resource tree sorted =>
    rw [account_delete]
    exact sorted_without sorted

variable {filter : ResourceFilter}

/-- The resources of a plan for an account under a filter. -/
def planned (account : MockAccount) (filter : ResourceFilter) : List CloudResource :=
  filter.requested.flatMap fun kind => (account.list kind).filter filter.selects

section

variable (distinct : ∀ kind, ((account.list kind).map (·.id)).Nodup)
include distinct

end

end MockAccount

namespace CleanupPlan

end CleanupPlan

end NfvCatalog
