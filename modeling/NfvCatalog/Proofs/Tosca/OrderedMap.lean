import NfvCatalog.Proofs.Document.Spelling
import NfvCatalog.Proofs.Lists.Keyed
import NfvCatalog.Tosca.OrderedMap

/-! # Maps in order of insertion

Whatever is done with a map, its keys come in the order in which they were first stored, each with
the value that was stored last. A document is read as a map entry by entry, in its order.
-/

namespace NfvCatalog.OrderedMap

variable {α : Type}

/-- Maps with the same entries are the same. -/
@[ext] theorem ext {left right : OrderedMap α} (same : left.entries = right.entries) :
    left = right := by
  cases left
  cases right
  simpa using same

@[simp] theorem entries_empty : (empty : OrderedMap α).entries = [] := rfl

@[simp] theorem entries_single (key : String) (value : α) :
    (single key value).entries = [(key, value)] := rfl

/-- Two changes make the same of a map if they do so of its values. -/
theorem map_congr_left {β : Type} {map : OrderedMap α} {f g : α → β}
    (same : ∀ entry ∈ map.entries, f entry.2 = g entry.2) : map.map f = map.map g := by
  apply OrderedMap.ext
  refine List.map_congr_left fun entry member => ?_
  rw [same entry member]

/-- Changing the values leaves a map as it is exactly if every value stays. -/
theorem map_eq_self_iff {map : OrderedMap α} {f : α → α} :
    map.map f = map ↔ ∀ value ∈ map.values, f value = value := by
  rw [OrderedMap.ext_iff]
  show (map.entries.map fun entry => (entry.1, f entry.2)) = map.entries ↔ _
  rw [listMap_eq_self, values, List.forall_mem_map]
  exact forall₂_congr fun entry _ => by rw [Prod.ext_iff]; simp

theorem map_id (map : OrderedMap α) : map.map id = map := map_eq_self_iff.mpr fun _ _ => rfl

theorem entries_modify (map : OrderedMap α) (key : String) (f : α → α) :
    (map.modify key f).entries =
      map.entries.map fun entry => (entry.1, if entry.1 = key then f entry.2 else entry.2) := rfl

/-- Changing a value changes no key. -/
theorem contains_modify (map : OrderedMap α) (key other : String) (f : α → α) :
    (map.modify key f).contains other = map.contains other := by
  rw [contains, contains, get?, get?, entries_modify, List.find?_map]
  simp [Function.comp_def]

/-! ## Entries that are put into a map -/

theorem entries_insert_eq_putLatest (map : OrderedMap α) (key : String) (value : α) :
    (map.insert key value).entries = putLatest Prod.fst (key, value) map.entries := by
  show putEntry key value map.entries = _
  induction map.entries with
  | nil => rfl
  | cons entry rest ih => by_cases same : entry.1 = key <;> simp [putEntry, putLatest, same, ih]

/-- The value under a known key is replaced in its place, and a new key comes last. -/
theorem entries_insert (map : OrderedMap α) (key : String) (value : α) :
    (map.insert key value).entries =
      if key ∈ map.keys then
        map.entries.map fun entry => if entry.1 = key then (key, value) else entry
      else map.entries ++ [(key, value)] := by
  rw [entries_insert_eq_putLatest]
  split
  · next known => exact putLatest_of_mem Prod.fst map.distinct known
  · next new => exact putLatest_of_not_mem Prod.fst new

/-- A map of a list has the latest entry of each key. -/
theorem entries_ofList_eq_latest (entries : List (String × α)) :
    (ofList entries).entries = latest Prod.fst entries :=
  (List.foldl_hom OrderedMap.entries fun map entry =>
    (entries_insert_eq_putLatest map entry.1 entry.2).symm).symm

/-- A map of a list with distinct keys has the list's entries. -/
theorem entries_ofList {entries : List (String × α)} (distinct : (entries.map Prod.fst).Nodup) :
    (ofList entries).entries = entries :=
  (entries_ofList_eq_latest entries).trans (latest_of_nodup Prod.fst distinct)

/-- A map of a list has no values but those of the list. -/
theorem forall_values_ofList {holds : α → Prop} {entries : List (String × α)}
    (each : ∀ entry ∈ entries, holds entry.2) : ∀ value ∈ (ofList entries).values, holds value := by
  rw [values, entries_ofList_eq_latest, List.forall_mem_map]
  exact fun entry member => each entry (mem_of_mem_latest Prod.fst member)

/-! ## Looking up -/

/-- The value of an entry is found under its key. -/
theorem get?_eq_some_of_mem (map : OrderedMap α) {key : String} {value : α}
    (member : (key, value) ∈ map.entries) : map.get? key = some value :=
  (Keyed.get?_eq_some_iff map.distinct).mpr member

/-- What is found under a key does not depend on the order of entries. -/
theorem get?_of_perm {left right : OrderedMap α} (reordered : left.entries.Perm right.entries)
    (key : String) : left.get? key = right.get? key := by
  rw [get?, get?, find?_perm_key Prod.fst right.distinct reordered]

/-- Changing the value under a key changes its entry only. -/
theorem forall₂_modify {same : String × α → String × α → Prop} {map : OrderedMap α} {key : String}
    {value : α} {f : α → α} (found : map.get? key = some value) (stay : ∀ entry, same entry entry)
    (changed : same (key, value) (key, f value)) :
    List.Forall₂ same map.entries (map.modify key f).entries := by
  rw [entries_modify, List.forall₂_map_right_iff, List.forall₂_same]
  intro entry member
  by_cases here : entry.1 = key
  · obtain ⟨key, itsValue⟩ := entry
    obtain rfl : key = _ := here
    obtain rfl : itsValue = value :=
      Option.some.inj ((map.get?_eq_some_of_mem member).symm.trans found)
    simpa using changed
  · rw [if_neg here]
    exact stay entry

theorem contains_of_mem (map : OrderedMap α) {key : String} {value : α}
    (member : (key, value) ∈ map.entries) : map.contains key = true := by
  simp [contains, map.get?_eq_some_of_mem member]

/-- Inserting gives back the value that was under the key. -/
theorem exchange_eq (map : OrderedMap α) (key : String) (value : α) :
    map.exchange key value = (map.get? key, map.insert key value) := by
  refine Prod.ext ?_ (OrderedMap.ext (exchangeEntry_snd key value map.entries))
  show (exchangeEntry key value map.entries).1 = Keyed.get? map.entries key
  induction map.entries with
  | nil => rfl
  | cons entry rest ih =>
    by_cases same : entry.1 = key <;> simp [exchangeEntry, Keyed.get?, same, ih]

/-- A value that is there is changed by inserting the changed one. -/
theorem modify_of_get?_eq_some {map : OrderedMap α} {key : String} {value : α}
    (found : map.get? key = some value) (f : α → α) :
    map.modify key f = map.insert key (f value) := by
  have known : key ∈ map.keys := by
    by_contra absent
    cases (Keyed.get?_eq_none_iff.mpr absent).symm.trans found
  apply OrderedMap.ext
  rw [entries_insert, if_pos known, entries_modify]
  refine List.map_congr_left fun entry member => ?_
  obtain ⟨name, itsValue⟩ := entry
  by_cases same : name = key
  · subst same
    obtain rfl := Option.some.inj ((map.get?_eq_some_of_mem member).symm.trans found)
    simp
  · simp [same]

/-- Where there is no value nothing is changed. -/
theorem modify_of_get?_eq_none {map : OrderedMap α} {key : String} (none : map.get? key = none)
    (f : α → α) : map.modify key f = map := by
  have absent : key ∉ map.keys := Keyed.get?_eq_none_iff.mp none
  apply OrderedMap.ext
  rw [entries_modify, listMap_eq_self]
  intro entry member
  have other : entry.1 ≠ key := fun same => absent (same ▸ List.mem_map_of_mem member)
  rw [if_neg other]

end NfvCatalog.OrderedMap

/-! ## Maps that are read

A mapping is read entry by entry. It is refused only if a key is no text or is given twice, or if a
value is refused.
-/

namespace NfvCatalog

/-- The entries of a mapping. A tag on it does not count, unless it is an application's own. -/
def Node.mapping? (node : Node) : Option (List (Node × Node)) :=
  match node.settled with
  | .mapping entries => some entries
  | .tagged (.own _) _ => none
  | .tagged _ (.mapping entries) => some entries
  | _ => none

namespace OrderedMap

variable {α β : Type}

/-- A key and a value of a document are read as an entry of a map. -/
def ReadsEntry (read : Node → Except Fault α) (node : Node × Node) (entry : String × α) : Prop :=
  node.1.asText = .ok entry.1 ∧ read node.2 = .ok entry.2

variable {read : Node → Except Fault α} {nodes : List (Node × Node)}

theorem readEntries_eq_ok {entries : List (String × α)} :
    readEntries read nodes = .ok entries ↔ List.Forall₂ (ReadsEntry read) nodes entries := by
  induction nodes generalizing entries with
  | nil =>
    rw [readEntries, Except.ok.injEq, List.forall₂_nil_left_iff]
    exact eq_comm
  | cons node rest ih =>
    simp only [readEntries, bind_eq_ok]
    constructor
    · rintro ⟨key, text, value, own, others, each, same⟩
      obtain rfl := Except.ok.inj same
      exact .cons ⟨text, own⟩ (ih.mp each)
    · intro parts
      cases parts with
      | cons own others => exact ⟨_, own.1, _, own.2, _, ih.mpr others, rfl⟩

/-- A mapping is read as the map whose entries are read from its entries, in their order. -/
theorem ofEntries_eq_ok {map : OrderedMap α} :
    ofEntries read nodes = .ok map ↔ List.Forall₂ (ReadsEntry read) nodes map.entries := by
  rw [ofEntries, bind_eq_ok, ← readEntries_eq_ok]
  constructor
  · rintro ⟨entries, given, same⟩
    rw [ofDistinct?] at same
    by_cases distinct : (entries.map Prod.fst).Nodup
    · rw [dif_pos distinct] at same
      rw [given, ← Except.ok.inj same]
    · rw [dif_neg distinct] at same
      cases same
  · intro given
    refine ⟨_, given, ?_⟩
    rw [ofDistinct?, dif_pos map.distinct]
    rfl

/-- Keys that are texts and values that are read make entries. -/
private theorem exists_entries_of_names {names : List String}
    (texts : List.Forall₂ (fun node name => node.1.asText = .ok name) nodes names)
    (each : ∀ node ∈ nodes, ∃ value, read node.2 = .ok value) :
    ∃ entries, entries.map Prod.fst = names ∧ List.Forall₂ (ReadsEntry read) nodes entries := by
  induction texts with
  | nil => exact ⟨[], rfl, .nil⟩
  | @cons node name nodes names text _ ih =>
    obtain ⟨⟨value, own⟩, others⟩ := List.forall_mem_cons.mp each
    obtain ⟨entries, rfl, parts⟩ := ih others
    exact ⟨(name, value) :: entries, rfl, .cons ⟨text, own⟩ parts⟩

/-- A mapping is accepted exactly if its keys are distinct texts and each of its values is. -/
theorem exists_ofEntries_iff :
    (∃ map, ofEntries read nodes = .ok map) ↔
      (∃ names, List.Forall₂ (fun node name => node.1.asText = .ok name) nodes names ∧
        names.Nodup) ∧
      ∀ node ∈ nodes, ∃ value, read node.2 = .ok value := by
  simp only [ofEntries_eq_ok]
  constructor
  · rintro ⟨map, parts⟩
    refine ⟨⟨map.keys, ?_, map.distinct⟩, fun node member => ?_⟩
    · exact List.forall₂_map_right_iff.mpr (parts.imp fun _ _ own => own.1)
    · obtain ⟨entry, -, own⟩ := exists_of_mem_left parts member
      exact ⟨entry.2, own.2⟩
  · rintro ⟨⟨names, texts, distinct⟩, each⟩
    obtain ⟨entries, rfl, parts⟩ := exists_entries_of_names texts each
    exact ⟨⟨entries, distinct⟩, parts⟩

theorem ofNode_of_mapping? {node : Node} (mapping : node.mapping? = some nodes) :
    ofNode read node = ofEntries read nodes := by
  rw [Node.mapping?] at mapping
  rw [ofNode]
  split at mapping
  · next settled =>
    obtain rfl := Option.some.inj mapping
    rw [settled]
    rfl
  · cases mapping
  · next tag entries other settled =>
    obtain rfl := Option.some.inj mapping
    rw [settled]
    cases tag with
    | own name => exact (other name rfl).elim
    | core kind => cases kind <;> rfl
    | nameless | foreign => rfl
  · cases mapping

private theorem eq_empty_of_ofUntagged {node : Node} {map : OrderedMap α}
    (other : ∀ entries, node ≠ .mapping entries) (given : ofUntagged read node = .ok map) :
    map = empty := by
  cases node with
  | null => exact (Except.ok.inj given).symm
  | mapping entries => exact absurd rfl (other entries)
  | plain source =>
    rw [ofUntagged] at given
    split at given <;> cases given
    rfl
  | _ => cases given

/-- What is no mapping is refused, or read as the empty map. -/
theorem eq_empty_of_mapping?_eq_none {node : Node} {map : OrderedMap α}
    (none : node.mapping? = none) (given : ofNode read node = .ok map) : map = empty := by
  rw [Node.mapping?] at none
  rw [ofNode] at given
  generalize node.settled = settled at none given
  split at given
  · refine eq_empty_of_ofUntagged ?_ given
    rintro entries rfl
    cases none
  · split at given <;> cases given
    rfl
  · split at given <;> cases given
    rfl
  · split at given <;> cases given
    rfl
  · cases none
  · cases none
  · refine eq_empty_of_ofUntagged ?_ given
    rintro entries rfl
    cases none

/-- A map is read from any spelling of what is written of it, if its values are. They may change. -/
theorem ofNode_of_spells {write : β → Value} {f : β → α} {map : OrderedMap β}
    (back : ∀ value ∈ map.values, ∀ {node : Node}, node.spells (write value) →
      read node = .ok (f value))
    {node : Node} (spelled : node.spells (map.toValue write)) :
    ofNode read node = .ok (map.map f) := by
  obtain ⟨nodes, rfl, parts⟩ := Node.mapping_of_spells spelled
  show ofEntries read nodes = _
  rw [ofEntries_eq_ok]
  show List.Forall₂ _ _ (map.entries.map fun entry => (entry.1, f entry.2))
  rw [List.forall₂_map_right_iff] at parts ⊢
  have each : ∀ entry ∈ map.entries, ∀ {node : Node}, node.spells (write entry.2) →
      read node = .ok (f entry.2) := fun entry member => back entry.2 (List.mem_map_of_mem member)
  clear spelled
  generalize map.entries = entries at parts each
  induction parts with
  | nil => exact .nil
  | cons own _ ih =>
    obtain ⟨first, others⟩ := List.forall_mem_cons.mp each
    exact .cons ⟨Node.asText_of_spells own.1, first own.2⟩ (ih others)

end OrderedMap

end NfvCatalog

/-! ## Maps that are worked with

A map may be made of a list or read from a document, and values may be inserted and changed one
after another. The map has the keys in the order in which they were first stored since it was made,
each with the value stored last.
-/

namespace NfvCatalog.OrderedMap

/-- What can be done with a map. -/
inductive Step (α : Type) where
  /-- Insert a value, or replace the one under its key. -/
  | insert (key : String) (value : α)
  /-- Change the value under a key, if there is one. -/
  | update (key : String) (change : α → α)
  /-- Make a new map of a list. -/
  | collect (entries : List (String × α))
  /-- Read a new map from a document. If it is refused, the old one is kept. -/
  | document (node : Node)

variable {α : Type} (read : Node → Except Fault α)

/-- The map after a step. -/
def after (map : OrderedMap α) : Step α → OrderedMap α
  | .insert key value => (map.exchange key value).2
  | .update key change => map.modify key change
  | .collect entries => ofList entries
  | .document node => (ofNode read node).toOption.getD map

/-- The map after steps that start without entries. -/
def run (steps : List (Step α)) : OrderedMap α := steps.foldl (after read) empty

/-- What a step leaves stored: the entries from before with its own behind them, or those of a new
map. -/
def store (stored : List (String × α)) : Step α → List (String × α)
  | .insert key value => stored ++ [(key, value)]
  | .update key change =>
    match Keyed.last? stored key with
    | some value => stored ++ [(key, change value)]
    | none => stored
  | .collect entries => entries
  | .document node =>
    match ofNode read node with
    | .ok map => map.entries
    | .error _ => stored

/-- What steps have stored, one entry after another. -/
def storedBy (steps : List (Step α)) : List (String × α) := steps.foldl (store read) []

/-- In the latest entries of each key, the value stored last is found. -/
theorem get?_eq_last? {map : OrderedMap α} {stored : List (String × α)}
    (kept : map.entries = latest Prod.fst stored) (key : String) :
    map.get? key = Keyed.last? stored key := by
  rw [← get?_latest, ← kept]
  rfl

/-- A step keeps the latest entry of each key. -/
theorem entries_after {map : OrderedMap α} {stored : List (String × α)}
    (kept : map.entries = latest Prod.fst stored) (step : Step α) :
    (after read map step).entries = latest Prod.fst (store read stored step) := by
  have inserted (key : String) (value : α) :
      (map.insert key value).entries = latest Prod.fst (stored ++ [(key, value)]) := by
    rw [entries_insert_eq_putLatest, latest_append_singleton, kept]
  cases step with
  | insert key value =>
    rw [after, exchange_eq]
    exact inserted key value
  | update key change =>
    have found : map.get? key = Keyed.last? stored key := get?_eq_last? kept key
    rw [after, store]
    cases last : Keyed.last? stored key with
    | none => rw [modify_of_get?_eq_none (found.trans last), kept]
    | some value =>
      rw [modify_of_get?_eq_some (found.trans last)]
      exact inserted key (change value)
  | collect entries => exact entries_ofList_eq_latest entries
  | document node =>
    rw [after, store]
    cases ofNode read node with
    | error fault => exact kept
    | ok given => exact (latest_of_nodup Prod.fst given.distinct).symm

theorem entries_run (steps : List (Step α)) :
    (run read steps).entries = latest Prod.fst (storedBy read steps) := by
  induction steps using List.reverseRecOn with
  | nil => rfl
  | append_singleton steps step ih =>
    rw [run, storedBy, List.foldl_append, List.foldl_append]
    exact entries_after read ih step

/-- Whatever is done with a map, its keys are distinct and come in the order in which they were
first stored, each with the value that was stored last. Inserting gives back the value that it
replaces in its place, and a new entry comes last. What is written of a map is read as the same map.
A mapping is accepted exactly if its keys are distinct texts and its values are accepted, and it is
read in its order. Anything else is read as the empty map, if it is accepted. -/
theorem run_keeps_latest (steps : List (Step α)) :
    let map := run read steps
    let stored := storedBy read steps
    map.keys.Nodup ∧ map.keys = (stored.map Prod.fst).eraseDups ∧
      (∀ key, map.get? key = Keyed.last? stored key) ∧
      (∀ key value,
        map.exchange key value = (Keyed.last? stored key, map.insert key value) ∧
        (Keyed.last? stored key = none ↔ key ∉ map.keys) ∧
        (map.insert key value).entries =
          if key ∈ map.keys then
            map.entries.map fun entry => if entry.1 = key then (key, value) else entry
          else map.entries ++ [(key, value)]) ∧
      (∀ write : α → Value,
        (∀ value ∈ map.values, ∀ node : Node, node.spells (write value) → read node = .ok value) →
        ∀ node : Node, node.spells (map.toValue write) → ofNode read node = .ok map) ∧
      (∀ node nodes, node.mapping? = some nodes →
        (∀ given, ofNode read node = .ok given ↔
          List.Forall₂ (ReadsEntry read) nodes given.entries) ∧
        ((∃ given, ofNode read node = .ok given) ↔
          (∃ names, List.Forall₂ (fun node name => node.1.asText = .ok name) nodes names ∧
            names.Nodup) ∧
          ∀ node ∈ nodes, ∃ value, read node.2 = .ok value)) ∧
      ∀ node given, node.mapping? = none → ofNode read node = .ok given → given = empty := by
  intro map stored
  have kept : map.entries = latest Prod.fst stored := entries_run read steps
  have found (key : String) : map.get? key = Keyed.last? stored key := get?_eq_last? kept key
  refine ⟨map.distinct, ?_, found, fun key value => ⟨?_, ?_, entries_insert map key value⟩, ?_, ?_,
    fun node given => eq_empty_of_mapping?_eq_none⟩
  · rw [← map_key_latest, ← kept]
    rfl
  · rw [exchange_eq, found]
  · rw [← found]
    exact Keyed.get?_eq_none_iff
  · intro write back node spelled
    have same := ofNode_of_spells (f := id) (fun value member => @back value member) spelled
    rwa [map_id] at same
  · intro node nodes mapping
    rw [ofNode_of_mapping? mapping]
    exact ⟨fun given => ofEntries_eq_ok, exists_ofEntries_iff⟩

/-- A mapping that is read and then worked with; a second one, which gives a key twice, is
refused. -/
def mixedSteps : List (Step String) :=
  [.document (.mapping [(.plain "zeta", .plain "1"), (.plain "alpha", .plain "2")]),
    .insert "mid" "3", .insert "zeta" "4", .update "alpha" (· ++ "!"),
    .document (.mapping [(.plain "zeta", .plain "5"), (.plain "zeta", .plain "6")])]

theorem mixedSteps_kept :
    (run Node.asText mixedSteps).keys = ["zeta", "alpha", "mid"] ∧
      (run Node.asText mixedSteps).get? "alpha" = some "2!" ∧
      ((run Node.asText mixedSteps).exchange "zeta" "7").1 = some "4" ∧
      ((run Node.asText mixedSteps).exchange "new" "7").1 = none ∧
      ∀ format ∈ [Format.yaml, .json], ∃ node,
        format.read (format.print ((run Node.asText mixedSteps).toValue .string)) = .ok node ∧
          ofNode Node.asText node = .ok (run Node.asText mixedSteps) := by
  obtain ⟨-, keys, values, inserted, readsBack, -⟩ := run_keeps_latest Node.asText mixedSteps
  refine ⟨keys.trans (by decide), (values "alpha").trans (by decide), ?_, ?_, ?_⟩
  · exact (congrArg Prod.fst (inserted "zeta" "7").1).trans (by decide)
  · exact (congrArg Prod.fst (inserted "new" "7").1).trans (by decide)
  · intro format either
    have back : format.GivesBack ((run Node.asText mixedSteps).toValue .string) := by
      revert format
      decide +kernel
    obtain ⟨node, given, spelled⟩ := back
    exact ⟨node, given, readsBack .string (fun _ _ _ => Node.asText_of_spells) node spelled⟩

end NfvCatalog.OrderedMap
