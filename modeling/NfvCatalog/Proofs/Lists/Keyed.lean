import Mathlib.Data.List.Induction
import Mathlib.Data.List.Nodup
import NfvCatalog.Proofs.Lists.Basic
import NfvCatalog.Text.Keyed

/-! # Lists of items with keys

A list may be sorted by the keys of its items, or keep each key at the place of its first item.
-/

/-! ## Lists sorted by a text

Putting a value under a key changes what is found under that key only, and keeps the list sorted. So
a list of distinct keys, put together in any order, has the same entries in sorted order.
-/

namespace NfvCatalog.Keyed

variable {α : Type}

/-- The keys of a list are in order, each once. -/
def Sorted (entries : List (String × α)) : Prop :=
  entries.Pairwise fun left right => left.1 < right.1

theorem mem_put {key : String} {value : α} {entries : List (String × α)} {entry : String × α}
    (member : entry ∈ put key value entries) : entry = (key, value) ∨ entry ∈ entries := by
  induction entries with
  | nil => simpa [put] using member
  | cons first rest ih =>
    rw [put] at member
    grind

theorem sorted_put {entries : List (String × α)} (sorted : Sorted entries) (key : String)
    (value : α) : Sorted (put key value entries) := by
  induction entries with
  | nil => simp [put, Sorted]
  | cons first rest ih =>
    obtain ⟨below, restSorted⟩ := List.pairwise_cons.mp sorted
    rw [put]
    split
    · next same => exact List.pairwise_cons.mpr ⟨same ▸ below, restSorted⟩
    · split
      · next less =>
        refine List.pairwise_cons.mpr ⟨List.forall_mem_cons.mpr ⟨less, fun entry member => ?_⟩,
          sorted⟩
        exact String.lt_trans less (below entry member)
      · next other notLess =>
        refine List.pairwise_cons.mpr ⟨fun entry member => ?_, ih restSorted⟩
        rcases mem_put member with rfl | member
        · exact String.not_le.mp fun le =>
            other (String.le_antisymm le (String.not_lt.mp notLess))
        · exact below entry member

theorem Sorted.nodup {entries : List (String × α)} (sorted : Sorted entries) :
    (entries.map Prod.fst).Nodup := by
  refine List.pairwise_map.mpr (sorted.imp fun {left right} less same => ?_)
  exact String.lt_irrefl right.1 (same ▸ less)

/-- A value takes the place of any other under its key. -/
theorem mem_put_iff {entries : List (String × α)} (sorted : Sorted entries) {key : String}
    {value : α} {entry : String × α} :
    entry ∈ put key value entries ↔ entry = (key, value) ∨ entry ∈ entries ∧ entry.1 ≠ key := by
  induction entries with
  | nil => simp [put]
  | cons first rest ih =>
    obtain ⟨below, restSorted⟩ := List.pairwise_cons.mp sorted
    have later {other : String × α} (member : other ∈ rest) : other.1 ≠ first.1 := fun same =>
      String.lt_irrefl first.1 (same ▸ below other member)
    rw [put]
    split
    · next same =>
      subst same
      grind
    · next other =>
      split
      · next less =>
        have absent : ∀ other ∈ first :: rest, other.1 ≠ key := by
          intro other member same
          rcases List.mem_cons.mp member with rfl | member
          · exact String.lt_irrefl key (same ▸ less)
          · exact String.lt_irrefl first.1 (String.lt_trans (same ▸ below other member) less)
        grind
      · rw [List.mem_cons, List.mem_cons, ih restSorted]
        grind

theorem sorted_ofList (entries : List (String × α)) : Sorted (ofList entries) := by
  have step (done : List (String × α)) (sorted : Sorted done) :
      Sorted (entries.foldl (fun done entry => put entry.1 entry.2 done) done) := by
    induction entries generalizing done with
    | nil => exact sorted
    | cons entry rest ih => exact ih _ (sorted_put sorted entry.1 entry.2)
  exact step [] .nil

private theorem mem_of_mem_foldl_put {entries done : List (String × α)} {entry : String × α}
    (member : entry ∈ entries.foldl (fun done entry => put entry.1 entry.2 done) done) :
    entry ∈ done ∨ entry ∈ entries := by
  induction entries generalizing done with
  | nil => exact .inl member
  | cons first rest ih =>
    rcases ih member with inDone | inRest
    · rcases mem_put inDone with rfl | inDone
      · exact .inr (List.mem_cons_self ..)
      · exact .inl inDone
    · exact .inr (List.mem_cons_of_mem _ inRest)

/-- What is put together was there. -/
theorem mem_of_mem_ofList {entries : List (String × α)} {entry : String × α}
    (member : entry ∈ ofList entries) : entry ∈ entries :=
  (mem_of_mem_foldl_put member).resolve_left List.not_mem_nil

/-- Of entries with distinct keys none gets lost. -/
theorem mem_ofList {entries : List (String × α)} (distinct : (entries.map Prod.fst).Nodup)
    (entry : String × α) : entry ∈ ofList entries ↔ entry ∈ entries := by
  have step (done : List (String × α)) (sorted : Sorted done)
      (apart : ∀ first ∈ done, ∀ later ∈ entries, first.1 ≠ later.1) :
      entry ∈ entries.foldl (fun done entry => put entry.1 entry.2 done) done ↔
        entry ∈ done ∨ entry ∈ entries := by
    induction entries generalizing done with
    | nil => simp
    | cons first rest ih =>
      rw [List.map_cons, List.nodup_cons] at distinct
      have fresh : ∀ later ∈ rest, first.1 ≠ later.1 := fun later member same =>
        distinct.1 (same ▸ List.mem_map_of_mem member)
      rw [List.foldl_cons, ih distinct.2 _ (sorted_put sorted first.1 first.2), mem_put_iff sorted]
      · grind
      · intro earlier member later within
        rcases mem_put member with rfl | member
        · exact fresh later within
        · exact apart earlier member later (List.mem_cons_of_mem _ within)
  rw [ofList, step [] .nil (by simp)]
  simp

/-- Among distinct keys the value under a key is that of its entry. -/
theorem get?_eq_some_iff {entries : List (String × α)} (distinct : (entries.map Prod.fst).Nodup)
    {key : String} {value : α} : get? entries key = some value ↔ (key, value) ∈ entries := by
  constructor
  · intro found
    obtain ⟨entry, hit, rfl⟩ := Option.map_eq_some_iff.mp found
    obtain rfl : entry.1 = key := by simpa using List.find?_some hit
    exact List.mem_of_find?_eq_some hit
  · intro member
    rw [get?, find?_key Prod.fst distinct member]
    rfl

/-- The first of two entries with the same key counts. -/
theorem get?_append (front back : List (String × α)) (key : String) :
    get? (front ++ back) key = (get? front key).or (get? back key) := by
  rw [get?, List.find?_append, Option.map_or]
  rfl

theorem get?_eq_none_iff {entries : List (String × α)} {key : String} :
    get? entries key = none ↔ key ∉ entries.map Prod.fst := by
  rw [get?, Option.map_eq_none_iff, List.find?_eq_none]
  grind

/-- What is put under a key is found there, and all else as before. -/
theorem get?_put (key : String) (value : α) (entries : List (String × α)) (other : String) :
    get? (put key value entries) other =
      if key = other then some value else get? entries other := by
  induction entries with
  | nil => by_cases same : key = other <;> simp [put, get?, same]
  | cons first rest ih =>
    rw [get?] at ih
    rw [put]
    split
    · next here => by_cases same : key = other <;> simp [get?, same, ← here]
    · next apart =>
      split
      · by_cases same : key = other <;> simp [get?, same]
      · by_cases here : first.1 = other
        · have other : key ≠ other := fun same => apart (same.trans here.symm)
          simp [get?, here, other]
        · simp [get?, here, ih]

/-- The value that comes last under a key. -/
def last? (entries : List (String × α)) (key : String) : Option α := get? entries.reverse key

theorem last?_append_singleton (entries : List (String × α)) (entry : String × α) (key : String) :
    last? (entries ++ [entry]) key = if entry.1 = key then some entry.2 else last? entries key := by
  rw [last?, List.reverse_concat]
  by_cases same : entry.1 = key <;> simp [last?, get?, same]

/-- In a list that is put together, the last value of a key counts. -/
theorem get?_ofList (entries : List (String × α)) (key : String) :
    get? (ofList entries) key = last? entries key := by
  induction entries using List.reverseRecOn with
  | nil => rfl
  | append_singleton done entry ih =>
    have step : ofList (done ++ [entry]) = put entry.1 entry.2 (ofList done) := by
      simp [ofList]
    rw [step, get?_put, ih, last?_append_singleton]

theorem mem_ofList_iff_last? {entries : List (String × α)} {key : String} {value : α} :
    (key, value) ∈ ofList entries ↔ last? entries key = some value := by
  rw [← get?_ofList, get?_eq_some_iff (sorted_ofList entries).nodup]

end NfvCatalog.Keyed

/-! ## The latest item of each key

Collecting items under keys: an item whose key is there already takes the place of the one before,
and any other comes last. So each key keeps the place of its first item and has its last one.
-/

namespace NfvCatalog

variable {α β κ : Type} [DecidableEq κ] (key : α → κ)

/-- Put an item in place of the one with its key, or else at the end. -/
def putLatest (item : α) : List α → List α
  | [] => [item]
  | first :: rest => if key first = key item then item :: rest else first :: putLatest item rest

/-- The latest item of each key, in the order in which the keys first occur. -/
def latest (items : List α) : List α := items.foldl (fun done item => putLatest key item done) []

theorem mem_keys_putLatest (item : α) (items : List α) (k : κ) :
    k ∈ (putLatest key item items).map key ↔ k = key item ∨ k ∈ items.map key := by
  induction items with
  | nil => simp [putLatest]
  | cons first rest ih =>
    by_cases same : key first = key item
    · simp [putLatest, same]
    · simp only [putLatest, same, if_false, List.map_cons, List.mem_cons, ih]
      tauto

theorem putLatest_of_not_mem {item : α} {items : List α} (absent : key item ∉ items.map key) :
    putLatest key item items = items ++ [item] := by
  induction items with
  | nil => rfl
  | cons first rest ih =>
    simp only [List.map_cons, List.mem_cons, not_or] at absent
    have other : key first ≠ key item := fun same => absent.1 same.symm
    simp [putLatest, other, ih absent.2]

/-- In a list of distinct keys the item of a known key is replaced, and nothing moves. -/
theorem putLatest_of_mem {item : α} {items : List α} (distinct : (items.map key).Nodup)
    (known : key item ∈ items.map key) :
    putLatest key item items =
      items.map fun other => if key other = key item then item else other := by
  induction items with
  | nil => cases known
  | cons first rest ih =>
    obtain ⟨absent, restDistinct⟩ := List.nodup_cons.mp distinct
    by_cases same : key first = key item
    · have others : rest.map (fun other => if key other = key item then item else other) = rest :=
        listMap_eq_self.mpr fun other member =>
          if_neg fun again : key other = key item =>
            absent (same.trans again.symm ▸ List.mem_map_of_mem member)
      rw [putLatest, if_pos same, List.map_cons, if_pos same, others]
    · have later : key item ∈ rest.map key :=
        (List.mem_cons.mp known).resolve_left fun equal => same equal.symm
      rw [putLatest, if_neg same, List.map_cons, if_neg same, ih restDistinct later]

theorem nodup_keys_putLatest (item : α) {items : List α} (distinct : (items.map key).Nodup) :
    ((putLatest key item items).map key).Nodup := by
  induction items with
  | nil => simp [putLatest]
  | cons first rest ih =>
    simp only [List.map_cons, List.nodup_cons] at distinct
    by_cases same : key first = key item
    · rw [putLatest, if_pos same, List.map_cons, ← same]
      exact List.nodup_cons.mpr distinct
    · have step : putLatest key item (first :: rest) = first :: putLatest key item rest := by
        simp [putLatest, same]
      rw [step, List.map_cons, List.nodup_cons, mem_keys_putLatest]
      refine ⟨?_, ih distinct.2⟩
      rintro (equal | member)
      · exact same equal
      · exact distinct.1 member

private theorem nodup_keys_foldl (items : List α) {done : List α}
    (distinct : (done.map key).Nodup) :
    ((items.foldl (fun done item => putLatest key item done) done).map key).Nodup := by
  induction items generalizing done with
  | nil => exact distinct
  | cons item rest ih => exact ih (nodup_keys_putLatest key item distinct)

/-- Each key occurs once. -/
theorem nodup_keys_latest (items : List α) : ((latest key items).map key).Nodup :=
  nodup_keys_foldl key items List.nodup_nil

private theorem mem_keys_foldl (items done : List α) (k : κ) :
    k ∈ (items.foldl (fun done item => putLatest key item done) done).map key ↔
      k ∈ done.map key ∨ k ∈ items.map key := by
  induction items generalizing done with
  | nil => simp
  | cons item rest ih =>
    rw [List.foldl_cons, ih, mem_keys_putLatest, List.map_cons, List.mem_cons]
    tauto

/-- No key is lost and none is added. -/
theorem mem_keys_latest (items : List α) (k : κ) :
    k ∈ (latest key items).map key ↔ k ∈ items.map key :=
  (mem_keys_foldl key items [] k).trans (by simp)

@[simp] theorem latest_eq_nil {items : List α} : latest key items = [] ↔ items = [] := by
  constructor
  · intro empty
    cases items with
    | nil => rfl
    | cons item rest =>
      have kept := (mem_keys_latest key (item :: rest) (key item)).mpr (List.mem_cons_self ..)
      rw [empty] at kept
      cases kept
  · rintro rfl
    rfl

private theorem foldl_of_nodup (items done : List α) (distinct : ((done ++ items).map key).Nodup) :
    items.foldl (fun done item => putLatest key item done) done = done ++ items := by
  induction items generalizing done with
  | nil => simp
  | cons item rest ih =>
    have absent : key item ∉ done.map key := by
      rw [List.map_append, List.map_cons] at distinct
      exact fun member => List.disjoint_of_nodup_append distinct member (List.mem_cons_self ..)
    rw [List.foldl_cons, putLatest_of_not_mem key absent, ih _ (by simpa using distinct)]
    simp

/-- Items of distinct keys stay as they are. -/
theorem latest_of_nodup {items : List α} (distinct : (items.map key).Nodup) :
    latest key items = items := by
  simpa [latest] using foldl_of_nodup key items [] (by simpa using distinct)

/-- Collecting twice is collecting once. -/
theorem latest_latest (items : List α) : latest key (latest key items) = latest key items :=
  latest_of_nodup key (nodup_keys_latest key items)

private theorem mem_of_mem_putLatest {item other : α} {items : List α}
    (member : other ∈ putLatest key item items) : other = item ∨ other ∈ items := by
  induction items with
  | nil => simpa [putLatest] using member
  | cons first rest ih =>
    by_cases same : key first = key item
    · rw [putLatest, if_pos same] at member
      exact (List.mem_cons.mp member).imp_right (List.mem_cons_of_mem _)
    · rw [putLatest, if_neg same] at member
      rcases List.mem_cons.mp member with rfl | member
      · exact .inr (List.mem_cons_self ..)
      · exact (ih member).imp_right (List.mem_cons_of_mem _)

private theorem mem_of_mem_foldl {other : α} (items done : List α)
    (member : other ∈ items.foldl (fun done item => putLatest key item done) done) :
    other ∈ done ∨ other ∈ items := by
  induction items generalizing done with
  | nil => exact .inl member
  | cons item rest ih =>
    rcases ih _ member with inDone | inRest
    · rcases mem_of_mem_putLatest key inDone with rfl | inDone
      · exact .inr (List.mem_cons_self ..)
      · exact .inl inDone
    · exact .inr (List.mem_cons_of_mem _ inRest)

/-- What is collected was there. -/
theorem mem_of_mem_latest {other : α} {items : List α} (member : other ∈ latest key items) :
    other ∈ items := by
  simpa using mem_of_mem_foldl key items [] member

/-- The last item comes in place of the one with its key. -/
theorem latest_append_singleton (items : List α) (item : α) :
    latest key (items ++ [item]) = putLatest key item (latest key items) := by
  rw [latest, List.foldl_append]
  rfl

private theorem map_key_putLatest (item : α) (items : List α) :
    (putLatest key item items).map key =
      if key item ∈ items.map key then items.map key else items.map key ++ [key item] := by
  by_cases known : key item ∈ items.map key
  · rw [if_pos known]
    induction items with
    | nil => cases known
    | cons first rest ih =>
      by_cases same : key first = key item
      · rw [putLatest, if_pos same, List.map_cons, List.map_cons, same]
      · have later : key item ∈ rest.map key :=
          (List.mem_cons.mp known).resolve_left fun equal => same equal.symm
        rw [putLatest, if_neg same, List.map_cons, List.map_cons, ih later]
  · rw [if_neg known, putLatest_of_not_mem key known, List.map_append, List.map_singleton]

/-- The keys come in the order in which they first occur. -/
theorem map_key_latest (items : List α) :
    (latest key items).map key = (items.map key).eraseDups := by
  induction items using List.reverseRecOn with
  | nil => rfl
  | append_singleton items item ih =>
    rw [latest_append_singleton, map_key_putLatest, ih, List.map_append, List.map_singleton,
      List.eraseDups_append]
    generalize items.map key = keys
    by_cases known : key item ∈ keys
    · simp [known, List.removeAll]
    · simp [known, List.removeAll, List.eraseDups_cons]

private theorem mem_putLatest_of_nodup {item other : α} {items : List α}
    (distinct : (items.map key).Nodup) (member : other ∈ putLatest key item items) :
    other = item ∨ other ∈ items ∧ key other ≠ key item := by
  induction items with
  | nil => exact .inl (List.mem_singleton.mp member)
  | cons first rest ih =>
    obtain ⟨absent, restDistinct⟩ := List.nodup_cons.mp distinct
    by_cases same : key first = key item
    · rw [putLatest, if_pos same] at member
      refine (List.mem_cons.mp member).imp_right fun later => ⟨List.mem_cons_of_mem _ later, ?_⟩
      intro again
      exact absent (same.trans again.symm ▸ List.mem_map_of_mem later)
    · rw [putLatest, if_neg same] at member
      rcases List.mem_cons.mp member with rfl | later
      · exact .inr ⟨List.mem_cons_self .., same⟩
      · exact (ih restDistinct later).imp_right fun old => ⟨List.mem_cons_of_mem _ old.1, old.2⟩

/-- What is collected under a key is the last item with it. -/
theorem getLast?_filter_of_mem_latest {other : α} {items : List α}
    (member : other ∈ latest key items) :
    (items.filter fun item => key item = key other).getLast? = some other := by
  induction items using List.reverseRecOn with
  | nil => cases member
  | append_singleton items item ih =>
    rw [latest_append_singleton] at member
    rw [List.filter_append]
    rcases mem_putLatest_of_nodup key (nodup_keys_latest key items) member with
      rfl | ⟨before, different⟩
    · simp
    · have apart : key item ≠ key other := fun same => different same.symm
      simpa [apart] using ih before

/-- Items are those of a list, collected under their keys: the keys come in the order in which they
first occur, each with its last item. So items of distinct keys are all kept. -/
structure CollectedFrom (kept items : List α) : Prop where
  keys : kept.map key = (items.map key).eraseDups
  last : ∀ item ∈ kept, (items.filter fun other => key other = key item).getLast? = some item
  same : (items.map key).Nodup → kept = items

theorem latest_collectedFrom (items : List α) : CollectedFrom key (latest key items) items :=
  ⟨map_key_latest key items, fun _ member => getLast?_filter_of_mem_latest key member,
    latest_of_nodup key⟩

/-- Putting a value under a key changes what is found under that key only. -/
theorem get?_putLatest (entry : String × α) (entries : List (String × α)) (other : String) :
    Keyed.get? (putLatest Prod.fst entry entries) other =
      if entry.1 = other then some entry.2 else Keyed.get? entries other := by
  induction entries with
  | nil => by_cases here : entry.1 = other <;> simp [putLatest, Keyed.get?, here]
  | cons first rest ih =>
    simp only [Keyed.get?] at ih ⊢
    by_cases same : first.1 = entry.1
    · rw [putLatest, if_pos same]
      by_cases here : entry.1 = other <;> simp [here, same]
    · rw [putLatest, if_neg same]
      by_cases here : first.1 = other
      · have apart : entry.1 ≠ other := fun equal => same (here.trans equal.symm)
        simp [here, apart]
      · simp [here, ih]

/-- What is found under a key is the last value with it. -/
theorem get?_latest (entries : List (String × α)) (other : String) :
    Keyed.get? (latest Prod.fst entries) other = Keyed.last? entries other := by
  induction entries using List.reverseRecOn with
  | nil => rfl
  | append_singleton entries entry ih =>
    rw [latest_append_singleton, get?_putLatest, ih, Keyed.last?_append_singleton]

variable {key} {ν : Type} [DecidableEq ν]

private theorem putLatest_map {f : α → β} {other : β → ν} {item : α} {items : List α}
    (same : ∀ a ∈ items, other (f a) = other (f item) ↔ key a = key item) :
    putLatest other (f item) (items.map f) = (putLatest key item items).map f := by
  induction items with
  | nil => rfl
  | cons first rest ih =>
    have others := ih fun a member => same a (List.mem_cons_of_mem _ member)
    by_cases equal : key first = key item
    · rw [List.map_cons, putLatest, putLatest, if_pos equal,
        if_pos ((same first (List.mem_cons_self ..)).mpr equal), List.map_cons]
    · rw [List.map_cons, putLatest, putLatest, if_neg equal,
        if_neg fun h => equal ((same first (List.mem_cons_self ..)).mp h), others, List.map_cons]

/-- Collecting under keys that tell the same items apart. -/
theorem latest_map {f : α → β} {other : β → ν} {items : List α}
    (same : ∀ a ∈ items, ∀ b ∈ items, other (f a) = other (f b) ↔ key a = key b) :
    latest other (items.map f) = (latest key items).map f := by
  -- What is collected so far comes from the items, so its keys are told apart alike.
  have step (rest done : List α) (within : ∀ a ∈ done, a ∈ items)
      (restWithin : ∀ a ∈ rest, a ∈ items) :
      (rest.map f).foldl (fun done item => putLatest other item done) (done.map f) =
        (rest.foldl (fun done item => putLatest key item done) done).map f := by
    induction rest generalizing done with
    | nil => rfl
    | cons item rest ih =>
      have inItems := restWithin item (List.mem_cons_self ..)
      rw [List.map_cons, List.foldl_cons, List.foldl_cons,
        putLatest_map fun a member => same a (within a member) item inItems]
      refine ih _ (fun a member => ?_) fun a member => restWithin a (List.mem_cons_of_mem _ member)
      rcases mem_of_mem_putLatest key member with rfl | member
      · exact inItems
      · exact within a member
  exact step items [] (by simp) fun _ member => member

end NfvCatalog
