import Mathlib.Data.List.Sort

/-! # Stable sorting

A stable sort by a key orders the items and leaves those of each key in their order, and there is
one list only that does so. With numbers for keys, the ranks, the sorted list is the concatenation
of what each rank selects.
-/

namespace NfvCatalog

/-! ## Keys -/

section Key

variable {α κ : Type} [LinearOrder κ] {key : α → κ}

/-- A list is another one in the order of a key, and the items of each key stay in their order. -/
structure SortedByKey (key : α → κ) (sorted items : List α) : Prop where
  ordered : sorted.Pairwise fun a b => key a ≤ key b
  stable : ∀ k, sorted.filter (fun item => key item = k) = items.filter fun item => key item = k

private theorem key_trans (a b c : α) (first : decide (key a ≤ key b) = true)
    (second : decide (key b ≤ key c) = true) : decide (key a ≤ key c) = true :=
  decide_eq_true ((of_decide_eq_true first).trans (of_decide_eq_true second))

private theorem key_total (a b : α) :
    (decide (key a ≤ key b) || decide (key b ≤ key a)) = true := by
  rw [Bool.or_eq_true, decide_eq_true_eq, decide_eq_true_eq]
  exact le_total _ _

theorem sortedByKey_mergeSort (key : α → κ) (items : List α) :
    SortedByKey key (items.mergeSort fun a b => key a ≤ key b) items where
  ordered := (List.pairwise_mergeSort key_trans key_total items).imp of_decide_eq_true
  stable k := by
    have level : (items.filter fun item => key item = k).Pairwise
        fun a b => decide (key a ≤ key b) = true := by
      refine List.pairwise_of_forall_mem_list fun a aMember b bMember => decide_eq_true ?_
      rw [of_decide_eq_true (List.mem_filter.mp aMember).2,
        of_decide_eq_true (List.mem_filter.mp bMember).2]
    have inside := (List.sublist_mergeSort key_trans key_total level
      List.filter_sublist).filter fun item => key item = k
    rw [List.filter_filter, List.filter_congr (q := fun item => decide (key item = k))
      (fun item _ => by simp)] at inside
    have size := ((List.mergeSort_perm items fun a b => key a ≤ key b).filter
      fun item => key item = k).length_eq
    exact (inside.eq_of_length size.symm).symm

/-- The first of sorted items has the least key. -/
private theorem key_le_of_mem {a b : α} {rest : List α}
    (ordered : (a :: rest).Pairwise fun a b => key a ≤ key b) (member : b ∈ a :: rest) :
    key a ≤ key b := by
  rcases List.mem_cons.mp member with rfl | member
  · exact le_refl _
  · exact (List.pairwise_cons.mp ordered).1 b member

/-- There is one way only to sort a list stably. -/
theorem SortedByKey.unique {first second items : List α} (sorts : SortedByKey key first items)
    (sortsToo : SortedByKey key second items) : first = second := by
  have same (k : κ) : first.filter (fun item => key item = k) =
      second.filter fun item => key item = k := (sorts.stable k).trans (sortsToo.stable k).symm
  have ordered := sorts.ordered
  have orderedToo := sortsToo.ordered
  clear sorts sortsToo
  induction first generalizing second with
  | nil =>
    cases second with
    | nil => rfl
    | cons b others => simpa using same (key b)
  | cons a rest ih =>
    cases second with
    | nil => simpa using same (key a)
    | cons b others =>
      have keys : key a = key b := by
        refine le_antisymm (key_le_of_mem ordered ?_) (key_le_of_mem orderedToo ?_)
        · have member : b ∈ (b :: others).filter fun item => key item = key b := by simp
          exact (List.mem_filter.mp (same (key b) ▸ member)).1
        · have member : a ∈ (a :: rest).filter fun item => key item = key a := by simp
          exact (List.mem_filter.mp (same (key a) ▸ member)).1
      have heads := same (key a)
      rw [List.filter_cons_of_pos (by simp), List.filter_cons_of_pos (by simp [keys])] at heads
      obtain rfl := (List.cons.inj heads).1
      refine congrArg (a :: ·) (ih (fun k => ?_) ordered.of_cons orderedToo.of_cons)
      by_cases own : key a = k
      · subst own
        exact (List.cons.inj heads).2
      · have others := same k
        rwa [List.filter_cons_of_neg (by simpa using own),
          List.filter_cons_of_neg (by simpa using own)] at others

/-- Lists with the same items of each key are the same after sorting. -/
theorem SortedByKey.eq_of_filter {first second items others : List α}
    (sorts : SortedByKey key first items) (sortsToo : SortedByKey key second others)
    (same : ∀ k, items.filter (fun item => key item = k) = others.filter fun item => key item = k) :
    first = second :=
  sorts.unique ⟨sortsToo.ordered, fun k => (sortsToo.stable k).trans (same k).symm⟩

end Key

/-! ## Ranks -/

variable {α : Type} (rank : α → Nat)

theorem sorted_mergeSort (items : List α) :
    (items.mergeSort fun a b => rank a ≤ rank b).Pairwise fun a b => rank a ≤ rank b :=
  (sortedByKey_mergeSort rank items).ordered

/-- In a sorted list the items of the greatest rank are a tail. -/
private theorem filter_lt_append_filter_eq (top : Nat) (items : List α)
    (sorted : items.Pairwise fun a b => rank a ≤ rank b)
    (bound : ∀ item ∈ items, rank item < top + 1) :
    items.filter (fun item => rank item < top) ++ items.filter (fun item => rank item = top) =
      items := by
  induction items with
  | nil => rfl
  | cons item rest ih =>
    obtain ⟨least, tail⟩ := List.pairwise_cons.mp sorted
    have tailBound := fun other member => bound other (List.mem_cons_of_mem _ member)
    by_cases low : rank item < top
    · have high : rank item ≠ top := by omega
      rw [List.filter_cons_of_pos (by simpa using low),
        List.filter_cons_of_neg (by simpa using high), List.cons_append]
      exact congrArg (item :: ·) (ih tail tailBound)
    · have highest : rank item = top := by
        have := bound item (List.mem_cons_self ..)
        omega
      have none_low : rest.filter (fun item => rank item < top) = [] := by
        refine List.filter_eq_nil_iff.mpr fun other member => ?_
        have := least other member
        simp only [decide_eq_true_eq]
        omega
      have all_top : rest.filter (fun item => rank item = top) = rest := by
        refine List.filter_eq_self.mpr fun other member => ?_
        have := least other member
        have := tailBound other member
        simp only [decide_eq_true_eq]
        omega
      rw [List.filter_cons_of_neg (by simpa using low),
        List.filter_cons_of_pos (by simpa using highest), none_low, all_top, List.nil_append]

private theorem flatMap_filter_of_pairwise (count : Nat) (items : List α)
    (sorted : items.Pairwise fun a b => rank a ≤ rank b)
    (bound : ∀ item ∈ items, rank item < count) :
    (List.range count).flatMap (fun r => items.filter fun item => rank item = r) = items := by
  induction count generalizing items with
  | zero =>
    cases items with
    | nil => rfl
    | cons item rest => exact absurd (bound item (List.mem_cons_self ..)) (Nat.not_lt_zero _)
  | succ count ih =>
    have lower : (List.range count).flatMap (fun r => items.filter fun item => rank item = r) =
        items.filter (fun item => rank item < count) := by
      rw [← ih (items.filter fun item => rank item < count) (sorted.filter _)
        (fun item member => by simpa using (List.mem_filter.mp member).2)]
      refine List.flatMap_congr fun r member => ?_
      rw [List.filter_filter]
      refine List.filter_congr fun item _ => ?_
      have := List.mem_range.mp member
      by_cases same : rank item = r <;> simp [same, this]
    rw [List.range_succ, List.flatMap_append, lower, List.flatMap_singleton]
    exact filter_lt_append_filter_eq rank count items sorted bound

/-- Stability: what a rank selects is the same before and after sorting. -/
theorem filter_mergeSort_rank (r : Nat) (items : List α) :
    (items.mergeSort fun a b => rank a ≤ rank b).filter (fun item => rank item = r) =
      items.filter fun item => rank item = r :=
  (sortedByKey_mergeSort rank items).stable r

/-- A stable sort by rank is what each rank selects, one rank after another. -/
theorem mergeSort_rank (count : Nat) (items : List α)
    (bound : ∀ item ∈ items, rank item < count) :
    items.mergeSort (fun a b => rank a ≤ rank b) =
      (List.range count).flatMap fun r => items.filter fun item => rank item = r := by
  rw [← flatMap_filter_of_pairwise rank count _ (sorted_mergeSort rank items)
    (fun item member => bound item (List.mem_mergeSort.mp member))]
  exact List.flatMap_congr fun r _ => filter_mergeSort_rank rank r items

/-- A list is another one in the order of ranks, and the items of each rank stay in their order. -/
structure StablySorted (sorted items : List α) : Prop where
  ordered : sorted.Pairwise fun a b => rank a ≤ rank b
  stable : ∀ r, sorted.filter (fun item => rank item = r) = items.filter fun item => rank item = r

theorem stablySorted_mergeSort (items : List α) :
    StablySorted rank (items.mergeSort fun a b => rank a ≤ rank b) items :=
  ⟨sorted_mergeSort rank items, fun r => filter_mergeSort_rank rank r items⟩

/-- To sort by a word is to sort by the number that it stands for. -/
theorem mergeSort_word (key : α → UInt32) (items : List α) :
    items.mergeSort (fun a b => key a ≤ key b) =
      items.mergeSort fun a b => (key a).toNat ≤ (key b).toNat := rfl

/-- There is one way only to sort a list stably by rank. -/
theorem StablySorted.eq_mergeSort {sorted items : List α} (sorts : StablySorted rank sorted items) :
    sorted = items.mergeSort fun a b => rank a ≤ rank b :=
  SortedByKey.unique ⟨sorts.ordered, sorts.stable⟩ (sortedByKey_mergeSort rank items)

end NfvCatalog
