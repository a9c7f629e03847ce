import Mathlib.Order.Bounds.Defs
import NfvCatalog.Proofs.Lists.Basic
import NfvCatalog.Proofs.Outcome
import NfvCatalog.Translation.Assembly

/-! # Member indices

Indices that are asked for are given if no two of them are equal. Functions that ask for none are
numbered one after another with the smallest indices that are still free. All indices that are given
are different, which leaves none to give when there are more functions than indices. An assembled
service has a next index for one more constituent.
-/

namespace NfvCatalog.Translation

/-- The indices that functions ask for, in order. -/
def askedIndices (functions : List FunctionDraft) : List UInt32 := functions.filterMap (·.index)

private theorem askedIndices_cons (function : FunctionDraft) (rest : List FunctionDraft) :
    askedIndices (function :: rest) = function.index.toList ++ askedIndices rest := by
  cases own : function.index <;> simp [askedIndices, own]

private theorem duplicateIndex?_eq_none {functions : List FunctionDraft} (seen : List UInt32) :
    duplicateIndex? seen functions = none ↔
      (askedIndices functions).Nodup ∧ ∀ index ∈ askedIndices functions, index ∉ seen := by
  induction functions generalizing seen with
  | nil => simp [duplicateIndex?, askedIndices]
  | cons function rest ih =>
    cases own : function.index with
    | none => simp [duplicateIndex?, askedIndices_cons, own, ih]
    | some index =>
      by_cases taken : index ∈ seen
      · simp [duplicateIndex?, askedIndices_cons, own, taken]
      · simp only [duplicateIndex?, askedIndices_cons, own, taken, if_false, Option.toList_some,
          List.singleton_append]
        rw [ih, List.nodup_cons, List.forall_mem_cons]
        constructor
        · rintro ⟨distinct, fresh⟩
          exact ⟨⟨fun member => fresh index member (List.mem_cons_self ..), distinct⟩, taken,
            fun other member inSeen => fresh other member (List.mem_cons_of_mem _ inSeen)⟩
        · rintro ⟨⟨absent, distinct⟩, -, fresh⟩
          refine ⟨distinct, fun other member inSeen => ?_⟩
          rcases List.mem_cons.mp inSeen with rfl | inSeen
          · exact absent member
          · exact fresh other member inSeen

/-- Indices are given exactly if no index is asked for twice and there are enough of them. -/
theorem memberIndices_eq_ok {functions : List FunctionDraft} {given : List UInt32} :
    memberIndices functions = .ok given ↔
      (askedIndices functions).Nodup ∧ functions.length ≤ UInt32.size ∧
        given = assignIndices (askedIndices functions) functions := by
  have distinct := @duplicateIndex?_eq_none functions []
  cases duplicate : duplicateIndex? [] functions with
  | some index =>
    have repeated : ¬ (askedIndices functions).Nodup := fun nodup => by
      simpa [duplicate] using distinct.mpr ⟨nodup, by simp⟩
    simp [memberIndices, duplicate, repeated]
  | none =>
    have nodup := (distinct.mp duplicate).1
    by_cases room : functions.length ≤ UInt32.size
    · simp only [memberIndices, duplicate, room, if_true, Except.ok.injEq, nodup, true_and]
      exact eq_comm
    · simp [memberIndices, duplicate, room]

/-- If the indices are not given, one of them is reported. -/
theorem memberIndices_error {functions : List FunctionDraft}
    (refused : ∀ given, memberIndices functions ≠ .ok given) :
    ∃ index, memberIndices functions = .error (.duplicateIndex index) := by
  cases duplicate : duplicateIndex? [] functions with
  | some index => exact ⟨index, by rw [memberIndices, duplicate]⟩
  | none =>
    by_cases room : functions.length ≤ UInt32.size
    · exact absurd (by rw [memberIndices, duplicate]; exact if_pos room) (refused _)
    · exact ⟨0, by rw [memberIndices, duplicate]; exact if_neg room⟩

/-! ## Indices that are asked for -/

/-- There are no more different indices than numbers of their width. -/
theorem length_le_of_nodup {indices : List UInt32} (distinct : indices.Nodup) :
    indices.length ≤ UInt32.size := by
  have numbers : (indices.map UInt32.toNat).Nodup :=
    distinct.map fun _ _ same => UInt32.toNat_inj.mp same
  have within : indices.map UInt32.toNat ⊆ List.range UInt32.size := by
    intro number member
    obtain ⟨index, -, rfl⟩ := List.mem_map.mp member
    exact List.mem_range.mpr index.toNat_lt
  simpa using numbers.length_le_of_subset within

private theorem assignIndices_asked {functions : List FunctionDraft} {indices : List UInt32}
    (asked : functions.map (·.index) = indices.map some) (used : List UInt32) :
    assignIndices used functions = indices := by
  induction functions generalizing indices with
  | nil => simpa [assignIndices] using asked
  | cons function rest ih =>
    cases indices with
    | nil => cases asked
    | cons index others =>
      obtain ⟨own, restAsked⟩ := List.cons.inj asked
      have own : function.index = some index := own
      rw [assignIndices, own]
      exact congrArg (index :: ·) (ih restAsked)

/-- Functions that all ask for an index get it exactly if no two ask for the same. -/
theorem memberIndices_asked {functions : List FunctionDraft} {indices : List UInt32}
    (asked : functions.map (·.index) = indices.map some) (given : List UInt32) :
    memberIndices functions = .ok given ↔ indices.Nodup ∧ given = indices := by
  have all : askedIndices functions = indices := by
    have listed : askedIndices functions = (functions.map (·.index)).filterMap fun own => own := by
      rw [List.filterMap_map]
      rfl
    rw [listed, asked, List.filterMap_map]
    exact List.filterMap_some
  have count : functions.length = indices.length := by simpa using congrArg List.length asked
  rw [memberIndices_eq_ok, all, assignIndices_asked asked, count]
  exact and_congr_right fun distinct => and_iff_right (length_le_of_nodup distinct)

/-! ## Indices that are made up -/

/-- The smallest free indices, one after another. -/
def freshIndices (used : List UInt32) : Nat → List UInt32
  | 0 => []
  | count + 1 => firstFree used :: freshIndices (firstFree used :: used) count

@[simp] theorem length_freshIndices (used : List UInt32) (count : Nat) :
    (freshIndices used count).length = count := by
  induction count generalizing used with
  | zero => rfl
  | succ count ih => rw [freshIndices, List.length_cons, ih]

private theorem assignIndices_unasked {functions : List FunctionDraft}
    (unasked : ∀ function ∈ functions, function.index = none) (used : List UInt32) :
    assignIndices used functions = freshIndices used functions.length := by
  induction functions generalizing used with
  | nil => rfl
  | cons function rest ih =>
    rw [assignIndices, unasked function (List.mem_cons_self ..)]
    exact congrArg (firstFree used :: ·)
      (ih (fun other member => unasked other (List.mem_cons_of_mem _ member)) _)

/-- Functions that ask for no index get the smallest ones, exactly if there are enough. -/
theorem memberIndices_unasked {functions : List FunctionDraft}
    (unasked : ∀ function ∈ functions, function.index = none) (given : List UInt32) :
    memberIndices functions = .ok given ↔
      functions.length ≤ UInt32.size ∧ given = freshIndices [] functions.length := by
  have none_asked : askedIndices functions = [] := by
    rw [askedIndices, List.filterMap_eq_nil_iff]
    exact unasked
  rw [memberIndices_eq_ok, none_asked, assignIndices_unasked unasked]
  exact and_iff_right List.nodup_nil

/-! ## Indices that are given -/

/-- The indices that are tried one after another are all different. -/
private theorem distinct_tries {used : List UInt32} (room : used.length < UInt32.size) :
    ((List.range (used.length + 1)).map fun n => UInt32.ofNat (n + 1)).Nodup := by
  refine List.nodup_range.map_on fun m inRange n inRange' same => ?_
  have numbers := congrArg UInt32.toNat same
  rw [List.mem_range] at inRange inRange'
  -- Counting starts at one, so the last of all indices to be tried is zero.
  simp only [UInt32.toNat_ofNat', UInt32.size] at numbers room
  omega

private theorem firstFree_not_mem {used : List UInt32} (room : used.length < UInt32.size) :
    firstFree used ∉ used := by
  obtain ⟨index, found, free⟩ := exists_find?_free used (distinct_tries room) (by simp)
  rw [firstFree, found]
  exact free

/-- An index that is given is one that is asked for or one that was free. -/
private theorem assignIndices_fresh {functions : List FunctionDraft} {used : List UInt32}
    (distinct : (askedIndices functions).Nodup)
    (reserved : ∀ index ∈ askedIndices functions, index ∈ used)
    (room : used.length + functions.countP (·.index.isNone) ≤ UInt32.size) :
    (assignIndices used functions).Nodup ∧
      ∀ index ∈ assignIndices used functions,
        index ∈ askedIndices functions ∨ index ∉ used := by
  induction functions generalizing used with
  | nil => simp [assignIndices]
  | cons function rest ih =>
    cases own : function.index with
    | some index =>
      have asked : askedIndices (function :: rest) = index :: askedIndices rest := by
        simp [askedIndices_cons, own]
      rw [asked] at distinct reserved ⊢
      obtain ⟨absent, restDistinct⟩ := List.nodup_cons.mp distinct
      obtain ⟨taken, restReserved⟩ := List.forall_mem_cons.mp reserved
      obtain ⟨different, fresh⟩ := ih restDistinct restReserved (by simpa [own] using room)
      simp only [assignIndices, own]
      refine ⟨List.nodup_cons.mpr ⟨fun member => ?_, different⟩, ?_⟩
      · rcases fresh index member with again | free
        · exact absent again
        · exact free taken
      · exact List.forall_mem_cons.mpr ⟨.inl (List.mem_cons_self ..), fun other member =>
          (fresh other member).imp_left (List.mem_cons_of_mem _)⟩
    | none =>
      have asked : askedIndices (function :: rest) = askedIndices rest := by
        simp [askedIndices_cons, own]
      rw [asked] at distinct reserved ⊢
      rw [List.countP_cons_of_pos (by simp [own])] at room
      have new := @firstFree_not_mem used (by omega)
      obtain ⟨different, fresh⟩ := @ih (firstFree used :: used) distinct
        (fun index member => List.mem_cons_of_mem _ (reserved index member))
        (by rw [List.length_cons]; omega)
      simp only [assignIndices, own]
      refine ⟨List.nodup_cons.mpr ⟨fun member => ?_, different⟩, ?_⟩
      · rcases fresh _ member with again | free
        · exact new (reserved _ again)
        · exact free (List.mem_cons_self ..)
      · exact List.forall_mem_cons.mpr ⟨.inr new, fun other member =>
          (fresh other member).imp_right (mt (List.mem_cons_of_mem _))⟩

private theorem length_askedIndices (functions : List FunctionDraft) :
    (askedIndices functions).length + functions.countP (·.index.isNone) = functions.length := by
  induction functions with
  | nil => rfl
  | cons function rest ih =>
    cases own : function.index <;> simp [askedIndices_cons, own] <;> omega

@[simp] theorem length_assignIndices (used : List UInt32) (functions : List FunctionDraft) :
    (assignIndices used functions).length = functions.length := by
  induction functions generalizing used with
  | nil => rfl
  | cons function rest ih => cases own : function.index <;> simp [assignIndices, own, ih]

/-- Every function is given an index of its own. -/
theorem nodup_of_memberIndices {functions : List FunctionDraft} {given : List UInt32}
    (granted : memberIndices functions = .ok given) :
    given.Nodup ∧ given.length = functions.length := by
  obtain ⟨distinct, room, rfl⟩ := memberIndices_eq_ok.mp granted
  have enough := length_askedIndices functions ▸ room
  exact ⟨(assignIndices_fresh distinct (fun _ member => member) enough).1, by simp⟩

/-- Fresh indices are all different, as long as there are enough. -/
theorem nodup_freshIndices {count : Nat} (room : count ≤ UInt32.size) :
    (freshIndices [] count).Nodup := by
  have unasked : ∀ function ∈ List.replicate count (default : FunctionDraft),
      function.index = none := fun function member => by
    rw [List.eq_of_mem_replicate member]
    rfl
  have given := (memberIndices_unasked unasked _).mpr ⟨by simpa using room, rfl⟩
  simpa using (nodup_of_memberIndices given).1

/-! ## Indices one by one -/

/-- Two functions ask for the index. -/
def AskedTwice (functions : List FunctionDraft) (index : UInt32) : Prop :=
  2 ≤ functions.countP (·.index = some index)

private theorem count_askedIndices (functions : List FunctionDraft) (index : UInt32) :
    (askedIndices functions).count index = functions.countP (·.index = some index) := by
  induction functions with
  | nil => rfl
  | cons function rest ih =>
    cases own : function.index <;>
      simp [askedIndices_cons, own, ih, List.count_cons, List.countP_cons]

private theorem nodup_askedIndices {functions : List FunctionDraft} :
    (askedIndices functions).Nodup ↔ ∀ index, ¬ AskedTwice functions index := by
  simp only [List.nodup_iff_count_le_one, count_askedIndices, AskedTwice, Nat.not_le,
    Nat.lt_succ_iff]

private theorem two_le_of_duplicateIndex? {functions : List FunctionDraft} {index : UInt32}
    {seen : List UInt32} (duplicate : duplicateIndex? seen functions = some index) :
    2 ≤ (askedIndices functions).count index + seen.count index := by
  induction functions generalizing seen with
  | nil => cases duplicate
  | cons function rest ih =>
    cases own : function.index with
    | none =>
      have later := ih (by simpa [duplicateIndex?, own] using duplicate)
      simpa [askedIndices_cons, own] using later
    | some asked =>
      rw [askedIndices_cons, own, Option.toList_some, List.singleton_append, List.count_cons]
      by_cases taken : asked ∈ seen
      · obtain rfl : asked = index := by simpa [duplicateIndex?, own, taken] using duplicate
        have before := List.count_pos_iff.mpr taken
        simp only [beq_self_eq_true, if_true]
        omega
      · have later := ih (by simpa [duplicateIndex?, own, taken] using duplicate)
        rw [List.count_cons] at later
        omega

/-- A positive number that is none of the indices. -/
def Free (used : List UInt32) (number : Nat) : Prop :=
  0 < number ∧ ∀ index ∈ used, index.toNat ≠ number

/-- Indices for functions, each with an index of its own: the one that it asks for, or else the
smallest that no function asks for and no function before it has. -/
structure Numbered (functions : List FunctionDraft) (indices : List UInt32) : Prop where
  length : indices.length = functions.length
  distinct : indices.Nodup
  asked : ∀ (place : Nat) (function : FunctionDraft) (index : UInt32),
    functions[place]? = some function → function.index = some index → indices[place]? = some index
  least : ∀ (place : Nat) (function : FunctionDraft) (index : UInt32),
    functions[place]? = some function → function.index = none → indices[place]? = some index →
      IsLeast {number | Free (askedIndices functions ++ indices.take place) number} index.toNat

private theorem free_congr {used others : List UInt32}
    (same : ∀ index, index ∈ used ↔ index ∈ others) :
    {number | Free used number} = {number | Free others number} := by
  simp only [Free, same]

/-- Trying one number after another ends at the first that is free. -/
private theorem firstFree_tries {used : List UInt32} (room : used.length < UInt32.size) :
    ∃ tried ≤ used.length, (firstFree used).toNat = (tried + 1) % UInt32.size ∧
      ∀ number < tried, UInt32.ofNat (number + 1) ∈ used := by
  have distinct := distinct_tries room
  obtain ⟨index, found, -⟩ := exists_find?_free used distinct (by simp)
  obtain ⟨tried, searched, rfl⟩ := Option.map_eq_some_iff.mp (List.find?_map .. ▸ found)
  obtain ⟨-, inRange, taken⟩ := List.find?_range_eq_some.mp searched
  refine ⟨tried, by rw [List.mem_range] at inRange; omega, ?_, fun number below => ?_⟩
  · rw [firstFree, found]
    exact UInt32.toNat_ofNat' ..
  · simpa using taken number below

private theorem isLeast_firstFree {used : List UInt32} (room : used.length < UInt32.size)
    (positive : used.countP (· ≠ 0) + 1 < UInt32.size) :
    IsLeast {number | Free used number} (firstFree used).toNat := by
  have unused := firstFree_not_mem room
  obtain ⟨tried, within, number, taken⟩ := firstFree_tries room
  -- Only a full list of indices without zero makes the count come round to zero.
  have small : tried + 1 < UInt32.size := by
    by_contra full
    have last : tried + 1 = UInt32.size := by omega
    have zero : firstFree used = 0 := UInt32.toNat_inj.mp (by rw [number, last]; rfl)
    have all : used.countP (· ≠ 0) = used.length := List.countP_eq_length.mpr
      fun index member => by simpa using fun same : index = 0 => unused (zero ▸ same ▸ member)
    omega
  rw [Nat.mod_eq_of_lt small] at number
  refine ⟨⟨by omega, fun index member same => unused ?_⟩, fun other ⟨above, free⟩ => ?_⟩
  · rwa [← UInt32.toNat_inj.mp same]
  · by_contra below
    refine free _ (taken (other - 1) (by omega)) ?_
    rw [UInt32.toNat_ofNat', Nat.mod_eq_of_lt (by simp only [UInt32.size] at small; omega)]
    omega

/-- Who asks for an index gets it. -/
private theorem assignIndices_own {functions : List FunctionDraft} {used : List UInt32}
    {place : Nat} {function : FunctionDraft} {index : UInt32}
    (found : functions[place]? = some function) (own : function.index = some index) :
    (assignIndices used functions)[place]? = some index := by
  induction functions generalizing used place with
  | nil => cases found
  | cons first rest ih =>
    cases place with
    | zero =>
      obtain rfl : first = function := by simpa using found
      simp [assignIndices, own]
    | succ place =>
      have found : rest[place]? = some function := by simpa using found
      cases asked : first.index <;> simpa [assignIndices, asked] using ih found

/-- Who asks for none gets the smallest index that is neither taken nor given before. -/
private theorem isLeast_assignIndices {functions : List FunctionDraft} {used : List UInt32}
    {place : Nat} {function : FunctionDraft} {index : UInt32}
    (reserved : ∀ index ∈ askedIndices functions, index ∈ used)
    (room : used.length + functions.countP (·.index.isNone) ≤ UInt32.size)
    (positive : used.countP (· ≠ 0) + functions.countP (·.index.isNone) < UInt32.size)
    (found : functions[place]? = some function) (unasked : function.index = none)
    (given : (assignIndices used functions)[place]? = some index) :
    IsLeast {number | Free (used ++ (assignIndices used functions).take place) number}
      index.toNat := by
  induction functions generalizing used place with
  | nil => cases found
  | cons first rest ih =>
    cases place with
    | zero =>
      obtain rfl : first = function := by simpa using found
      obtain rfl : firstFree used = index := by simpa [assignIndices, unasked] using given
      rw [List.countP_cons_of_pos (by simp [unasked])] at room positive
      simpa using isLeast_firstFree (by omega) (by omega)
    | succ place =>
      have found : rest[place]? = some function := by simpa using found
      cases asked : first.index with
      | some own =>
        rw [askedIndices_cons, asked] at reserved
        obtain ⟨taken, reserved⟩ := List.forall_mem_cons.mp reserved
        have least := ih reserved (by simpa [asked] using room) (by simpa [asked] using positive)
          found (by simpa [assignIndices, asked] using given)
        simp only [assignIndices, asked, List.take_succ_cons]
        rwa [free_congr fun other => ?_]
        simp only [List.mem_append, List.mem_cons]
        grind
      | none =>
        rw [askedIndices_cons, asked] at reserved
        rw [List.countP_cons_of_pos (by simp [asked])] at room positive
        have least := @ih (firstFree used :: used) place
          (fun index member => List.mem_cons_of_mem _ (reserved index member))
          (by rw [List.length_cons]; omega)
          (by rw [List.countP_cons]; split <;> omega)
          found (by simpa [assignIndices, asked] using given)
        simp only [assignIndices, asked, List.take_succ_cons]
        rwa [free_congr fun other => ?_]
        simp only [List.mem_append, List.mem_cons, or_left_comm, or_assoc]

/-- How many functions need an index other than zero. -/
private theorem countP_askedIndices (functions : List FunctionDraft) :
    (askedIndices functions).countP (· ≠ 0) + functions.countP (·.index.isNone) =
      functions.countP (·.index ≠ some 0) := by
  induction functions with
  | nil => rfl
  | cons function rest ih =>
    cases own : function.index <;> simp [askedIndices_cons, own, List.countP_cons] at ih ⊢ <;> omega

private theorem numbered_assignIndices {functions : List FunctionDraft}
    (distinct : (askedIndices functions).Nodup)
    (room : functions.countP (·.index ≠ some 0) < UInt32.size) :
    functions.length ≤ UInt32.size ∧
      Numbered functions (assignIndices (askedIndices functions) functions) := by
  have zeros : functions.countP (·.index = some 0) ≤ 1 :=
    Nat.lt_succ_iff.mp (Nat.not_le.mp (nodup_askedIndices.mp distinct 0))
  have all := functions.length_eq_countP_add_countP (·.index = some 0)
  have enough : functions.length ≤ UInt32.size := by
    simp only [decide_eq_true_eq, ← ne_eq] at all
    omega
  have fits := length_askedIndices functions ▸ enough
  exact ⟨enough, {
    length := length_assignIndices ..
    distinct := (assignIndices_fresh distinct (fun _ member => member) fits).1
    asked := fun _ _ _ found own => assignIndices_own found own
    least := fun _ _ _ found unasked given =>
      isLeast_assignIndices (fun _ member => member) fits (countP_askedIndices functions ▸ room)
        found unasked given }⟩

/-- Indices other than zero are no more than there are numbers for them. -/
private theorem countP_lt_of_nodup {indices : List UInt32} (distinct : indices.Nodup) :
    indices.countP (· ≠ 0) < UInt32.size := by
  have more : (0 :: indices.filter (· ≠ 0)).Nodup :=
    List.nodup_cons.mpr ⟨by simp, distinct.filter _⟩
  have := length_le_of_nodup more
  rwa [List.length_cons, ← List.countP_eq_length_filter] at this

private theorem Numbered.room {functions : List FunctionDraft} {indices : List UInt32}
    (numbered : Numbered functions indices) :
    functions.countP (·.index ≠ some 0) < UInt32.size := by
  refine Nat.lt_of_le_of_lt (countP_le_of_forall₂ (List.forall₂_iff_get.mpr
    ⟨numbered.length.symm, fun place inside inside' => ?_⟩)) (countP_lt_of_nodup numbered.distinct)
  simp only [List.get_eq_getElem, decide_eq_true_eq]
  intro positive
  have found := List.getElem?_eq_getElem inside
  have given := List.getElem?_eq_getElem inside'
  cases own : functions[place].index with
  | none =>
    have above := (numbered.least place _ _ found own given).1.1
    exact fun zero => by simp [zero] at above
  | some index =>
    have same := numbered.asked place _ index found own
    grind

/-- Functions get their indices unless two ask for the same one, which is then reported. Only if
more of them need a positive index than there are can they not be numbered in any way. -/
theorem memberIndices_numbers (functions : List FunctionDraft) :
    ((∃ index, AskedTwice functions index) →
      ∃ index, AskedTwice functions index ∧
        memberIndices functions = .error (.duplicateIndex index)) ∧
    ((∀ index, ¬ AskedTwice functions index) →
      functions.countP (·.index ≠ some 0) < UInt32.size →
        ∃ indices, memberIndices functions = .ok indices ∧ Numbered functions indices) ∧
    ((∃ indices, Numbered functions indices) →
      functions.countP (·.index ≠ some 0) < UInt32.size) := by
  refine ⟨fun ⟨index, twice⟩ => ?_, fun once room => ?_, fun ⟨_, numbered⟩ => numbered.room⟩
  · cases duplicate : duplicateIndex? [] functions with
    | some reported =>
      refine ⟨reported, ?_, by rw [memberIndices, duplicate]⟩
      have counted := two_le_of_duplicateIndex? duplicate
      rwa [count_askedIndices] at counted
    | none =>
      exact absurd twice (nodup_askedIndices.mp ((duplicateIndex?_eq_none []).mp duplicate).1 index)
  · obtain ⟨enough, numbered⟩ := numbered_assignIndices (nodup_askedIndices.mpr once) room
    exact ⟨_, memberIndices_eq_ok.mpr ⟨nodup_askedIndices.mpr once, enough, rfl⟩, numbered⟩

example : memberIndices ([none, some 1, none, some 3].map fun asked =>
    { (default : FunctionDraft) with index := asked }) = .ok [2, 1, 4, 3] := by
  decide

end NfvCatalog.Translation

/-! ## The next index of a service

It comes directly after all that are in use, as long as a word of 32 bits holds it. After the last
index of all comes zero again, and a constituent may have that one.
-/

namespace NfvCatalog

private instance lawfulOrderMax : Std.LawfulOrderMax UInt32 where
  max_le_iff a b c := by
    change (if a ≤ b then b else a) ≤ c ↔ _
    split <;> grind
  max_eq_or a b := by
    change (if a ≤ b then b else a) = _ ∨ (if a ≤ b then b else a) = _
    split
    · exact .inr rfl
    · exact .inl rfl

namespace Nsd

/-- The last index that there is. -/
def lastIndex : UInt32 := 0xFFFFFFFF

variable {nsd : Nsd}

/-- A service with the last index and the first one. -/
private def rimService : Nsd :=
  { id := "rim", constituents := [⟨lastIndex, "ping", none⟩, ⟨0, "pong", none⟩] }

example : rimService.constituent? rimService.nextMemberIndex = some ⟨0, "pong", none⟩ := by decide

end Nsd

end NfvCatalog
