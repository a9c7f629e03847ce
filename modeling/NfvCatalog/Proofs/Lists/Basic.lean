import Mathlib.Data.List.Forall2
import Mathlib.Data.List.Nodup

/-! # Lists

Items that mapping leaves as they are, lists that correspond item by item, and items that are found
by a key.
-/

/-! ## Items that stay

Mapping leaves a list or an option as it is exactly if it leaves every item as it is.
-/

namespace NfvCatalog

variable {α : Type}

theorem optionMap_eq_self {f : α → α} {value : Option α} :
    value.map f = value ↔ ∀ a ∈ value, f a = a := by
  cases value <;> simp

theorem listMap_eq_self {f : α → α} {items : List α} :
    items.map f = items ↔ ∀ a ∈ items, f a = a := by
  constructor
  · intro same a member
    exact List.map_inj_left.mp (same.trans (List.map_id _).symm) a member
  · intro stay
    exact (List.map_congr_left stay).trans (List.map_id _)

/-- Items that came from others by a choice that keeps them are kept again. -/
theorem filterMap_filterMap_of_kept {first again : α → Option α}
    (kept : ∀ item other, first item = some other → again other = some other) (items : List α) :
    (items.filterMap first).filterMap again = items.filterMap first := by
  induction items with
  | nil => rfl
  | cons item rest ih =>
    cases chosen : first item with
    | none => simpa [chosen] using ih
    | some other => simp [chosen, kept item other chosen, ih]

end NfvCatalog

/-! ## Paired lists

Lists whose items correspond one by one: every item has a counterpart, and what is read off
counterparts alike makes the same list.
-/

namespace NfvCatalog

variable {α β γ : Type} {same : α → β → Prop} {items : List α} {others : List β}

theorem exists_of_mem_left (each : List.Forall₂ same items others) {a : α} (member : a ∈ items) :
    ∃ b ∈ others, same a b := by
  induction each with
  | nil => cases member
  | @cons first other _ _ pair _ ih =>
    rcases List.mem_cons.mp member with rfl | later
    · exact ⟨other, List.mem_cons_self .., pair⟩
    · obtain ⟨b, inOthers, pair⟩ := ih later
      exact ⟨b, List.mem_cons_of_mem _ inOthers, pair⟩

theorem exists_of_mem_right (each : List.Forall₂ same items others) {b : β} (member : b ∈ others) :
    ∃ a ∈ items, same a b :=
  exists_of_mem_left each.flip member

theorem map_eq_map_of_forall₂ (each : List.Forall₂ same items others) {f : α → γ} {g : β → γ}
    (agree : ∀ a b, same a b → f a = g b) : items.map f = others.map g := by
  induction each with
  | nil => rfl
  | cons pair _ ih => rw [List.map_cons, List.map_cons, ih, agree _ _ pair]

/-- Items with a property are no more than counterparts with another that it implies. -/
theorem countP_le_of_forall₂ {p : α → Bool} {q : β → Bool}
    (each : List.Forall₂ (fun item other => p item → q other) items others) :
    items.countP p ≤ others.countP q := by
  induction each with
  | nil => exact Nat.le_refl 0
  | @cons item other _ _ implies _ ih =>
    rw [List.countP_cons, List.countP_cons]
    by_cases here : p item
    · rw [if_pos here, if_pos (implies here)]
      exact Nat.succ_le_succ ih
    · rw [if_neg here]
      exact Nat.le_trans ih (Nat.le_add_right ..)

/-- Items correspond to what each of them becomes. -/
theorem forall₂_map_self {same : β → α → Prop} {become : α → β}
    (each : ∀ item ∈ items, same (become item) item) :
    List.Forall₂ same (items.map become) items := by
  rw [List.forall₂_map_left_iff, List.forall₂_same]
  exact each

/-- What holds of items and their counterparts holds of what these become at their places. -/
theorem forall₂_mapIdx {same' : α → γ → Prop} {f : Nat → β → γ}
    (each : List.Forall₂ same items others)
    (become : ∀ place a b, items[place]? = some a → same a b → same' a (f place b)) :
    List.Forall₂ same' items (others.mapIdx f) := by
  induction each generalizing f with
  | nil => exact .nil
  | cons pair _ ih =>
    rw [List.mapIdx_cons]
    exact .cons (become 0 _ _ rfl pair)
      (ih fun place a b there => become (place + 1) a b (by simpa using there))

end NfvCatalog

/-! ## Looking up by key

Lists whose items are told apart by a key: the item of a key is found wherever it stands, and
changing the item at the place of a key changes no other. Beside a shorter list of taken items a
free one is found.
-/

namespace NfvCatalog

variable {α κ : Type}

/-- An item that no earlier one matches is found at its place. -/
theorem findIdx?_append_cons {p : α → Bool} {before : List α} {item : α} {after : List α}
    (fresh : ∀ other ∈ before, p other = false) (hit : p item = true) :
    (before ++ item :: after).findIdx? p = some before.length := by
  have missed : before.findIdx? p = none := List.findIdx?_eq_none_iff.mpr fresh
  simp [List.findIdx?_append, missed, List.findIdx?_cons, hit]

/-- An item that is there has a place. -/
theorem findIdx?_of_exists {p : α → Bool} {items : List α}
    (present : ∃ item ∈ items, p item = true) : items.findIdx? p = some (items.findIdx p) := by
  rw [List.findIdx?_eq_some_iff_findIdx_eq]
  exact ⟨List.findIdx_lt_length_of_exists present, rfl⟩

/-- Among different items an item is the one that is found exactly if its place is. -/
theorem find?_eq_some_iff_findIdx? {p : α → Bool} {items : List α} {item : α} {place : Nat}
    (distinct : items.Nodup) (there : items[place]? = some item) :
    items.find? p = some item ↔ items.findIdx? p = some place := by
  rw [List.find?_eq_bind_findIdx?_getElem?]
  constructor
  · intro found
    obtain ⟨other, isOther, same⟩ := Option.bind_eq_some_iff.mp found
    obtain ⟨inside, -⟩ := List.getElem?_eq_some_iff.mp same
    rw [isOther, (List.getElem?_inj inside distinct).mp (same.trans there.symm)]
  · intro found
    rw [found, Option.bind_some, there]

theorem getElem?_append_cons (before : List α) (item : α) (after : List α) :
    (before ++ item :: after)[before.length]? = some item := by
  simp

theorem getElem?_append_singleton {items : List α} {last item : α} {place : Nat} :
    (items ++ [last])[place]? = some item ↔
      items[place]? = some item ∨ place = items.length ∧ last = item := by
  rcases Nat.lt_trichotomy place items.length with before | rfl | after
  · simp [List.getElem?_append_left before, Nat.ne_of_lt before]
  · simp
  · have outside : items[place]? = none := List.getElem?_eq_none (Nat.le_of_lt after)
    have beyond : (items ++ [last])[place]? = none := List.getElem?_eq_none (by simp; omega)
    simp [outside, beyond, Nat.ne_of_gt after]

theorem modify_append_cons (f : α → α) (before : List α) (item : α) (after : List α) :
    (before ++ item :: after).modify before.length f = before ++ f item :: after := by
  induction before with
  | nil => rfl
  | cons first rest ih => simpa using ih

/-- Changing the item at a place changes no other. -/
theorem forall₂_modify {same : α → α → Prop} {items : List α} {place : Nat} {item : α} {f : α → α}
    (there : items[place]? = some item) (stay : ∀ item, same item item)
    (changed : same item (f item)) : List.Forall₂ same items (items.modify place f) := by
  induction items generalizing place with
  | nil => cases there
  | cons first rest ih =>
    cases place with
    | zero =>
      obtain rfl : first = item := by simpa using there
      exact .cons changed (List.forall₂_same.mpr fun other _ => stay other)
    | succ place => exact .cons (stay first) (ih (by simpa using there))

/-- A free item is found if there are more items than taken ones. -/
theorem exists_find?_free [DecidableEq α] (used : List α) {items : List α}
    (distinct : items.Nodup) (more : used.length < items.length) :
    ∃ item, items.find? (· ∉ used) = some item ∧ item ∉ used := by
  cases found : items.find? (· ∉ used) with
  | none =>
    have taken : items ⊆ used := fun item member => by
      simpa using List.find?_eq_none.mp found item member
    have within := distinct.length_le_of_subset taken
    omega
  | some item => exact ⟨item, rfl, by simpa using List.find?_some found⟩

variable [DecidableEq κ] (key : α → κ)

/-- With distinct keys the item of a key is the one that is found. -/
theorem find?_key {items : List α} {item : α} (distinct : (items.map key).Nodup)
    (member : item ∈ items) : items.find? (fun other => key other = key item) = some item := by
  induction items with
  | nil => cases member
  | cons first rest ih =>
    obtain ⟨fresh, distinct⟩ := List.nodup_cons.mp distinct
    rcases List.mem_cons.mp member with rfl | member
    · simp
    · have other : key first ≠ key item := fun same =>
        fresh (same ▸ List.mem_map_of_mem member)
      rw [List.find?_cons_of_neg (by simpa using other)]
      exact ih distinct member

/-- With distinct keys the item of a key is the only one. -/
theorem filter_key {items : List α} {item : α} (distinct : (items.map key).Nodup)
    (member : item ∈ items) : items.filter (fun other => key other = key item) = [item] := by
  induction items with
  | nil => cases member
  | cons first rest ih =>
    obtain ⟨fresh, distinct⟩ := List.nodup_cons.mp distinct
    rcases List.mem_cons.mp member with rfl | member
    · have others : rest.filter (fun other => key other = key item) = [] := by
        refine List.filter_eq_nil_iff.mpr fun other inside same => fresh ?_
        exact of_decide_eq_true same ▸ List.mem_map_of_mem inside
      rw [List.filter_cons_of_pos (by simp), others]
    · have other : key first ≠ key item := fun same =>
        fresh (same ▸ List.mem_map_of_mem member)
      rw [List.filter_cons_of_neg (by simpa using other)]
      exact ih distinct member

/-- No item is found under a key that is not there. -/
theorem find?_key_eq_none {items : List α} {k : κ} (absent : k ∉ items.map key) :
    items.find? (fun other => key other = k) = none := by
  refine List.find?_eq_none.mpr fun other member => ?_
  simp only [decide_eq_true_eq]
  exact fun same => absent (same ▸ List.mem_map_of_mem member)

theorem find?_key_eq_some_iff {items : List α} (distinct : (items.map key).Nodup) {k : κ}
    {item : α} :
    items.find? (fun other => key other = k) = some item ↔ item ∈ items ∧ key item = k := by
  constructor
  · intro found
    exact ⟨List.mem_of_find?_eq_some found, by simpa using List.find?_some found⟩
  · rintro ⟨member, rfl⟩
    exact find?_key key distinct member

/-- With distinct keys it does not matter in which order the items are. -/
theorem find?_perm_key {items others : List α} (distinct : (items.map key).Nodup)
    (reordered : others.Perm items) (k : κ) :
    others.find? (fun other => key other = k) = items.find? fun other => key other = k := by
  have distinctOthers : (others.map key).Nodup := (reordered.map key).nodup_iff.mpr distinct
  by_cases present : k ∈ items.map key
  · obtain ⟨item, member, rfl⟩ := List.mem_map.mp present
    rw [find?_key key distinct member, find?_key key distinctOthers (reordered.mem_iff.mpr member)]
  · rw [find?_key_eq_none key present, find?_key_eq_none key]
    rwa [(reordered.map key).mem_iff]

theorem filter_perm_key {items others : List α} (distinct : (items.map key).Nodup)
    (reordered : others.Perm items) (k : κ) :
    others.filter (fun item => key item = k) = items.filter fun item => key item = k := by
  have distinctOthers : (others.map key).Nodup := (reordered.map key).nodup_iff.mpr distinct
  by_cases present : k ∈ items.map key
  · obtain ⟨item, member, rfl⟩ := List.mem_map.mp present
    rw [filter_key key distinct member, filter_key key distinctOthers (reordered.mem_iff.mpr member)]
  · have empty {list : List α} (absent : k ∉ list.map key) :
        list.filter (fun item => key item = k) = [] := by
      simpa [List.filter_eq_nil_iff] using absent
    rw [empty present, empty (by rwa [(reordered.map key).mem_iff])]

/-- If nothing comes of items with other keys, those of one key are enough. -/
theorem flatMap_eq_of_key {β : Type} {k : κ} {items : List α} {f : α → List β}
    (empty : ∀ item ∈ items, key item ≠ k → f item = []) :
    items.flatMap f = (items.filter fun item => key item = k).flatMap f := by
  induction items with
  | nil => rfl
  | cons item rest ih =>
    obtain ⟨own, others⟩ := List.forall_mem_cons.mp empty
    by_cases same : key item = k
    · rw [List.filter_cons_of_pos (by simpa using same), List.flatMap_cons, List.flatMap_cons,
        ih others]
    · rw [List.filter_cons_of_neg (by simpa using same), List.flatMap_cons, own same, ih others,
        List.nil_append]

/-- The first and the last item of a key are the same when keys are distinct. -/
theorem find?_reverse_key {items : List α} (distinct : (items.map key).Nodup) (k : κ) :
    items.reverse.find? (fun other => key other = k) =
      items.find? fun other => key other = k :=
  find?_perm_key key distinct items.reverse_perm k

omit [DecidableEq κ] in
/-- One step of a loop over items that remembers the keys it has seen. -/
theorem nodup_and_fresh_cons {item : α} {rest : List α} {seen : List κ} :
    (((item :: rest).map key).Nodup ∧ ∀ other ∈ item :: rest, key other ∉ seen) ↔
      key item ∉ seen ∧ (rest.map key).Nodup ∧ ∀ other ∈ rest, key other ∉ key item :: seen := by
  simp only [List.map_cons, List.nodup_cons, List.mem_map, not_exists, not_and, List.mem_cons,
    not_or, forall_eq_or_imp, forall_and]
  constructor
  · rintro ⟨⟨apart, distinct⟩, fresh, others⟩
    exact ⟨fresh, distinct, apart, others⟩
  · rintro ⟨fresh, distinct, apart, others⟩
    exact ⟨⟨apart, distinct⟩, fresh, others⟩

/-- What a value becomes is found under the key of the value, if it becomes anything. -/
theorem find?_filterMap_key {β : Type} {entries : List (κ × α)}
    (distinct : (entries.map Prod.fst).Nodup) (f : α → Option β) (k : κ) :
    ((entries.filterMap fun entry => (f entry.2).map fun b => (entry.1, b)).find?
      (·.1 = k)).map Prod.snd = ((entries.find? (·.1 = k)).map Prod.snd).bind f := by
  induction entries with
  | nil => rfl
  | cons entry rest ih =>
    obtain ⟨fresh, distinct⟩ := List.nodup_cons.mp distinct
    have others := ih distinct
    by_cases same : entry.1 = k
    · have absent : (rest.find? (·.1 = k)) = none :=
        find?_key_eq_none Prod.fst (same ▸ fresh)
      rw [absent] at others
      cases became : f entry.2 with
      | none => simpa [became, same] using others
      | some b => simp [became, same]
    · cases became : f entry.2 <;> simpa [became, same] using others

/-- Changing the item at the place of a key is changing every item of that key. -/
theorem modify_findIdx?_key (f : α → α) {items : List α} (distinct : (items.map key).Nodup)
    {k : κ} {place : Nat} (found : items.findIdx? (fun item => key item = k) = some place) :
    items.modify place f = items.map fun item => if key item = k then f item else item := by
  induction items generalizing place with
  | nil => cases found
  | cons first rest ih =>
    obtain ⟨fresh, distinct⟩ := List.nodup_cons.mp distinct
    by_cases same : key first = k
    · obtain rfl : 0 = place := by simpa [List.findIdx?_cons, same] using found
      have untouched : rest.map (fun item => if key item = k then f item else item) = rest := by
        refine (List.map_congr_left fun item member => ?_).trans (List.map_id rest)
        have other : key item ≠ k := fun equal =>
          fresh (same.trans equal.symm ▸ List.mem_map_of_mem member)
        simp [other]
      simp [same, untouched]
    · obtain ⟨earlier, foundEarlier, rfl⟩ : ∃ earlier,
          rest.findIdx? (fun item => key item = k) = some earlier ∧ earlier + 1 = place := by
        simpa [List.findIdx?_cons, same] using found
      simp [same, ih distinct foundEarlier]

end NfvCatalog
