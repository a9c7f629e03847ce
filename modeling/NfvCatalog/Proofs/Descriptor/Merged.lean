import Mathlib.Data.List.Nodup
import NfvCatalog.Descriptor.Set

/-! # Merged descriptors

A set is merged into another by appending the descriptors whose id is new. That keeps the first one
of each id, in order. How documents are grouped before they are merged does not matter, only their
order.
-/

/-! ## Items whose id is new -/

namespace NfvCatalog.DescriptorSet

variable {α β : Type} (id : α → String)

private theorem any_id_eq (present : List α) (key : String) :
    present.any (id · = key) = true ↔ key ∈ present.map id := by
  simp only [List.any_eq_true, List.mem_map, decide_eq_true_eq]

theorem appendNew_of_known {present : List α} {item : α}
    (known : id item ∈ present.map id) (rest : List α) :
    appendNew id present (item :: rest) = appendNew id present rest := by
  rw [appendNew, if_pos ((any_id_eq id present _).mpr known)]

theorem appendNew_of_new {present : List α} {item : α}
    (new : id item ∉ present.map id) (rest : List α) :
    appendNew id present (item :: rest) = appendNew id (present ++ [item]) rest := by
  rw [appendNew, if_neg (mt (any_id_eq id present _).mp new)]

/-- What is there keeps its place. -/
theorem prefix_appendNew (present items : List α) : present <+: appendNew id present items := by
  induction items generalizing present with
  | nil => exact List.prefix_rfl
  | cons item rest ih =>
    by_cases known : id item ∈ present.map id
    · rw [appendNew_of_known id known]
      exact ih present
    · rw [appendNew_of_new id known]
      exact (List.prefix_append present [item]).trans (ih _)

/-! ### Ids -/

private theorem eraseDups_of_nodup {keys : List String} (distinct : keys.Nodup) :
    keys.eraseDups = keys := by
  induction keys with
  | nil => rfl
  | cons key rest ih =>
    obtain ⟨absent, restDistinct⟩ := List.nodup_cons.mp distinct
    have kept : rest.filter (fun other => !other == key) = rest :=
      List.filter_eq_self.mpr fun other member => by
        simpa using fun same : other = key => absent (same ▸ member)
    rw [List.eraseDups_cons, kept, ih restDistinct]

private theorem eraseDups_append_cons {present : List String} {key : String}
    (known : key ∈ present) (rest : List String) :
    (present ++ key :: rest).eraseDups = (present ++ rest).eraseDups := by
  have removed : (key :: rest).removeAll present = rest.removeAll present := by
    rw [List.cons_removeAll, if_neg (by simpa using known)]
  rw [List.eraseDups_append, removed, ← List.eraseDups_append]

private theorem map_id_appendNew_append {present : List α} (distinct : (present.map id).Nodup)
    (items : List α) :
    (appendNew id present items).map id = (present.map id ++ items.map id).eraseDups := by
  induction items generalizing present with
  | nil => simp [appendNew, eraseDups_of_nodup distinct]
  | cons item rest ih =>
    by_cases known : id item ∈ present.map id
    · rw [appendNew_of_known id known, ih distinct, List.map_cons, eraseDups_append_cons known]
    · have apart : ((present ++ [item]).map id).Nodup := by
        rw [List.map_append]
        exact List.Nodup.append distinct (List.nodup_singleton _) (by simpa using known)
      rw [appendNew_of_new id known, ih apart]
      simp

/-- The ids are those of all items, each where it stands first. -/
theorem map_id_appendNew (items : List α) :
    (appendNew id [] items).map id = (items.map id).eraseDups := by
  simpa using @map_id_appendNew_append α id [] List.nodup_nil items

/-- Items that are new have new ids. -/
theorem nodup_map_id_appendNew {present : List α} (distinct : (present.map id).Nodup)
    (items : List α) : ((appendNew id present items).map id).Nodup := by
  induction items generalizing present with
  | nil => exact distinct
  | cons item rest ih =>
    by_cases known : id item ∈ present.map id
    · rw [appendNew_of_known id known]
      exact ih distinct
    · rw [appendNew_of_new id known]
      refine ih ?_
      rw [List.map_append]
      exact List.Nodup.append distinct (List.nodup_singleton _) (by simpa using known)

/-- Ids stay distinct exactly if they were distinct before. -/
theorem nodup_map_id_appendNew_iff {present items : List α} :
    ((appendNew id present items).map id).Nodup ↔ (present.map id).Nodup :=
  ⟨fun distinct => ((prefix_appendNew id present items).sublist.map id).nodup distinct,
    fun distinct => nodup_map_id_appendNew id distinct items⟩

/-- No id is lost, and the only new ones are those of the items. -/
theorem mem_map_id_appendNew {present items : List α} {key : String} :
    key ∈ (appendNew id present items).map id ↔ key ∈ present.map id ∨ key ∈ items.map id := by
  induction items generalizing present with
  | nil => simp [appendNew]
  | cons item rest ih =>
    by_cases known : id item ∈ present.map id
    · rw [appendNew_of_known id known, ih, List.map_cons, List.mem_cons]
      constructor
      · exact Or.imp_right .inr
      · rintro (old | rfl | later)
        · exact .inl old
        · exact .inl known
        · exact .inr later
    · rw [appendNew_of_new id known, ih]
      simp [or_assoc]

/-- First occurrences are all different. -/
theorem nodup_eraseDups (keys : List String) : keys.eraseDups.Nodup := by
  have ids := @nodup_map_id_appendNew String (fun key => key) [] List.nodup_nil keys
  rwa [map_id_appendNew, List.map_id'] at ids

/-! ### Items -/

/-- The item that is found under an id is the first one of all. -/
theorem find?_appendNew (present items : List α) (key : String) :
    (appendNew id present items).find? (id · = key) = (present ++ items).find? (id · = key) := by
  induction items generalizing present with
  | nil => simp [appendNew]
  | cons item rest ih =>
    by_cases known : id item ∈ present.map id
    · rw [appendNew_of_known id known, ih, List.find?_append, List.find?_append]
      by_cases same : id item = key
      · have found : (present.find? (id · = key)).isSome := by
          rw [List.find?_isSome]
          simpa [same] using known
        rw [Option.or_of_isSome found, Option.or_of_isSome found]
      · rw [List.find?_cons_of_neg (by simpa using same)]
    · rw [appendNew_of_new id known, ih, List.append_assoc, List.singleton_append]

/-- Items of known ids change nothing. -/
theorem appendNew_of_all_known {present items : List α}
    (known : ∀ item ∈ items, id item ∈ present.map id) : appendNew id present items = present := by
  induction items with
  | nil => rfl
  | cons item rest ih =>
    obtain ⟨first, others⟩ := List.forall_mem_cons.mp known
    rw [appendNew_of_known id first, ih others]

/-- Items of distinct ids are all appended. -/
theorem appendNew_of_distinct {present items : List α}
    (distinct : ((present ++ items).map id).Nodup) :
    appendNew id present items = present ++ items := by
  induction items generalizing present with
  | nil => simp [appendNew]
  | cons item rest ih =>
    have new : id item ∉ present.map id := by
      rw [List.map_append, List.map_cons] at distinct
      exact fun known => List.disjoint_of_nodup_append distinct known (List.mem_cons_self ..)
    rw [appendNew_of_new id new, ih (by simpa using distinct), List.append_assoc,
      List.singleton_append]

/-- Appending one list after another is appending both at once. -/
theorem appendNew_append (present items more : List α) :
    appendNew id present (items ++ more) = appendNew id (appendNew id present items) more := by
  induction items generalizing present with
  | nil => rfl
  | cons item rest ih =>
    rw [List.cons_append]
    by_cases known : id item ∈ present.map id
    · rw [appendNew_of_known id known, appendNew_of_known id known, ih]
    · rw [appendNew_of_new id known, appendNew_of_new id known, ih]

/-- An item that an earlier one of the same list keeps out would be kept out by it later as well. -/
theorem appendNew_appendNew (present items more : List α) :
    appendNew id present (appendNew id items more) = appendNew id present (items ++ more) := by
  induction more generalizing items with
  | nil => rw [appendNew, List.append_nil]
  | cons item rest ih =>
    by_cases known : id item ∈ items.map id
    · have later : id item ∈ (appendNew id present items).map id :=
        (mem_map_id_appendNew id).mpr (.inr known)
      rw [appendNew_of_known id known, ih, appendNew_append, appendNew_append,
        appendNew_of_known id later]
    · rw [appendNew_of_new id known, ih, List.append_assoc, List.singleton_append]

theorem mem_of_mem_appendNew {present items : List α} {item : α}
    (member : item ∈ appendNew id present items) : item ∈ present ++ items := by
  induction items generalizing present with
  | nil => simpa [appendNew] using member
  | cons first rest ih =>
    by_cases known : id first ∈ present.map id
    · rw [appendNew_of_known id known] at member
      exact List.Sublist.subset ((List.sublist_cons_self ..).append_left _) (ih member)
    · rw [appendNew_of_new id known] at member
      simpa using ih member

theorem appendNew_map {f : α → β} {other : β → String} (same : ∀ item, other (f item) = id item)
    (present items : List α) :
    appendNew other (present.map f) (items.map f) = (appendNew id present items).map f := by
  have ids (items : List α) : (items.map f).map other = items.map id := by
    simp [Function.comp_def, same]
  induction items generalizing present with
  | nil => rfl
  | cons item rest ih =>
    rw [List.map_cons]
    by_cases known : id item ∈ present.map id
    · rw [appendNew_of_known id known, appendNew_of_known other (by rwa [ids, same]), ih]
    · rw [appendNew_of_new id known, appendNew_of_new other (by rwa [ids, same]), ← ih,
        List.map_append, List.map_singleton]

end NfvCatalog.DescriptorSet

/-! ## Merged sets

Merging is a union in which the first descriptor of an id counts.
-/

namespace NfvCatalog.DescriptorSet

/-- Sets with the same descriptors are the same. -/
@[ext] theorem ext {set other : DescriptorSet} (nsds : set.nsds = other.nsds)
    (vnfds : set.vnfds = other.vnfds) : set = other := by
  cases set
  cases other
  simp_all

/-! ### One set after another -/

/-- The first VNFD of an id counts. -/
theorem vnfd?_merge (set other : DescriptorSet) (id : String) :
    (set.merge other).vnfd? id = (set.vnfd? id).or (other.vnfd? id) := by
  rw [vnfd?, merge, find?_appendNew, List.find?_append]
  rfl

/-- The first NSD of an id counts. -/
theorem nsd?_merge (set other : DescriptorSet) (id : String) :
    (set.merge other).nsd? id = (set.nsd? id).or (other.nsd? id) := by
  rw [nsd?, merge, find?_appendNew, List.find?_append]
  rfl

/-- A set whose ids are all there adds nothing. -/
theorem merge_of_all_known {set other : DescriptorSet}
    (nsds : ∀ nsd ∈ other.nsds, nsd.id ∈ set.nsds.map (·.id))
    (vnfds : ∀ vnfd ∈ other.vnfds, vnfd.id ∈ set.vnfds.map (·.id)) : set.merge other = set := by
  ext1
  · exact appendNew_of_all_known Nsd.id nsds
  · exact appendNew_of_all_known Vnfd.id vnfds

theorem merge_self (set : DescriptorSet) : set.merge set = set :=
  merge_of_all_known (fun _ => List.mem_map_of_mem) fun _ => List.mem_map_of_mem

/-- After a set was merged, its ids are all there. -/
theorem merge_merge_self (set other : DescriptorSet) :
    (set.merge other).merge other = set.merge other :=
  merge_of_all_known
    (fun _ member => (mem_map_id_appendNew Nsd.id).mpr (.inr (List.mem_map_of_mem member)))
    fun _ member => (mem_map_id_appendNew Vnfd.id).mpr (.inr (List.mem_map_of_mem member))

/-- Two sets may be merged with each other first: what the second has of the first's ids would be
left out in any case. -/
theorem merge_assoc (set other more : DescriptorSet) :
    (set.merge other).merge more = set.merge (other.merge more) := by
  ext1
  · exact ((appendNew_appendNew Nsd.id ..).trans (appendNew_append Nsd.id ..)).symm
  · exact ((appendNew_appendNew Vnfd.id ..).trans (appendNew_append Vnfd.id ..)).symm

/-- Merging is a union of descriptors by id: look-ups find what the first set has, and else what the
second one has first. The descriptors of the first set keep their places, and ids stay distinct if
they were. Merging a set again, or with itself, changes nothing, and neither does it matter which of
three sets are merged first. -/
theorem merge_keeps_first (set other more : DescriptorSet) :
    (∀ id, (set.merge other).vnfd? id = (set.vnfd? id).or (other.vnfd? id)) ∧
      (∀ id, (set.merge other).nsd? id = (set.nsd? id).or (other.nsd? id)) ∧
      set.vnfds <+: (set.merge other).vnfds ∧ set.nsds <+: (set.merge other).nsds ∧
      (((set.merge other).vnfds.map (·.id)).Nodup ↔ (set.vnfds.map (·.id)).Nodup) ∧
      (((set.merge other).nsds.map (·.id)).Nodup ↔ (set.nsds.map (·.id)).Nodup) ∧
      (set.merge other).merge other = set.merge other ∧ set.merge set = set ∧
      (set.merge other).merge more = set.merge (other.merge more) := by
  refine ⟨vnfd?_merge set other, nsd?_merge set other, ?_, ?_, ?_, ?_,
    merge_merge_self set other, merge_self set, merge_assoc set other more⟩
  · exact prefix_appendNew Vnfd.id set.vnfds other.vnfds
  · exact prefix_appendNew Nsd.id set.nsds other.nsds
  · exact nodup_map_id_appendNew_iff Vnfd.id
  · exact nodup_map_id_appendNew_iff Nsd.id

/-! ### Many sets -/

/-- Sets that are merged one after another give what one set with all their descriptors gives. -/
theorem foldl_merge (set : DescriptorSet) (documents : List DescriptorSet) :
    documents.foldl merge set =
      set.merge ⟨documents.flatMap (·.nsds), documents.flatMap (·.vnfds)⟩ := by
  induction documents generalizing set with
  | nil => rfl
  | cons document rest ih =>
    rw [List.foldl_cons, ih]
    ext1
    · exact (appendNew_append Nsd.id ..).symm
    · exact (appendNew_append Vnfd.id ..).symm

/-- Sets in which no id is repeated are merged to all of their descriptors. -/
theorem foldl_merge_of_distinct {documents : List DescriptorSet}
    (nsds : ((documents.flatMap (·.nsds)).map (·.id)).Nodup)
    (vnfds : ((documents.flatMap (·.vnfds)).map (·.id)).Nodup) :
    documents.foldl merge {} =
      ⟨documents.flatMap (·.nsds), documents.flatMap (·.vnfds)⟩ := by
  rw [foldl_merge]
  ext1
  · exact appendNew_of_distinct Nsd.id nsds
  · exact appendNew_of_distinct Vnfd.id vnfds

end NfvCatalog.DescriptorSet
