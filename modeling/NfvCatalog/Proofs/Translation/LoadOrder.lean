import Mathlib.Data.List.Perm.Basic
import NfvCatalog.Proofs.Descriptor.Merged
import NfvCatalog.Proofs.Translation.SharedIds
import NfvCatalog.Proofs.Translation.WrittenService

/-! # The order of files

Descriptors of one service, spread over documents, are merged to the same service and the same
functions in whatever order the documents are loaded. The functions may come in another order, but
translation and the checks of references only look them up, so the template is the same and
validation reports the same issues.
-/

namespace NfvCatalog

/-! ## Looking at functions through look-ups only -/

namespace Nsd

variable {vnfds others : List Vnfd} (same : ∀ id, checkedVnfd? vnfds id = checkedVnfd? others id)
  (nsd : Nsd)
include same

theorem constituentIssues_congr (seen : List UInt32) (constituents : List ConstituentVnfd) :
    nsd.constituentIssues vnfds seen constituents =
      nsd.constituentIssues others seen constituents := by
  induction constituents generalizing seen with
  | nil => rfl
  | cons constituent rest ih => rw [constituentIssues, constituentIssues, same, ih]

theorem pointRefIssues_congr : nsd.pointRefIssues vnfds = nsd.pointRefIssues others := by
  funext path ref
  simp only [pointRefIssues, same]

/-- A service is validated with the functions that are looked at. -/
theorem validate_congr : nsd.validate vnfds = nsd.validate others := by
  have links : nsd.vldIssues vnfds = nsd.vldIssues others := by
    funext vld
    rw [vldIssues, vldIssues, pointRefIssues_congr same]
  have paths : nsd.pathIssues vnfds = nsd.pathIssues others := by
    funext graph path
    rw [pathIssues, pathIssues, pointRefIssues_congr same]
  rw [validate, validate, constituentIssues_congr same, links, paths]

end Nsd

namespace DescriptorSet

/-! ## Sets with functions in another order -/

/-- Two sets have the same services, and the same functions of distinct ids in any order. -/
structure Reordered (set other : DescriptorSet) : Prop where
  nsds : set.nsds = other.nsds
  vnfds : set.vnfds.Perm other.vnfds
  distinct : (other.vnfds.map (·.id)).Nodup

namespace Reordered

variable {set other : DescriptorSet} (reordered : Reordered set other)
include reordered

theorem vnfd?_eq (id : String) : set.vnfd? id = other.vnfd? id :=
  find?_perm_key Vnfd.id reordered.distinct reordered.vnfds id

theorem checkedVnfd?_eq (id : String) :
    checkedVnfd? set.vnfds id = checkedVnfd? other.vnfds id := by
  have forward : set.vnfds.reverse.Perm other.vnfds := set.vnfds.reverse_perm.trans reordered.vnfds
  rw [checkedVnfd?, checkedVnfd?, find?_perm_key Vnfd.id reordered.distinct forward,
    find?_reverse_key Vnfd.id reordered.distinct]

/-- The one service of a set is described by the same template. -/
theorem templateOf_eq {nsd : Nsd} (one : other.nsds = [nsd]) :
    Translation.templateOf set = Translation.templateOf other :=
  Translation.templateOf_congr (reordered.nsds.trans one) one reordered.vnfd?_eq

/-- The functions have the same issues in another order, and the services the same in the same
order. -/
theorem validate_perm : set.validate.Perm other.validate := by
  have services (nsd : Nsd) : nsd.validate set.vnfds = nsd.validate other.vnfds :=
    nsd.validate_congr reordered.checkedVnfd?_eq
  simp only [validate, services, reordered.nsds]
  exact (reordered.vnfds.flatMap_right Vnfd.validate).append_right _

end Reordered

/-! ## Documents in another order -/

/-- Documents of one service are merged to the same descriptors in any order. -/
theorem reordered_foldl_merge {documents others : List DescriptorSet} {nsd : Nsd}
    (reordered : documents.Perm others)
    (distinct : ((documents.flatMap (·.vnfds)).map (·.id)).Nodup)
    (one : documents.flatMap (·.nsds) = [nsd]) :
    Reordered (documents.foldl merge {}) (others.foldl merge {}) ∧
      (others.foldl merge {}).nsds = [nsd] := by
  have vnfds : (documents.flatMap (·.vnfds)).Perm (others.flatMap (·.vnfds)) :=
    reordered.flatMap_right _
  have otherDistinct : ((others.flatMap (·.vnfds)).map (·.id)).Nodup :=
    (vnfds.map _).nodup_iff.mp distinct
  have otherOne : others.flatMap (·.nsds) = [nsd] :=
    List.perm_singleton.mp (one ▸ (reordered.flatMap_right (·.nsds)).symm)
  rw [foldl_merge_of_distinct (by simp [one]) distinct,
    foldl_merge_of_distinct (by simp [otherOne]) otherDistinct]
  exact ⟨⟨one.trans otherOne.symm, vnfds, otherDistinct⟩, otherOne⟩

/-- Documents that hold one service together, and functions of distinct ids, are merged in any order
to sets that have the same template, or cannot be translated for the same reason, and that have the
same issues up to their order. So the order does not matter in which files of such documents are
loaded. -/
theorem foldl_merge_reordered {documents others : List DescriptorSet}
    (reordered : documents.Perm others)
    (distinct : ((documents.flatMap (·.vnfds)).map (·.id)).Nodup)
    (one : (documents.flatMap (·.nsds)).length = 1) :
    let set := documents.foldl merge {}
    let other := others.foldl merge {}
    Translation.templateOf set = Translation.templateOf other ∧
      set.validate.Perm other.validate ∧
      ∀ tree paths otherPaths,
        List.Forall₂ (fun path document => load tree path = .ok document) paths documents →
        List.Forall₂ (fun path document => load tree path = .ok document) otherPaths others →
          loadAll tree paths = .ok set ∧ loadAll tree otherPaths = .ok other := by
  intro set other
  obtain ⟨nsd, one⟩ := List.length_eq_one_iff.mp one
  obtain ⟨alike, own⟩ : Reordered set other ∧ other.nsds = [nsd] :=
    reordered_foldl_merge reordered distinct one
  exact ⟨alike.templateOf_eq own, alike.validate_perm, fun _ _ _ loaded otherLoaded =>
    ⟨loadAll_eq loaded, loadAll_eq otherLoaded⟩⟩

/-- Files with a service and with each of its functions. -/
def pairFiles : List (String × String) :=
  [("pair.json", "\x7b\"nsd-catalog\":\x7b\"nsd\":[\x7b\"id\":\"pair\",\"constituent-vnfd\":" ++
      "[[1,\"pong\"],[2,\"ping\"]]\x7d]\x7d\x7d"),
    ("ping.json", "\x7b\"vnfd-catalog\":\x7b\"vnfd\":[\x7b\"id\":\"ping\"\x7d]\x7d\x7d"),
    ("pong.json", "\x7b\"vnfd-catalog\":\x7b\"vnfd\":[\x7b\"id\":\"pong\"\x7d]\x7d\x7d")]

/-- The tree of the files. -/
def pairTree : FileTree :=
  ⟨pairFiles.map fun file => ([file.1], .file (.bytes (Utf8.encode file.2)) false)⟩

/-- What the files hold. -/
def pairDocuments : List DescriptorSet :=
  [{ nsds := [{
        id := "pair"
        constituents := [{ index := 1, vnfd := "pong" }, { index := 2, vnfd := "ping" }] }] },
    { vnfds := [{ id := "ping" }] }, { vnfds := [{ id := "pong" }] }]

theorem loaded_pairFiles : List.Forall₂ (fun path document => load pairTree path = .ok document)
    (pairFiles.map Prod.fst) pairDocuments := by
  refine .cons ?_ (.cons ?_ (.cons ?_ .nil)) <;> exact toOption_eq_some.mp (by decide +kernel)

/-- Loaded from the last file to the first, the functions change places, and so do the reports that
they have no machines. The template stays. -/
theorem pairFiles_reordered :
    pairDocuments.Perm pairDocuments.reverse ∧
      ((pairDocuments.flatMap (·.vnfds)).map (·.id)).Nodup ∧
      (pairDocuments.flatMap (·.nsds)).length = 1 ∧
      ∃ set other, loadAll pairTree ["pair.json", "ping.json", "pong.json"] = .ok set ∧
        loadAll pairTree ["pong.json", "ping.json", "pair.json"] = .ok other ∧
        Translation.templateOf set = Translation.templateOf other ∧
        set.validate.Perm other.validate ∧ set.validate ≠ other.validate := by
  have reordered : pairDocuments.Perm pairDocuments.reverse := (List.reverse_perm _).symm
  have distinct : ((pairDocuments.flatMap (·.vnfds)).map (·.id)).Nodup := by decide
  have one : (pairDocuments.flatMap (·.nsds)).length = 1 := by decide
  obtain ⟨same, issues, files⟩ := foldl_merge_reordered reordered distinct one
  obtain ⟨first, second⟩ :=
    files pairTree _ _ loaded_pairFiles (List.rel_reverse loaded_pairFiles)
  exact ⟨reordered, distinct, one, _, _, first, second, same, issues, by decide +kernel⟩

end DescriptorSet

end NfvCatalog
