import NfvCatalog.Onboard.Upload
import NfvCatalog.Proofs.Files.Path
import NfvCatalog.Proofs.Outcome
import NfvCatalog.Proofs.Package.Confirmed
import NfvCatalog.Proofs.Text.Blank

/-! # What is uploaded

A file is sent to the server once or not at all. Unless the upload is forced, a package is sent only
if it agrees with its manifest and holds descriptors without errors, and a descriptor file only if
its descriptors have none.
-/

namespace NfvCatalog

/-! ## Fit files -/

/-- Descriptors in which no issue is an error. -/
def DescriptorSet.IsSound (set : DescriptorSet) : Prop :=
  ∀ issue ∈ set.validate, issue.severity ≠ .error

namespace Precheck

variable {tree : FileTree} {path : String}

/-- A package that agrees with its manifest, and whose descriptors can be read and are sound. -/
structure FitPackage (tree : FileTree) (path : String) : Prop where
  report : ∃ report, PackageReport.inspect tree path = .ok report ∧ report.IsComplete
  descriptors : ∃ kind set, DescriptorSet.loadPackage tree path = .ok (kind, set) ∧ set.IsSound

/-- A descriptor file that can be read and whose descriptors are sound. -/
def FitFile (tree : FileTree) (path : String) : Prop :=
  ∃ set, DescriptorSet.load tree path = .ok set ∧ set.IsSound

/-- A file that may be uploaded: a package and a descriptor file have to be fit, as their paths tell
what they are. -/
structure Fit (tree : FileTree) (path : String) : Prop where
  package : (∃ front, path = front ++ ".tar.gz" ∨ path = front ++ ".tgz") → FitPackage tree path
  file : ∀ extension, Path.extension? path = some extension →
    Text.asciiLower extension ∈ ["yaml", "yml", "json"] → FitFile tree path

/-! ## What is checked -/

theorem isPackage_iff :
    isPackage path = true ↔ ∃ front, path = front ++ ".tar.gz" ∨ path = front ++ ".tgz" := by
  rw [isPackage, Bool.or_eq_true, Text.endsWith_iff, Text.endsWith_iff, exists_or]

theorem ofPath?_isSome_iff :
    (Format.ofPath? path).isSome = true ↔ ∃ extension, Path.extension? path = some extension ∧
      Text.asciiLower extension ∈ ["yaml", "yml", "json"] := by
  rw [Format.ofPath?]
  cases Path.extension? path with
  | none => simp
  | some extension =>
    simp only [Format.ofName?, Option.some.injEq, exists_eq_left', List.mem_cons,
      List.not_mem_nil, or_false]
    split_ifs <;> grind

/-- A package is no descriptor file. -/
theorem ofPath?_of_isPackage (package : isPackage path = true) : Format.ofPath? path = none := by
  have unknown (front extension : String) (nonempty : extension ≠ "")
      (undotted : '.' ∉ extension.toList) (whole : '/' ∉ extension.toList)
      (other : Format.ofName? extension = none) :
      Format.ofPath? (front ++ "." ++ extension) = none := by
    rw [Format.ofPath?]
    rcases Path.extension?_append front nonempty undotted whole with extension | extension
    · rw [extension]
    · rw [extension]
      exact other
  obtain ⟨front, rfl | rfl⟩ := isPackage_iff.mp package
  · have cut : front ++ ".tar.gz" = front ++ ".tar" ++ "." ++ "gz" := by
      simp only [String.append_assoc]
      rfl
    rw [cut]
    exact unknown _ "gz" (by decide) (by decide) (by decide) (by decide)
  · have cut : front ++ ".tgz" = front ++ "." ++ "tgz" := by
      simp only [String.append_assoc]
      rfl
    rw [cut]
    exact unknown _ "tgz" (by decide) (by decide) (by decide) (by decide)

theorem ofDescriptors_eq_nil_iff {set : DescriptorSet} : ofDescriptors set = [] ↔ set.IsSound := by
  have sound : set.IsSound ↔ Issue.hasErrors set.validate = false := by
    simp [DescriptorSet.IsSound, Issue.hasErrors, Issue.isError]
  rw [sound, ofDescriptors]
  cases found : Issue.hasErrors set.validate with
  | false => simp
  | true =>
    obtain ⟨issue, member, -⟩ := List.any_eq_true.mp found
    simpa using List.ne_nil_of_mem member

theorem ofReport_eq_nil_iff {report : PackageReport} :
    ofReport report = [] ↔
      report.hasManifest = true ∧ report.mismatched = [] ∧ report.missing = [] := by
  cases manifest : report.hasManifest <;> simp [ofReport, manifest]

/-- The report on a package names the descriptor that is found. -/
theorem descriptor_of_ofContents {contents : PackageContents} {report : PackageReport}
    (made : PackageReport.ofContents contents = .ok report) :
    report.descriptor = contents.descriptor?.map (·.path) := by
  rw [PackageReport.ofContents] at made
  split at made
  · obtain rfl := Except.ok.inj made
    rfl
  · split at made
    · cases made
    · obtain rfl := Except.ok.inj made
      rfl

/-- A package whose descriptors can be read is reported with its descriptor. -/
theorem descriptor_of_loadPackage {report : PackageReport} {found : DescriptorKind × DescriptorSet}
    (inspected : PackageReport.inspect tree path = .ok report)
    (loaded : DescriptorSet.loadPackage tree path = .ok found) : report.descriptor ≠ none := by
  rw [PackageReport.inspect, bind_eq_ok] at inspected
  obtain ⟨contents, opened, inspected⟩ := inspected
  rw [DescriptorSet.loadPackage, opened, ok_bind] at loaded
  have made : PackageReport.ofContents contents = .ok report := by
    split at inspected
    · next made =>
      obtain rfl := Except.ok.inj inspected
      exact made
    · cases inspected
  rw [descriptor_of_ofContents made]
  cases there : contents.descriptor? with
  | some file => simp
  | none =>
    rw [there] at loaded
    cases loaded

/-- No problem of a package is found exactly if it is fit. -/
theorem ofPackage_eq_nil_iff : ofPackage tree path = [] ↔ FitPackage tree path := by
  rw [ofPackage]
  cases inspected : PackageReport.inspect tree path with
  | error failure =>
    refine ⟨nofun, ?_⟩
    rintro ⟨⟨report, given, -⟩, -⟩
    cases inspected.symm.trans given
  | ok report =>
    dsimp only
    cases loaded : DescriptorSet.loadPackage tree path with
    | error failure =>
      refine ⟨fun none => absurd none (by simp), ?_⟩
      rintro ⟨-, kind, set, given, -⟩
      cases loaded.symm.trans given
    | ok found =>
      obtain ⟨kind, set⟩ := found
      dsimp only
      have descriptor := descriptor_of_loadPackage inspected loaded
      constructor
      · intro none
        by_cases agrees : ofReport report = []
        · obtain ⟨manifest, mismatched, missing⟩ := ofReport_eq_nil_iff.mp agrees
          rw [agrees] at none
          exact ⟨⟨report, inspected, descriptor, manifest, mismatched, missing⟩, kind, set, loaded,
            ofDescriptors_eq_nil_iff.mp none⟩
        · rw [if_neg (by simpa using agrees)] at none
          exact absurd none agrees
      · rintro ⟨⟨report', given, complete⟩, kind', set', given', sound⟩
        obtain rfl := Except.ok.inj (inspected.symm.trans given)
        obtain ⟨rfl, rfl⟩ := Prod.mk.inj (Except.ok.inj (loaded.symm.trans given'))
        have agrees := ofReport_eq_nil_iff.mpr
          ⟨complete.manifest, complete.mismatched, complete.missing⟩
        rw [agrees]
        exact ofDescriptors_eq_nil_iff.mpr sound

theorem ofFile_eq_nil_iff : ofFile tree path = [] ↔ FitFile tree path := by
  rw [ofFile, FitFile]
  cases loaded : DescriptorSet.load tree path with
  | error failure => simp
  | ok set => simp [ofDescriptors_eq_nil_iff]

/-- No problem is found exactly if the file is fit. -/
theorem problems_eq_nil_iff : problems tree path = [] ↔ Fit tree path := by
  rw [problems]
  split
  · next package =>
    rw [ofPackage_eq_nil_iff]
    refine ⟨fun fit => ⟨fun _ => fit, fun extension found known => ?_⟩, fun fit => ?_⟩
    · have isFile := ofPath?_isSome_iff.mpr ⟨extension, found, known⟩
      rw [ofPath?_of_isPackage package] at isFile
      cases isFile
    · exact fit.package (isPackage_iff.mp package)
  · next package =>
    have noPackage (ends : ∃ front, path = front ++ ".tar.gz" ∨ path = front ++ ".tgz") :
        FitPackage tree path := absurd (isPackage_iff.mpr ends) package
    split
    · next known =>
      obtain ⟨extension, found, known⟩ := ofPath?_isSome_iff.mp known
      rw [ofFile_eq_nil_iff]
      exact ⟨fun fit => ⟨noPackage, fun _ _ _ => fit⟩, fun fit => fit.file extension found known⟩
    · next unknown =>
      refine iff_of_true rfl ⟨noPackage, fun extension found known => ?_⟩
      exact absurd (ofPath?_isSome_iff.mpr ⟨extension, found, known⟩) unknown

end Precheck

/-! ## Uploads -/

/-- Whether a call sends a file. -/
def ServerCall.isUpload : ServerCall → Bool
  | .upload _ _ => true
  | .state _ => false

namespace Upload

/-- Following a transaction sends no file. -/
theorem uploads_follow (options : UploadOptions) (path transaction : String)
    (replies : List StateReply) :
    (follow options path transaction replies).calls.filter (·.isUpload) = [] := by
  rw [follow]
  split
  · exact List.filter_eq_nil_iff.mpr fun call member => by
      rw [List.eq_of_mem_replicate member]
      exact Bool.false_ne_true
  · rfl

/-- A file that is sent is sent once. -/
theorem uploads_send (options : UploadOptions) (server : UploadServer) (path : String) :
    (send options server path).calls.filter (·.isUpload) = [.upload path options.update] := by
  rw [send]
  cases server.upload with
  | error error => rfl
  | ok transaction =>
    change ServerCall.upload path options.update :: List.filter _ _ = _
    rw [uploads_follow]

/-- A file is sent if it is there, and fit or forced. -/
theorem uploads_run (options : UploadOptions) (server : UploadServer) (tree : FileTree)
    (path : String) :
    (run options server tree path).calls.filter (·.isUpload) =
      if tree.isFile path = true ∧ (Precheck.problems tree path = [] ∨ options.force = true) then
        [.upload path options.update]
      else [] := by
  rw [run]
  cases isFile : tree.isFile path with
  | false => simp
  | true =>
    simp only [Bool.not_true, Bool.false_eq_true, if_false, true_and, Bool.or_eq_true,
      List.isEmpty_iff]
    split
    · exact uploads_send options server path
    · rfl

/-- A file is sent once at most. Forced, it is sent exactly if it is there; otherwise exactly if it
is there and fit. -/
theorem run_uploads (options : UploadOptions) (server : UploadServer) (tree : FileTree)
    (path : String) :
    let uploads := (run options server tree path).calls.filter (·.isUpload)
    uploads.length ≤ 1 ∧
      (options.force = true → (uploads ≠ [] ↔ tree.isFile path = true)) ∧
      (options.force = false →
        (uploads ≠ [] ↔ tree.isFile path = true ∧ Precheck.Fit tree path)) := by
  intro uploads
  rw [← Precheck.problems_eq_nil_iff, show uploads = _ from uploads_run options server tree path]
  refine ⟨?_, fun forced => ?_, fun unforced => ?_⟩
  · split <;> simp
  · simp [forced]
  · simp [unforced]

/-- An empty package. -/
def hollowTree : FileTree := ⟨[(["hollow.tgz"], .file (.archive []) false)]⟩

theorem hollowTree_refused :
    let server : UploadServer := { upload := .ok "42" }
    let uploads := fun options : UploadOptions =>
      (run options server hollowTree "hollow.tgz").calls.filter (·.isUpload)
    hollowTree.isFile "hollow.tgz" = true ∧ uploads { } = [] ∧ uploads { force := true } ≠ [] := by
  intro server uploads
  have isFile : hollowTree.isFile "hollow.tgz" = true := by decide
  have gated := fun options => run_uploads options server hollowTree "hollow.tgz"
  refine ⟨isFile, ?_, ((gated { force := true }).2.1 rfl).mpr isFile⟩
  by_contra sent
  obtain ⟨-, fit⟩ := ((gated { }).2.2 rfl).mp sent
  obtain ⟨⟨report, inspected, -⟩, -⟩ := fit.package ⟨"hollow", .inr rfl⟩
  cases inspected

end Upload

end NfvCatalog
