import NfvCatalog.Proofs.Package.Confirmed
import NfvCatalog.Proofs.Translation.WrittenFiles

/-! # Written packages

The packages that a service is written to are inspected. Each has the descriptor, the manifest and
the artifacts that the descriptor owns and that are there. The report confirms it unless the stem of
the descriptor is a dot, which is no name of a directory, or the path of an artifact cannot be
listed in a manifest.
-/

namespace NfvCatalog.Translation

/-! ## Stems as names of packages -/

theorem isBlank_of_isStemChar {c : Char} (plain : isStemChar c = true) :
    Text.isBlank c = false := by
  have small : c.toNat < 128 := by
    delta isStemChar Char.isAlphanum Char.isAlpha Char.isUpper Char.isLower Char.isDigit at plain
    simp only [Bool.or_eq_true, Bool.and_eq_true, decide_eq_true_eq] at plain
    obtain (((((⟨-, upper⟩ | ⟨-, upper⟩) | ⟨-, upper⟩) | rfl) | rfl) | rfl) := plain
    any_goals decide
    all_goals exact Nat.lt_of_le_of_lt (UInt32.le_iff_toNat_le.mp upper) (by decide)
  let isShown (c : Char) : Prop := isStemChar c = true → Text.isBlank c = false
  have own : isShown c := Text.of_ascii (by decide +kernel) small
  exact own plain

/-- Stem characters can be listed in a manifest. -/
theorem listable_of_stemChars {text : String} (plain : ∀ c ∈ text.toList, isStemChar c = true) :
    Manifest.Listable text where
  line inside := absurd (plain '\n' inside) (by decide)
  trimmed := Text.trimChars_eq_self
    (fun c first => isBlank_of_isStemChar (plain c (List.mem_of_head? first)))
    fun c last => isBlank_of_isStemChar (plain c (List.mem_of_getLast? last))

/-- A stem is a name unless it is one dot or two. -/
theorem IsStem.named {stem : String} (isStem : IsStem stem) (notParent : stem ≠ "..") :
    stem = "." ∨ Path.IsName stem := by
  by_cases dot : stem = "."
  · exact .inl dot
  · exact .inr ⟨isStem.nonempty, dot, notParent,
      fun slash => absurd (isStem.plain '/' slash) (by decide)⟩

/-- The plan of a descriptor alone is sound. -/
theorem IsStem.sound {stem : String} (isStem : IsStem stem) (notParent : stem ≠ "..")
    (kind : DescriptorKind) (descriptor : String) (format : Format) :
    PackagePlan.Sound ⟨kind, stem, descriptor, format, []⟩ where
  named := isStem.named notParent
  plainName inside := absurd (isStem.plain '\x00' inside) (by decide)
  descriptor := by
    have ending : ("_" ++ kind.name ++ "." ++ format.name).toList.all isStemChar = true := by
      cases kind <;> cases format <;> decide
    have whole : PackagePlan.descriptorPath ⟨kind, stem, descriptor, format, []⟩ =
        stem ++ ("_" ++ kind.name ++ "." ++ format.name) := by
      simp [PackagePlan.descriptorPath, String.append_assoc]
    rw [whole]
    exact listable_of_stemChars (isStem.append (List.all_eq_true.mp ending)).plain
  below := nofun
  plain := nofun
  distinct := .nil

/-! ## Planned artifacts -/

/-- The artifacts that are there as files, each with its path in the package. -/
def filesFor (tree : FileTree) (source : String) (artifacts : List Artifact) :
    List (String × String) :=
  artifacts.filterMap fun artifact =>
    let path := Path.join source artifact.source
    if tree.isFile path then PackagePlan.fileIn? artifact.kind.directory path else none

theorem isFile_of_mem_filesFor {tree : FileTree} {source : String} {artifacts : List Artifact}
    {file : String × String} (member : file ∈ filesFor tree source artifacts) :
    tree.isFile file.2 = true := by
  obtain ⟨artifact, -, found⟩ := List.mem_filterMap.mp member
  simp only at found
  split at found
  · next there => rwa [(PackagePlan.fileIn?_eq_some found).1]
  · cases found

theorem filterMap_additionsFor (tree : FileTree) (source : String) (artifacts : List Artifact) :
    (additionsFor tree source artifacts).filterMap Addition.file? =
      filesFor tree source artifacts := by
  rw [additionsFor, filesFor, List.filterMap_filterMap]
  refine List.filterMap_congr fun artifact _ => ?_
  by_cases there : tree.isFile (Path.join source artifact.source) = true <;>
    simp [there, Addition.file?_eq]

/-! ## Files of a stage -/

/-- The artifacts that a descriptor owns and that are there, each with its path in the package. -/
def Stage.files (stage : Stage) (service : Service) (source : String) : List (String × String) :=
  filesFor stage.tree source (service.artifacts.filter (·.owner = stage.item.owner))

/-- The first artifact for a path in the package has the bytes. -/
def Stage.Supports (stage : Stage) (service : Service) (source path : String)
    (bytes : List UInt8) : Prop :=
  ∃ file, Keyed.get? (stage.files service source) path = some file ∧
    PackagePlan.sourceBytes stage.tree file = .ok bytes

/-- Each path that an artifact gets in a package has the bytes of one file. -/
theorem Stage.existsUnique_supports {stage : Stage} {service : Service} {source path : String}
    (known : path ∈ (stage.files service source).map Prod.fst) :
    ∃! bytes, stage.Supports service source path bytes := by
  obtain ⟨file, found⟩ := Option.ne_none_iff_exists'.mp fun absent =>
    Keyed.get?_eq_none_iff.mp absent known
  obtain ⟨entry, hit, rfl⟩ := Option.map_eq_some_iff.mp found
  obtain ⟨content, held⟩ :=
    FileTree.isFile_iff.mp (isFile_of_mem_filesFor (List.mem_of_find?_eq_some hit))
  obtain ⟨bytes, read⟩ : ∃ bytes, PackagePlan.sourceBytes stage.tree entry.2 = .ok bytes := by
    rw [PackagePlan.sourceBytes, held]
    cases content <;> exact ⟨_, rfl⟩
  refine ⟨bytes, ⟨entry.2, found, read⟩, ?_⟩
  rintro other ⟨file, same, readOther⟩
  obtain rfl := Option.some.inj (found.symm.trans same)
  exact Except.ok.inj (readOther.symm.trans read)

/-! ## Inspected packages -/

/-- The package of a stage is found at its path, and the report on it confirms it. -/
def Stage.Confirmed (stage : Stage) (service : Service) (format : Format) (source : String)
    (after : FileTree) (path : String) : Prop :=
  ∃ report, PackageReport.inspect after path = .ok report ∧
    report.Confirms stage.item.kind stage.stem stage.item.text format
      (stage.Supports service source)

/-- The stem of a stage names a directory, and the paths of its artifacts can be listed. -/
def Stage.Listable (stage : Stage) (service : Service) (source : String) : Prop :=
  stage.stem ≠ "." ∧ ∀ file ∈ stage.files service source, Manifest.Listable file.1

instance (stage : Stage) (service : Service) (source : String) :
    Decidable (stage.Listable service source) := inferInstanceAs (Decidable (_ ∧ _))

/-- The package of a stage is confirmed exactly if all that it consists of can be listed. -/
theorem Stage.confirmed_iff {stage : Stage} {service : Service} {target source path : String}
    {format : Format} {after last : FileTree} (isStem : IsStem stage.stem)
    (written : writeItem stage.tree service ⟨format, true⟩ target source stage.stem stage.item =
      (after, .ok path))
    (kept : ∀ content, after.read path = .ok content → last.read path = .ok content) :
    stage.Confirmed service format source last path ↔ stage.Listable service source := by
  obtain ⟨plan, planned, built⟩ := writeItem_archive_ok rfl written
  obtain ⟨rfl, between, members, made, archived, new⟩ := PackagePlan.build_ok built
  have adds := addArtifacts_adds planned
  obtain ⟨planFiles, rfl⟩ : ∃ files, plan =
      ⟨stage.item.kind, stage.stem, stage.item.text, format, files⟩ :=
    ⟨_, adds.keeps⟩
  have alone := isStem.sound (PackagePlan.name_ne_parent archived) stage.item.kind
    stage.item.text format
  have sound := adds.sound alone
  have counted (path : String) :
      Keyed.get? planFiles path = Keyed.get? (stage.files service source) path := by
    rw [adds.files, filterMap_additionsFor]
    rfl
  have inFiles (path file : String) : (path, file) ∈ planFiles ↔
      Keyed.get? (stage.files service source) path = some file := by
    rw [← Keyed.get?_eq_some_iff sound.distinct, counted]
  have supports : (fun path bytes => ∃ file, (path, file) ∈ planFiles ∧
      PackagePlan.sourceBytes between file = .ok bytes) = stage.Supports service source := by
    funext path bytes
    refine propext (exists_congr fun file => ?_)
    rw [inFiles]
    refine and_congr_right fun found => ?_
    obtain ⟨entry, hit, rfl⟩ := Option.map_eq_some_iff.mp found
    rw [PackagePlan.sourceBytes_of_makeDirectories
      (isFile_of_mem_filesFor (List.mem_of_find?_eq_some hit)) made]
  have paths (path : String) : path ∈ planFiles.map Prod.fst ↔
      path ∈ (stage.files service source).map Prod.fst := by
    rw [← not_iff_not, ← Keyed.get?_eq_none_iff, ← Keyed.get?_eq_none_iff, counted]
  have confirms := sound.confirms_iff archived (kept _ (FileTree.read_of_write new))
  simp only [supports, paths, List.forall_mem_map] at confirms
  exact confirms

/-- Nothing that a run writes later changes the report on a package. -/
theorem confirmed_of_writeItems {service : Service} {format : Format} {tree after : FileTree}
    {target source : String} {used paths : List String} {items : List OutputItem}
    (written : writeItems service ⟨format, true⟩ target source tree used items =
      (after, .ok paths)) :
    List.Forall₂ (fun stage path =>
        stage.Confirmed service format source after path ↔ stage.Listable service source)
      (stages service ⟨format, true⟩ target source tree used items) paths := by
  induction items generalizing tree used paths with
  | nil =>
    obtain rfl := Except.ok.inj (Prod.mk.inj written).2
    exact .nil
  | cons item rest ih =>
    obtain ⟨stem, path, others, between, rfl, isStem, rfl, -, first, run⟩ :=
      writeItems_cons_ok written
    rw [stages]
    simp only [first]
    refine .cons (Stage.confirmed_iff isStem first fun content held => ?_) (ih run)
    rw [(writeItem_ok isStem first).1] at held ⊢
    exact read_of_writeItems run isStem (List.mem_cons_self ..) held

/-- A service is written to packages one stage after another. Every package is found at its path
afterwards, and the report on it confirms it, exactly if the stem of its descriptor is not a dot and
the paths of its artifacts can be listed. -/
theorem confirmed_of_write {service : Service} {format : Format} {tree after : FileTree}
    {target source : String} {paths : List String}
    (written : service.write tree target source ⟨format, true⟩ = (after, .ok paths)) :
    List.Forall₂ (fun stage path =>
        stage.Confirmed service format source after path ↔ stage.Listable service source)
      (service.stages tree target source ⟨format, true⟩) paths := by
  rw [Service.write] at written
  split at written
  · cases written
  · next start made =>
    rw [Service.stages, made]
    exact confirmed_of_writeItems written

/-- A service with a function that has an image. -/
def imagedService : Service :=
  { nsd := { id := "pair", name := "pair" }
    vnfds := [{ id := "ping", name := "ping" }]
    artifacts := [⟨.image, "ping.img", .vnfd "ping"⟩] }

/-- The image. -/
def imageTree : FileTree := ⟨[(["ping.img"], .file (.bytes [1, 2, 3]) false)]⟩

/-- The stage in which the function is written. -/
def imagedStage : Stage :=
  { tree := ⟨imageTree.entries ++ [(["out"], .directory)]⟩
    stem := "ping"
    item :=
      { kind := .vnfd
        name := "ping"
        id := "ping"
        text := imagedService.vnfds[0].print .yaml
        owner := .vnfd "ping" } }

/-- Its package is confirmed, with the image. -/
theorem imagedService_confirmed :
    (imagedService.write imageTree "out" "" ⟨.yaml, true⟩).2 =
        .ok ["out/ping.tar.gz", "out/pair.tar.gz"] ∧
      ∃ report, PackageReport.inspect
          (imagedService.write imageTree "out" "" ⟨.yaml, true⟩).1 "out/ping.tar.gz" = .ok report ∧
        report.Confirms .vnfd "ping" (imagedService.vnfds[0].print .yaml) .yaml
          fun path bytes => path = "images/ping.img" ∧ bytes = [1, 2, 3] := by
  have written : (imagedService.write imageTree "out" "" ⟨.yaml, true⟩).2 =
      .ok ["out/ping.tar.gz", "out/pair.tar.gz"] := toOption_eq_some.mp (by decide +kernel)
  have first : (imagedService.stages imageTree "out" "" ⟨.yaml, true⟩).head? =
      some imagedStage := by
    decide +kernel
  have listable : imagedStage.Listable imagedService "" := by decide +kernel
  have files : imagedStage.files imagedService "" = [("images/ping.img", "ping.img")] := by
    decide +kernel
  have image : PackagePlan.sourceBytes imagedStage.tree "ping.img" = .ok [1, 2, 3] :=
    toOption_eq_some.mp (by decide +kernel)
  have supports : imagedStage.Supports imagedService "" =
      fun path bytes => path = "images/ping.img" ∧ bytes = [1, 2, 3] := by
    funext path bytes
    rw [Stage.Supports, files, eq_iff_iff]
    constructor
    · rintro ⟨file, found, read⟩
      obtain ⟨entry, hit, rfl⟩ := Option.map_eq_some_iff.mp found
      obtain rfl := List.mem_singleton.mp (List.mem_of_find?_eq_some hit)
      have same : "images/ping.img" = path := by simpa using List.find?_some hit
      exact ⟨same.symm, Except.ok.inj (read.symm.trans image)⟩
    · rintro ⟨rfl, rfl⟩
      exact ⟨"ping.img", by decide, image⟩
  refine ⟨written, ?_⟩
  generalize run : imagedService.write imageTree "out" "" ⟨.yaml, true⟩ = result at written ⊢
  obtain ⟨after, outcome⟩ := result
  obtain rfl : outcome = .ok _ := written
  have all := confirmed_of_write run
  generalize imagedService.stages imageTree "out" "" ⟨.yaml, true⟩ = stages at first all
  cases all with
  | @cons stage path rest others own _ =>
    obtain rfl : stage = imagedStage := Option.some.inj first
    obtain ⟨report, inspected, confirms⟩ := own.mpr listable
    exact ⟨report, inspected, supports ▸ confirms⟩

end NfvCatalog.Translation
