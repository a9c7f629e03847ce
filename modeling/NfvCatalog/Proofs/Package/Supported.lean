import NfvCatalog.Proofs.Lists.Ranked
import NfvCatalog.Proofs.Package.Planned

/-! # Supporting files

Files are added to a plan one after another, each for a directory of the package. Under the entry of
a file, the package that is built holds the first file that was added for this entry. So a file gets
lost exactly if this one has other bytes. Files with different entries may be added in any order: the
package that is built is the same.
-/

namespace NfvCatalog

/-- A supporting file to add: the files that are there at that time, the directory for it in the
package, and its path. -/
structure Addition where
  tree : FileTree
  directory : String
  path : String
deriving DecidableEq, Repr

namespace Addition

/-- The entry of a file in the package. -/
def packedPath? (addition : Addition) : Option String :=
  (Path.fileName? addition.path).map fun name => addition.directory ++ "/" ++ name

/-- The file with its entry. -/
def file? (addition : Addition) : Option (String × String) :=
  addition.packedPath?.map fun entry => (entry, addition.path)

theorem file?_eq (addition : Addition) :
    addition.file? = PackagePlan.fileIn? addition.directory addition.path := by
  rw [file?, packedPath?, PackagePlan.fileIn?, Option.map_map]
  rfl

/-- Of several files with an entry the first one is found. -/
theorem get?_files (additions : List Addition) (entry : String) :
    Keyed.get? (additions.filterMap file?) entry =
      (additions.find? (·.packedPath? = some entry)).map (·.path) := by
  have own (addition : Addition) :
      addition.file?.any (·.1 = entry) = decide (addition.packedPath? = some entry) := by
    cases found : addition.packedPath? <;> simp [file?, found]
  simp only [Keyed.get?, List.find?_filterMap, own]
  cases first : additions.find? (·.packedPath? = some entry) with
  | none => rfl
  | some addition =>
    have has : addition.packedPath? = some entry := by simpa using List.find?_some first
    simp [file?, has]

end Addition

namespace PackagePlan

variable {plan plan' : PackagePlan} {additions : List Addition}

/-- Add files one after another. -/
def addFiles (plan : PackagePlan) (additions : List Addition) : Except Failure PackagePlan :=
  additions.foldlM (fun plan addition =>
    plan.addFile addition.tree addition.directory addition.path) plan

/-- What files that are added do to a plan. -/
structure Adds (plan plan' : PackagePlan) (additions : List Addition) : Prop where
  keeps : plan' = { plan with files := plan'.files }
  entries : ∀ addition ∈ additions, addition.packedPath? ≠ none
  files : ∀ entry, Keyed.get? plan'.files entry =
    Keyed.get? (plan.files ++ additions.filterMap Addition.file?) entry
  distinct : (plan.files.map Prod.fst).Nodup → (plan'.files.map Prod.fst).Nodup
  sound : plan.Sound → plan'.Sound

theorem addFiles_ok (added : plan.addFiles additions = .ok plan') : Adds plan plan' additions := by
  induction additions generalizing plan with
  | nil =>
    obtain rfl := Except.ok.inj added
    exact ⟨rfl, nofun, fun entry => by simp, id, id⟩
  | cons addition rest ih =>
    obtain ⟨between, first, others⟩ := bind_eq_ok.mp added
    have later := ih others
    obtain ⟨-, -, file, found, same⟩ := addFile_ok first
    rw [← Addition.file?_eq] at found
    obtain ⟨entry, own, rfl⟩ := Option.map_eq_some_iff.mp found
    refine ⟨?_, List.forall_mem_cons.mpr ⟨?_, later.entries⟩, fun entry => ?_,
      later.distinct ∘ nodup_addFile first, fun sound => later.sound (sound.addFile first)⟩
    · rw [later.keeps, same]
    · exact Option.ne_none_iff_exists'.mpr ⟨entry, own⟩
    · rw [later.files, Keyed.get?_append, get?_addFile first (Addition.file?_eq addition ▸ found),
        ← Keyed.get?_append, List.append_assoc, List.filterMap_cons, found]
      rfl

/-! ## What an archive holds -/

/-- What an archive holds at a path: of several members the last one counts. -/
def heldAt? (members : List ArchiveMember) (path : String) : Option MemberKind :=
  (members.reverse.find? (·.path = path)).map (·.kind)

/-- A file of a package is held below the name of the package. -/
theorem heldAt?_members {name entry : String} {contents : List (String × List UInt8)}
    {bytes : List UInt8} (last : Keyed.last? contents entry = some bytes) :
    heldAt? (members name contents) (name ++ "/" ++ entry) = some (.file bytes) := by
  obtain ⟨file, found, rfl⟩ := Option.map_eq_some_iff.mp last
  simp only [heldAt?, members, List.reverse_append, List.find?_append, ← List.map_reverse,
    List.find?_map, Function.comp_def, String.append_right_inj, found, Option.map_some,
    Option.some_or]

/-- A supporting file is the last one that is packed with its path. -/
theorem last?_packed {files : List (String × List UInt8)} (distinct : (files.map Prod.fst).Nodup)
    {entry : String} {bytes : List UInt8} (member : (entry, bytes) ∈ files)
    (other : Manifest.fileName ≠ entry) :
    Keyed.last? (packed (plan.listed files)) entry = some bytes := by
  have own : Keyed.get? files.reverse entry = some bytes :=
    (Keyed.get?_eq_some_iff (by simpa using distinct)).mpr (List.mem_reverse.mpr member)
  have passed : Keyed.get?
      [(Manifest.fileName, Utf8.encode (manifestOf (plan.listed files)))] entry = none :=
    Keyed.get?_eq_none_iff.mpr (by simpa using other.symm)
  rw [Keyed.last?, packed, List.reverse_append, List.reverse_singleton, Keyed.get?_append, passed,
    Option.none_or, listed, List.reverse_cons, Keyed.get?_append, own, Option.some_or]

/-- Of each planned file the archive holds the bytes that are read. -/
theorem heldAt?_archive {tree : FileTree} {members : List ArchiveMember}
    (archived : plan.archive tree = .ok members) (distinct : (plan.files.map Prod.fst).Nodup)
    {entry path : String} (planned : Keyed.get? plan.files entry = some path)
    (other : Manifest.fileName ≠ entry) :
    ∃ bytes, sourceBytes tree path = .ok bytes ∧
      heldAt? members (plan.name ++ "/" ++ entry) = some (.file bytes) := by
  obtain ⟨files, read, rfl, -⟩ := archive_eq_ok archived
  have perm := List.mergeSort_perm plan.files fun a b => Text.le a.1 b.1
  obtain ⟨keys, each⟩ := mem_readFiles read
  have within : entry ∈ files.map Prod.fst :=
    keys ▸ (perm.map Prod.fst).symm.subset
      (List.mem_map_of_mem ((Keyed.get?_eq_some_iff distinct).mp planned))
  obtain ⟨⟨_, bytes⟩, member, rfl⟩ := List.mem_map.mp within
  obtain ⟨source, inPlan, given⟩ := (each _ _).mp member
  obtain rfl : path = source := Option.some.inj
    (planned.symm.trans ((Keyed.get?_eq_some_iff distinct).mpr (perm.subset inPlan)))
  have distinct : (files.map Prod.fst).Nodup := by
    rwa [keys, (perm.map Prod.fst).nodup_iff]
  exact ⟨bytes, given, heldAt?_members (last?_packed distinct member other)⟩

/-- An archive holds a file that was added, under its entry in the package and with its own
bytes. -/
def Holds (plan : PackagePlan) (tree : FileTree) (members : List ArchiveMember)
    (addition : Addition) : Prop :=
  ∃ entry bytes, addition.packedPath? = some entry ∧ sourceBytes tree addition.path = .ok bytes ∧
    heldAt? members (plan.name ++ "/" ++ entry) = some (.file bytes)

/-- Files are added to a new plan, and its package is built: the archive is written, and once the
directory for it is there the files are read. Of the files for an entry the archive has the bytes of
the first one. So all files are held exactly if files for one entry have the same bytes. -/
theorem build_holds {tree after : FileTree} {target path : String} (new : plan.files = [])
    (added : plan.addFiles additions = .ok plan')
    (built : plan'.build tree target = (after, .ok path)) :
    ∃ between members, tree.makeDirectories target = .ok between ∧
      after.read path = .ok (.archive members) ∧
        (∀ addition ∈ additions, ∃ first, plan.Holds between members first ∧
          additions.find? (·.packedPath? = addition.packedPath?) = some first) ∧
          ((∀ addition ∈ additions, plan.Holds between members addition) ↔
            ∀ one ∈ additions, ∀ other ∈ additions, one.packedPath? = other.packedPath? →
              sourceBytes between one.path = sourceBytes between other.path) := by
  obtain ⟨keeps, entries, files, distinct, -⟩ := addFiles_ok added
  obtain ⟨-, between, members, made, archived, written⟩ := build_ok built
  have name : plan'.name = plan.name := by rw [keeps]
  have distinct := distinct (by simp [new])
  have first : ∀ addition ∈ additions, ∃ first, plan.Holds between members first ∧
      additions.find? (·.packedPath? = addition.packedPath?) = some first := by
    intro addition member
    obtain ⟨entry, own⟩ := Option.ne_none_iff_exists'.mp (entries addition member)
    obtain ⟨first, found⟩ : ∃ first, additions.find? (·.packedPath? = some entry) = some first :=
      Option.isSome_iff_exists.mp (List.find?_isSome.mpr ⟨addition, member, by simpa using own⟩)
    have planned : Keyed.get? plan'.files entry = some first.path := by
      rw [files, new, List.nil_append, Addition.get?_files, found, Option.map_some]
    have other : Manifest.fileName ≠ entry := by
      rintro rfl
      obtain ⟨name, -, same⟩ := Option.map_eq_some_iff.mp own
      exact isName_manifest.whole (same ▸ by simp)
    obtain ⟨bytes, given, held⟩ := heldAt?_archive archived distinct planned other
    have has : first.packedPath? = some entry := by simpa using List.find?_some found
    exact ⟨first, ⟨entry, bytes, has, given, name ▸ held⟩, own ▸ found⟩
  refine ⟨between, members, made, FileTree.read_of_write written, first,
    fun all one isOne other isOther same => ?_, fun agree addition member => ?_⟩
  · obtain ⟨entry, bytes, has, given, held⟩ := all one isOne
    obtain ⟨entry', bytes', has', given', held'⟩ := all other isOther
    obtain rfl : entry = entry' := Option.some.inj (has.symm.trans (same.trans has'))
    obtain rfl : bytes = bytes' := by simpa [held] using held'
    rw [given, given']
  · obtain ⟨earlier, ⟨entry, bytes, has, given, held⟩, found⟩ := first addition member
    have same : earlier.packedPath? = addition.packedPath? := by simpa using List.find?_some found
    refine ⟨entry, bytes, same ▸ has, ?_, held⟩
    rw [← agree earlier (List.mem_of_find?_eq_some found) addition member same, given]

/-- A directory with two images of one name. -/
def twinTree : FileTree :=
  ⟨[(["a"], .directory), (["a", "ping.qcow2"], .file (.bytes [1]) false),
    (["b"], .directory), (["b", "ping.qcow2"], .file (.bytes [2]) false)]⟩

/-- Both images. -/
def twinImages : List Addition :=
  [⟨twinTree, "images", "a/ping.qcow2"⟩, ⟨twinTree, "images", "b/ping.qcow2"⟩]

/-- A plan for a package without supporting files. -/
def pingPlan : PackagePlan := { kind := .vnfd, name := "ping", descriptor := "" }

theorem twinImages_holds : ∃ plan after between members,
    pingPlan.addFiles twinImages = .ok plan ∧
      plan.build twinTree "out" = (after, .ok "out/ping.tar.gz") ∧
        twinTree.makeDirectories "out" = .ok between ∧
          after.read "out/ping.tar.gz" = .ok (.archive members) ∧
            heldAt? members "ping/images/ping.qcow2" = some (.file [1]) ∧
              ¬ ∀ addition ∈ twinImages, pingPlan.Holds between members addition := by
  let plan : PackagePlan := { pingPlan with files := [("images/ping.qcow2", "a/ping.qcow2")] }
  have added : pingPlan.addFiles twinImages = .ok plan :=
    toOption_eq_some.mp (by decide +kernel)
  have built : (plan.build twinTree "out").2 = .ok "out/ping.tar.gz" :=
    toOption_eq_some.mp (by decide +kernel)
  obtain ⟨between, members, made, read, first, all⟩ := build_holds rfl added (Prod.ext rfl built)
  have one : sourceBytes between "a/ping.qcow2" = .ok [1] := by
    rw [sourceBytes_of_makeDirectories (by decide +kernel) made]
    rfl
  have two : sourceBytes between "b/ping.qcow2" = .ok [2] := by
    rw [sourceBytes_of_makeDirectories (by decide +kernel) made]
    rfl
  obtain ⟨earlier, ⟨entry, bytes, has, given, held⟩, found⟩ :=
    first ⟨twinTree, "images", "a/ping.qcow2"⟩ (by decide)
  obtain rfl := Option.some.inj ((rfl : twinImages.find? _ = some _).symm.trans found)
  obtain rfl : "images/ping.qcow2" = entry := Option.some.inj has
  obtain rfl := Except.ok.inj (one.symm.trans given)
  refine ⟨plan, _, between, members, added, Prod.ext rfl built, made, read, held,
    fun holds => ?_⟩
  have same := all.mp holds _ (List.mem_cons_self ..) _
    (List.mem_cons_of_mem _ (List.mem_cons_self ..)) rfl
  rw [one, two] at same
  exact absurd same (by decide)

end PackagePlan

/-! ## Files in any order -/

namespace Addition

/-- The file with its entry, unless it is refused. -/
def accepted? (addition : Addition) : Option (String × String) :=
  if addition.directory ∈ packageDirectories ∧ addition.tree.isFile addition.path = true then
    addition.file?
  else none

/-- A file that is accepted has an entry. -/
theorem packedPath?_of_accepted? {addition : Addition} {file : String × String}
    (accepted : addition.accepted? = some file) : addition.packedPath? = some file.1 := by
  rw [accepted?] at accepted
  split at accepted
  · obtain ⟨entry, own, rfl⟩ := Option.map_eq_some_iff.mp accepted
    exact own
  · cases accepted

end Addition

namespace PackagePlan

variable {plan : PackagePlan} {additions others : List Addition}

/-- The plan after trying to add a file: nothing happens to it if the file is refused. -/
def tryFile (plan : PackagePlan) (addition : Addition) : PackagePlan :=
  match plan.addFile addition.tree addition.directory addition.path with
  | .ok plan => plan
  | .error _ => plan

/-- Try to add files one after another. -/
def tryFiles (plan : PackagePlan) (additions : List Addition) : PackagePlan :=
  additions.foldl tryFile plan

/-- The file of an addition that is accepted, if no planned file has its entry. -/
def newFile? (plan : PackagePlan) (addition : Addition) : Option (String × String) :=
  addition.accepted?.filter fun file => !plan.files.any (·.1 = file.1)

/-- A file that is refused or planned already adds nothing. -/
theorem tryFile_eq (plan : PackagePlan) (addition : Addition) :
    plan.tryFile addition =
      { plan with files := plan.files ++ (plan.newFile? addition).toList } := by
  simp only [tryFile, addFile, newFile?, Addition.accepted?, Addition.file?, Addition.packedPath?]
  by_cases known : addition.directory ∈ packageDirectories
  · by_cases there : addition.tree.isFile addition.path = true
    · cases named : Path.fileName? addition.path with
      | none => simp [known, there]
      | some name =>
        by_cases planned : plan.files.any (·.1 = addition.directory ++ "/" ++ name) = true
        · simp [known, there, planned, Option.filter_some]
        · simp [known, there, planned, Option.filter_some]
    · simp [known, there]
  · simp [known]

/-- A new file has the entry of its addition. -/
theorem packedPath?_of_newFile? {addition : Addition} {file : String × String}
    (new : plan.newFile? addition = some file) : addition.packedPath? = some file.1 :=
  Addition.packedPath?_of_accepted? (Option.filter_eq_some_iff.mp new).1

/-- Whether a file is new does not depend on a planned file with another entry. -/
theorem newFile?_append {file : String × String} {addition : Addition}
    (apart : addition.packedPath? ≠ some file.1) :
    newFile? { plan with files := plan.files ++ [file] } addition = plan.newFile? addition := by
  cases accepted : addition.accepted? with
  | none => simp [newFile?, accepted]
  | some other =>
    have differs : file.1 ≠ other.1 := fun same =>
      apart (same ▸ Addition.packedPath?_of_accepted? accepted)
    have unmatched : [file].any (·.1 = other.1) = false := by simp [differs]
    simp only [newFile?, accepted, Option.filter_some, List.any_append, unmatched, Bool.or_false]

/-- Additions with entries of their own are planned one behind the other, as far as they are new. -/
theorem tryFiles_eq (distinct : (additions.filterMap Addition.packedPath?).Nodup) :
    plan.tryFiles additions =
      { plan with files := plan.files ++ additions.filterMap plan.newFile? } := by
  induction additions generalizing plan with
  | nil => simp [tryFiles]
  | cons addition rest ih =>
    have others : (rest.filterMap Addition.packedPath?).Nodup :=
      distinct.sublist ((List.sublist_cons_self addition rest).filterMap _)
    rw [tryFiles, List.foldl_cons, ← tryFiles, ih others, tryFile_eq]
    cases new : plan.newFile? addition with
    | none => simp [new]
    | some file =>
      rw [List.filterMap_cons_some (packedPath?_of_newFile? new), List.nodup_cons] at distinct
      have same : rest.filterMap (newFile? { plan with files := plan.files ++ [file] }) =
          rest.filterMap plan.newFile? :=
        List.filterMap_congr fun other within => newFile?_append fun equal =>
          distinct.1 (List.mem_filterMap.mpr ⟨other, within, equal⟩)
      rw [Option.toList_some, same, List.append_assoc, List.filterMap_cons_some new,
        List.singleton_append]

/-- New files have the entries of their additions, in the same order. -/
theorem newEntries_sublist (plan : PackagePlan) (additions : List Addition) :
    ((additions.filterMap plan.newFile?).map Prod.fst).Sublist
      (additions.filterMap Addition.packedPath?) := by
  induction additions with
  | nil => exact .slnil
  | cons addition rest ih =>
    cases new : plan.newFile? addition with
    | none =>
      rw [List.filterMap_cons_none new]
      exact ih.trans ((List.sublist_cons_self addition rest).filterMap _)
    | some file =>
      rw [List.filterMap_cons_some new, List.filterMap_cons_some (packedPath?_of_newFile? new),
        List.map_cons]
      exact ih.cons_cons _

/-- The archive depends on the sorted files only. -/
theorem archive_congr {files files' : List (String × String)}
    (same : (files.mergeSort fun a b => Text.le a.1 b.1) =
      files'.mergeSort fun a b => Text.le a.1 b.1) (plan : PackagePlan) (tree : FileTree) :
    { plan with files := files }.archive tree = { plan with files := files' }.archive tree := by
  simp only [archive, contents, same, descriptorPath]

/-- In whatever order files with entries of their own are added, the package has the same members in
the same order, or it cannot be made for the same reason. -/
theorem build_reordered (plan : PackagePlan)
    (distinct : (additions.filterMap Addition.packedPath?).Nodup)
    (reordered : others.Perm additions) (tree : FileTree) (target : String) :
    (plan.tryFiles others).archive tree = (plan.tryFiles additions).archive tree ∧
      (plan.tryFiles others).build tree target = (plan.tryFiles additions).build tree target := by
  have distinctOthers : (others.filterMap Addition.packedPath?).Nodup :=
    (reordered.filterMap _).nodup_iff.mpr distinct
  have sorted : ((plan.files ++ others.filterMap plan.newFile?).mergeSort
      fun a b => Text.le a.1 b.1) = (plan.files ++ additions.filterMap plan.newFile?).mergeSort
      fun a b => Text.le a.1 b.1 := by
    refine SortedByKey.eq_of_filter (sortedByKey_mergeSort Prod.fst _)
      (sortedByKey_mergeSort Prod.fst _) fun entry => ?_
    rw [List.filter_append, List.filter_append, filter_perm_key Prod.fst
      (distinct.sublist (newEntries_sublist plan additions)) (reordered.filterMap _)]
  have archived (tree : FileTree) :
      (plan.tryFiles others).archive tree = (plan.tryFiles additions).archive tree := by
    rw [tryFiles_eq distinct, tryFiles_eq distinctOthers, archive_congr sorted]
  refine ⟨archived tree, ?_⟩
  have name : (plan.tryFiles others).name = (plan.tryFiles additions).name := by
    rw [tryFiles_eq distinct, tryFiles_eq distinctOthers]
  simp only [build, archived, name]

/-- A plan with an icon for its package. -/
def iconPlan : PackagePlan := { pingPlan with files := [("icons/ping.qcow2", "b/ping.qcow2")] }

/-- Files for several directories. One directory is unknown, one file is missing, and for one entry
there is a file already. -/
def scatteredFiles : List Addition :=
  [⟨twinTree, "scripts", "b/ping.qcow2"⟩, ⟨twinTree, "bin", "a/ping.qcow2"⟩,
    ⟨twinTree, "icons", "a/ping.qcow2"⟩, ⟨twinTree, "images", "a/pong.qcow2"⟩,
    ⟨twinTree, "images", "a/./ping.qcow2"⟩, ⟨twinTree, "cloud_init", "b/ping.qcow2"⟩]

/-- From the last file to the first, the files are planned in another order and packed in the
same. -/
theorem scatteredFiles_reordered :
    (scatteredFiles.filterMap Addition.packedPath?).Nodup ∧
      (iconPlan.tryFiles scatteredFiles.reverse).files ≠ (iconPlan.tryFiles scatteredFiles).files ∧
        ∃ members, (iconPlan.tryFiles scatteredFiles).archive twinTree = .ok members ∧
          (iconPlan.tryFiles scatteredFiles.reverse).archive twinTree = .ok members ∧
            members.map (·.path) = ["ping/", "ping/cloud_init/", "ping/icons/", "ping/images/",
              "ping/scripts/", "ping/ping_vnfd.yaml", "ping/cloud_init/ping.qcow2",
              "ping/icons/ping.qcow2", "ping/images/ping.qcow2", "ping/scripts/ping.qcow2",
              "ping/checksums.txt"] := by
  have distinct : (scatteredFiles.filterMap Addition.packedPath?).Nodup := by decide +kernel
  have planned : iconPlan.tryFiles scatteredFiles =
      { iconPlan with
        files := [("icons/ping.qcow2", "b/ping.qcow2"), ("scripts/ping.qcow2", "b/ping.qcow2"),
          ("images/ping.qcow2", "a/./ping.qcow2"), ("cloud_init/ping.qcow2", "b/ping.qcow2")] } := by
    decide +kernel
  have sorted : (iconPlan.tryFiles scatteredFiles).files.mergeSort (fun a b => Text.le a.1 b.1) =
      [("cloud_init/ping.qcow2", "b/ping.qcow2"), ("icons/ping.qcow2", "b/ping.qcow2"),
        ("images/ping.qcow2", "a/./ping.qcow2"), ("scripts/ping.qcow2", "b/ping.qcow2")] := by
    rw [planned]
    simp +decide [List.mergeSort, List.MergeSort.Internal.splitInTwo]
  have known : ((iconPlan.tryFiles scatteredFiles).archive twinTree).toOption.map
      (·.map (·.path)) = some ["ping/", "ping/cloud_init/", "ping/icons/", "ping/images/",
        "ping/scripts/", "ping/ping_vnfd.yaml", "ping/cloud_init/ping.qcow2",
        "ping/icons/ping.qcow2", "ping/images/ping.qcow2", "ping/scripts/ping.qcow2",
        "ping/checksums.txt"] := by
    rw [archive, contents, sorted]
    decide +kernel
  obtain ⟨members, found, paths⟩ := Option.map_eq_some_iff.mp known
  have archived := toOption_eq_some.mp found
  have same := build_reordered iconPlan distinct scatteredFiles.reverse_perm twinTree "out"
  exact ⟨distinct, by decide +kernel, members, archived, same.1.trans archived, paths⟩

end PackagePlan

end NfvCatalog
