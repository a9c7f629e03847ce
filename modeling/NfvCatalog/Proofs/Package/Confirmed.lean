import NfvCatalog.Proofs.Package.Planned

/-! # Confirmed packages

A report on a package tells which of its files differ from what its manifest lists, which listed
files are absent and which files are not listed. It confirms a package that is built if it has the
descriptor, the manifest and the supporting files, nothing else, and every file as the manifest
lists it.
-/

namespace NfvCatalog

/-- The entry of a file in a report. -/
def PackageEntry.of (path : String) (bytes : List UInt8) : PackageEntry :=
  ⟨path, bytes.length, Digest.ofBytes bytes⟩

namespace PackageReport

/-! ## Comparing with a manifest -/

/-- The entries of files. -/
def entriesOf (files : List (String × List UInt8)) : List PackageEntry :=
  files.map fun file => .of file.1 file.2

theorem entryAt?_entriesOf (files : List (String × List UInt8)) (path : String) :
    entryAt? (entriesOf files) path = (Keyed.get? files path).map (PackageEntry.of path) := by
  induction files with
  | nil => rfl
  | cons file rest ih =>
    by_cases same : file.1 = path
    · subst same
      simp [entryAt?, entriesOf, Keyed.get?, PackageEntry.of]
    · have other : (PackageEntry.of file.1 file.2).path ≠ path := same
      simpa [entryAt?, entriesOf, Keyed.get?, same, other] using ih

/-- Every file that is listed is there, with the digest that is listed last for it. -/
def AsListed (files : List (String × List UInt8)) (listed : List (String × Digest)) : Prop :=
  ∀ path digest, Keyed.last? listed path = some digest →
    ∃ bytes, Keyed.get? files path = some bytes ∧ Digest.ofBytes bytes = digest

section Compare

variable {report : PackageReport} {files : List (String × List UInt8)}
  {listed : List (String × Digest)} (entries : report.entries = entriesOf files)
include entries

theorem mem_mismatched {path : String} :
    path ∈ (report.compare (Keyed.ofList listed)).mismatched ↔ ∃ bytes digest,
      Keyed.get? files path = some bytes ∧ Keyed.last? listed path = some digest ∧
        Digest.ofBytes bytes ≠ digest := by
  simp only [compare, List.mem_map, List.mem_filter, entries, entryAt?_entriesOf]
  constructor
  · rintro ⟨⟨other, digest⟩, ⟨member, differs⟩, rfl⟩
    cases found : Keyed.get? files other with
    | none => simp [found] at differs
    | some bytes =>
      exact ⟨bytes, digest, rfl, Keyed.mem_ofList_iff_last?.mp member, by
        simpa [found, PackageEntry.of] using differs⟩
  · rintro ⟨bytes, digest, found, last, differs⟩
    exact ⟨(path, digest), ⟨Keyed.mem_ofList_iff_last?.mpr last, by
      simpa [found, PackageEntry.of] using differs⟩, rfl⟩

theorem mem_missing {path : String} :
    path ∈ (report.compare (Keyed.ofList listed)).missing ↔
      Keyed.get? files path = none ∧ Keyed.last? listed path ≠ none := by
  simp only [compare, List.mem_map, List.mem_filter, entries, entryAt?_entriesOf]
  constructor
  · rintro ⟨⟨other, digest⟩, ⟨member, absent⟩, rfl⟩
    exact ⟨by simpa using absent, by simp [Keyed.mem_ofList_iff_last?.mp member]⟩
  · rintro ⟨absent, isListed⟩
    obtain ⟨digest, last⟩ := Option.ne_none_iff_exists'.mp isListed
    exact ⟨(path, digest), ⟨Keyed.mem_ofList_iff_last?.mpr last, by simp [absent]⟩, rfl⟩

theorem mem_unlisted {path : String} :
    path ∈ (report.compare (Keyed.ofList listed)).unlisted ↔
      Keyed.get? files path ≠ none ∧ Keyed.last? listed path = none ∧
        path ≠ Manifest.fileName := by
  simp only [compare, List.mem_map, List.mem_filter, entries, entriesOf, Keyed.get?_ofList,
    Option.isNone_iff_eq_none, decide_eq_true_eq, Keyed.get?_eq_none_iff, ne_eq, not_not]
  constructor
  · rintro ⟨_, ⟨⟨file, member, rfl⟩, other, absent⟩, rfl⟩
    exact ⟨⟨file, member, rfl⟩, absent, other⟩
  · rintro ⟨⟨file, member, rfl⟩, absent, other⟩
    exact ⟨.of file.1 file.2, ⟨⟨file, member, rfl⟩, other, absent⟩, rfl⟩

/-- Nothing is mismatched or missing exactly if the files are as they are listed. -/
theorem asListed_iff :
    AsListed files listed ↔ (report.compare (Keyed.ofList listed)).mismatched = [] ∧
      (report.compare (Keyed.ofList listed)).missing = [] := by
  simp only [List.eq_nil_iff_forall_not_mem, mem_mismatched entries, mem_missing entries]
  constructor
  · intro agree
    refine ⟨fun path ⟨bytes, digest, found, last, differs⟩ => ?_, fun path ⟨absent, isListed⟩ => ?_⟩
    · obtain ⟨_, there, same⟩ := agree path digest last
      exact differs (Option.some.inj (there.symm.trans found) ▸ same)
    · obtain ⟨digest, last⟩ := Option.ne_none_iff_exists'.mp isListed
      obtain ⟨bytes, there, -⟩ := agree path digest last
      rw [absent] at there
      cases there
  · rintro ⟨same, present⟩ path digest last
    obtain ⟨bytes, found⟩ := Option.ne_none_iff_exists'.mp fun absent =>
      present path ⟨absent, by simp [last]⟩
    exact ⟨bytes, found, not_not.mp fun differs => same path ⟨bytes, digest, found, last, differs⟩⟩

/-- What is compared comes in order. -/
theorem sorted_compare (sorted : Keyed.Sorted files) :
    ∀ paths ∈ [(report.compare (Keyed.ofList listed)).mismatched,
        (report.compare (Keyed.ofList listed)).missing,
        (report.compare (Keyed.ofList listed)).unlisted],
      paths.Pairwise (· < ·) := by
  have paths : (report.entries.map (·.path)).Pairwise (· < ·) := by
    rw [entries, entriesOf, List.map_map]
    exact List.pairwise_map.mpr sorted
  have keys : ((Keyed.ofList listed).map Prod.fst).Pairwise (· < ·) :=
    List.pairwise_map.mpr (Keyed.sorted_ofList listed)
  -- Each of the lists is what is left of a sorted one.
  simp only [compare, List.forall_mem_cons]
  exact ⟨keys.sublist (List.filter_sublist.map _), keys.sublist (List.filter_sublist.map _),
    paths.sublist (List.filter_sublist.map _), nofun⟩

end Compare

/-- The report on a package before its manifest is looked at. -/
def overview (contents : PackageContents) : PackageReport :=
  { name := contents.root
    kind := contents.descriptor?.map (·.kind)
    descriptor := contents.descriptor?.map (·.path)
    entries := entriesOf contents.files }

theorem ofContents_of_none {contents : PackageContents}
    (absent : contents.file? Manifest.fileName = none) :
    ofContents contents = .ok (overview contents) := by
  rw [ofContents, absent]
  rfl

/-- A package with a manifest is compared with it. -/
theorem ofContents_of_manifest {contents : PackageContents} {manifest : List UInt8}
    (present : contents.file? Manifest.fileName = some manifest) :
    ofContents contents = (Manifest.parse (Utf8.lossy manifest)).map fun listed =>
      (overview contents).compare (Keyed.ofList listed) := by
  rw [ofContents, present]
  simp only
  cases Manifest.parse (Utf8.lossy manifest) <;> rfl

/-- A package as it is reported when it can be relied on. -/
structure IsComplete (report : PackageReport) : Prop where
  descriptor : report.descriptor ≠ none
  manifest : report.hasManifest = true
  mismatched : report.mismatched = []
  missing : report.missing = []

/-- A report is valid exactly if it is complete. -/
theorem isValid_iff {report : PackageReport} :
    report.isValid = true ↔ report.IsComplete := by
  simp only [isValid, Bool.and_eq_true, List.isEmpty_iff, Option.isSome_iff_ne_none]
  constructor
  · rintro ⟨⟨⟨descriptor, manifest⟩, mismatched⟩, missing⟩
    exact ⟨descriptor, manifest, mismatched, missing⟩
  · rintro ⟨descriptor, manifest, mismatched, missing⟩
    exact ⟨⟨⟨descriptor, manifest⟩, mismatched⟩, missing⟩

/-- A report tells the files of a package apart by what its manifest lists. If a path is listed
several times, the last time counts. -/
structure Classifies (report : PackageReport) (contents : PackageContents)
    (listed : List (String × Digest)) : Prop where
  mismatched : ∀ path, path ∈ report.mismatched ↔ ∃ bytes digest,
    contents.file? path = some bytes ∧ Keyed.last? listed path = some digest ∧
      Digest.ofBytes bytes ≠ digest
  missing : ∀ path, path ∈ report.missing ↔
    contents.file? path = none ∧ Keyed.last? listed path ≠ none
  unlisted : ∀ path, path ∈ report.unlisted ↔
    contents.file? path ≠ none ∧ Keyed.last? listed path = none ∧ path ≠ Manifest.fileName
  sorted : ∀ paths ∈ [report.mismatched, report.missing, report.unlisted],
    paths.Pairwise (· < ·)
  apart : [report.mismatched, report.missing, report.unlisted].Pairwise List.Disjoint
  valid : report.isValid = true ↔ contents.descriptor? ≠ none ∧
    contents.file? Manifest.fileName ≠ none ∧ AsListed contents.files listed

/-- The report on a package without a manifest is not valid. With a manifest, it classifies the
files of the package by what the manifest lists. -/
theorem inspect_classifies {tree : FileTree} {path : String} {report : PackageReport}
    (inspected : inspect tree path = .ok report) :
    ∃ contents, PackageContents.load tree path = .ok contents ∧
      (contents.file? Manifest.fileName = none → report.isValid = false) ∧
        ∀ manifest, contents.file? Manifest.fileName = some manifest →
          ∃ listed, Manifest.parse (Utf8.lossy manifest) = .ok listed ∧
            report.Classifies contents listed := by
  obtain ⟨contents, read, reported⟩ := inspect_eq_ok.mp inspected
  refine ⟨contents, read, fun absent => ?_, fun manifest present => ?_⟩
  · rw [ofContents_of_none absent] at reported
    obtain rfl := Except.ok.inj reported
    exact Bool.eq_false_iff.mpr fun valid => Bool.noConfusion (isValid_iff.mp valid).manifest
  · rw [ofContents_of_manifest present, map_eq_ok] at reported
    obtain ⟨listed, parsed, rfl⟩ := reported
    have entries : (overview contents).entries = entriesOf contents.files := rfl
    exact ⟨listed, parsed,
      { mismatched := fun path => mem_mismatched entries
        missing := fun path => mem_missing entries
        unlisted := fun path => mem_unlisted entries
        sorted := sorted_compare entries (PackageContents.sorted_of_load read)
        apart := by
          simp only [List.pairwise_cons, List.forall_mem_cons, List.Disjoint,
            mem_mismatched entries, mem_missing entries, mem_unlisted entries]
          grind
        valid := by
          have described : (overview contents).descriptor ≠ none ↔ contents.descriptor? ≠ none :=
            not_congr Option.map_eq_none_iff
          rw [isValid_iff, asListed_iff entries, ← described, present]
          exact ⟨fun ⟨descriptor, _, same, there⟩ => ⟨descriptor, nofun, same, there⟩,
            fun ⟨descriptor, _, same, there⟩ => ⟨descriptor, rfl, same, there⟩⟩ }⟩

/-- A digest that no file of the package below has. -/
def otherDigest : Digest :=
  ⟨List.replicate 64 '0', List.length_replicate, fun c member => by
    rw [List.eq_of_mem_replicate member]
    decide⟩

/-- What a manifest lists: an image, a descriptor twice, and a script. -/
def tamperedListed : List (String × Digest) :=
  [("images/ping.qcow2", otherDigest), ("ping_vnfd.yaml", otherDigest),
    ("ping_vnfd.yaml", .ofBytes []), ("scripts/start.sh", otherDigest)]

/-- A package of empty files with this manifest. The image is absent, the script is another one, and
an icon is not listed. -/
def tamperedFiles : List (String × List UInt8) :=
  [("ping_vnfd.yaml", []), ("scripts/start.sh", []), ("icons/ping.svg", []),
    (Manifest.fileName, Utf8.encode (Manifest.format tamperedListed))]

/-- A directory with the package. -/
def tamperedTree : FileTree := ⟨[(["ping.tar.gz"], .file (.archive (tamperedFiles.map fun file =>
  ⟨"ping/" ++ file.1, .file file.2⟩)) false)]⟩

private theorem load_tamperedTree : PackageContents.load tamperedTree "ping.tar.gz" =
    .ok ⟨"ping", Keyed.ofList tamperedFiles⟩ := by
  have one : PackageContents.OneRoot
      (tamperedFiles.map fun file => ⟨"ping/" ++ file.1, .file file.2⟩) "ping" :=
    ⟨List.forall_mem_map.mpr fun file member => ⟨by revert file; decide +kernel,
      by revert file; decide +kernel, by revert file; decide +kernel⟩, by decide +kernel⟩
  exact PackageContents.load_eq_ok.mpr ⟨_, _, rfl,
    PackageContents.membersOf_archive (by decide +kernel),
    PackageContents.ofMembers_eq_ok.mpr ⟨one, rfl⟩⟩

private theorem parse_tamperedListed :
    Manifest.parse (Manifest.format tamperedListed) = .ok tamperedListed := by
  rw [Manifest.parse_format (by decide +kernel) (by decide +kernel),
    List.mergeSort_of_pairwise (by decide +kernel)]

theorem tamperedTree_classifies : ∃ report, inspect tamperedTree "ping.tar.gz" = .ok report ∧
    "scripts/start.sh" ∈ report.mismatched ∧ "ping_vnfd.yaml" ∉ report.mismatched ∧
      "images/ping.qcow2" ∈ report.missing ∧ "icons/ping.svg" ∈ report.unlisted ∧
        report.isValid = false := by
  have file (path : String) : PackageContents.file? ⟨"ping", Keyed.ofList tamperedFiles⟩ path =
      Keyed.last? tamperedFiles path := Keyed.get?_ofList _ path
  have manifest : PackageContents.file? ⟨"ping", Keyed.ofList tamperedFiles⟩ Manifest.fileName =
      some (Utf8.encode (Manifest.format tamperedListed)) := file _
  have reported := ofContents_of_manifest manifest
  rw [Utf8.lossy_encode, parse_tamperedListed, Except.map] at reported
  have inspected := inspect_eq_ok.mpr ⟨_, load_tamperedTree, reported⟩
  obtain ⟨contents, read, -, classified⟩ := inspect_classifies inspected
  obtain rfl := Except.ok.inj (load_tamperedTree.symm.trans read)
  obtain ⟨listed, parsed, classifies⟩ := classified _ manifest
  rw [Utf8.lossy_encode, parse_tamperedListed] at parsed
  obtain rfl := Except.ok.inj parsed
  have differs : Digest.ofBytes [] ≠ otherDigest := by decide +kernel
  refine ⟨_, inspected,
    (classifies.mismatched _).mpr ⟨[], otherDigest, file _, rfl, differs⟩, fun mismatched => ?_,
    (classifies.missing _).mpr ⟨file _, nofun⟩,
    (classifies.unlisted _).mpr ⟨by rw [file]; exact nofun, rfl, by decide⟩,
    Bool.eq_false_iff.mpr fun valid => ?_⟩
  · obtain ⟨bytes, digest, there, last, other⟩ := (classifies.mismatched _).mp mismatched
    obtain rfl := Option.some.inj ((file _).symm.trans there)
    obtain rfl := Option.some.inj last
    exact other rfl
  · obtain ⟨bytes, there, same⟩ :=
      (classifies.valid.mp valid).2.2 "scripts/start.sh" otherDigest rfl
    obtain rfl := Option.some.inj ((file _).symm.trans there)
    exact differs same

end PackageReport

/-- A report confirms a package with a descriptor of a kind and the files that support it. -/
structure PackageReport.Confirms (report : PackageReport) (kind : DescriptorKind)
    (name descriptor : String) (format : Format) (supports : String → List UInt8 → Prop) :
    Prop where
  named : report.name = name
  ofKind : report.kind = some kind
  described : report.descriptor = some (name ++ "_" ++ kind.name ++ "." ++ format.name)
  sorted : report.entries.Pairwise fun left right => left.path < right.path
  entries : ∃ manifest, ∀ entry, entry ∈ report.entries ↔
    entry = .of (name ++ "_" ++ kind.name ++ "." ++ format.name) (Utf8.encode descriptor) ∨
      entry = .of Manifest.fileName manifest ∨
        ∃ path bytes, supports path bytes ∧ entry = .of path bytes
  valid : report.isValid = true
  mismatched : report.mismatched = []
  missing : report.missing = []
  unlisted : report.unlisted = []

/-! ## Planned packages -/

namespace PackagePlan

/-- What the manifest of a plan lists. -/
def digestsOf (plan : PackagePlan) (files : List (String × List UInt8)) : List (String × Digest) :=
  (plan.listed files).map fun file => (file.1, Digest.ofBytes file.2)

/-- The report on a planned package before it is compared with the manifest. -/
def reportOf (plan : PackagePlan) (files : List (String × List UInt8)) : PackageReport :=
  { name := plan.name
    kind := some plan.kind
    descriptor := some plan.descriptorPath
    entries := PackageReport.entriesOf (Keyed.ofList (packed (plan.listed files))) }

theorem entries_reportOf (plan : PackagePlan) {files : List (String × List UInt8)} :
    (plan.reportOf files).entries =
      PackageReport.entriesOf (Keyed.ofList (packed (plan.listed files))) := rfl

end PackagePlan

namespace PackagePlan.Sound

open PackageReport

variable {plan : PackagePlan} (sound : plan.Sound) {files : List (String × List UInt8)}
  (paths : (files.map Prod.fst).Perm (plan.files.map Prod.fst))
include sound paths

/-- A file is found at its path. -/
theorem get?_packed {file : String × List UInt8} :
    Keyed.get? (Keyed.ofList (packed (plan.listed files))) file.1 = some file.2 ↔
      file ∈ packed (plan.listed files) := by
  rw [Keyed.get?_eq_some_iff (Keyed.sorted_ofList _).nodup,
    Keyed.mem_ofList (sound.nodup_packed paths)]

/-- The report on a package compares its entries with its manifest. -/
theorem ofContents_packed :
    ofContents ⟨plan.name, Keyed.ofList (packed (plan.listed files))⟩ =
      (Manifest.parse (Manifest.format (plan.digestsOf files))).map fun found =>
        (plan.reportOf files).compare (Keyed.ofList found) := by
  have manifest : PackageContents.file? ⟨plan.name, Keyed.ofList (packed (plan.listed files))⟩
      Manifest.fileName = some (Utf8.encode (Manifest.format (plan.digestsOf files))) :=
    (sound.get?_packed paths).mpr (mem_packed.mpr (.inr (.inl rfl)))
  have before : overview ⟨plan.name, Keyed.ofList (packed (plan.listed files))⟩ =
      plan.reportOf files := by
    rw [overview, sound.descriptor?_packed paths]
    rfl
  rw [ofContents_of_manifest manifest, Utf8.lossy_encode, before]

/-- The files that a manifest is written for have distinct paths. -/
theorem nodup_digests : ((plan.digestsOf files).map Prod.fst).Nodup := by
  have distinct := sound.nodup_packed paths
  rw [packed, List.map_append] at distinct
  rw [digestsOf, List.map_map]
  exact (List.nodup_append.mp distinct).1

theorem named_digests : ∀ entry ∈ plan.digestsOf files, entry.1 ≠ "" := by
  simp only [digestsOf, List.forall_mem_map]
  intro file member
  obtain ⟨names, inner⟩ := sound.inner_packed paths file (List.mem_append_left _ member)
  exact inner.ne_empty

/-- The entries of a package: the descriptor, the manifest and the supporting files. -/
theorem mem_entries {entry : PackageEntry} :
    entry ∈ (plan.reportOf files).entries ↔
      entry = .of plan.descriptorPath (Utf8.encode plan.descriptor) ∨
        entry = .of Manifest.fileName (Utf8.encode (manifestOf (plan.listed files))) ∨
          ∃ path bytes, (path, bytes) ∈ files ∧ entry = .of path bytes := by
  simp only [reportOf, entriesOf, List.mem_map, Keyed.mem_ofList (sound.nodup_packed paths),
    mem_packed]
  constructor
  · rintro ⟨file, rfl | rfl | member, rfl⟩
    · exact .inl rfl
    · exact .inr (.inl rfl)
    · exact .inr (.inr ⟨file.1, file.2, member, rfl⟩)
  · rintro (rfl | rfl | ⟨path, bytes, member, rfl⟩)
    · exact ⟨_, .inl rfl, rfl⟩
    · exact ⟨_, .inr (.inl rfl), rfl⟩
    · exact ⟨(path, bytes), .inr (.inr member), rfl⟩

/-- Compared with a manifest that lists its files, a package leaves nothing to report. -/
theorem compare_reportOf {found : List (String × Digest)}
    (perm : found.Perm (plan.digestsOf files)) :
    (plan.reportOf files).compare (Keyed.ofList found) =
      { plan.reportOf files with
        hasManifest := true, mismatched := [], missing := [], unlisted := [] } := by
  have distinct : (found.map Prod.fst).Nodup :=
    (perm.map Prod.fst).nodup_iff.mpr (sound.nodup_digests paths)
  have last (entry : String × Digest) : Keyed.last? found entry.1 = some entry.2 ↔
      entry ∈ plan.digestsOf files := by
    rw [← Keyed.mem_ofList_iff_last?, Keyed.mem_ofList distinct, perm.mem_iff]
  have asListed : AsListed (Keyed.ofList (packed (plan.listed files))) found := by
    intro path digest listed
    obtain ⟨file, within, same⟩ := List.mem_map.mp ((last (path, digest)).mp listed)
    obtain ⟨rfl, rfl⟩ := Prod.mk.inj same
    exact ⟨file.2, (sound.get?_packed paths).mpr (List.mem_append_left _ within), rfl⟩
  have unlisted : ((plan.reportOf files).compare (Keyed.ofList found)).unlisted = [] := by
    refine List.eq_nil_iff_forall_not_mem.mpr fun path member => ?_
    obtain ⟨isThere, absent, other⟩ := (mem_unlisted plan.entries_reportOf).mp member
    obtain ⟨bytes, isFile⟩ := Option.ne_none_iff_exists'.mp isThere
    have there : (path, bytes) ∈ packed (plan.listed files) := (sound.get?_packed paths).mp isFile
    rcases List.mem_append.mp there with within | single
    · have listed := (last (path, Digest.ofBytes bytes)).mpr (List.mem_map_of_mem within)
      rw [absent] at listed
      cases listed
    · exact other (congrArg Prod.fst (List.mem_singleton.mp single))
  obtain ⟨mismatched, missing⟩ := (asListed_iff plan.entries_reportOf).mp asListed
  rw [PackageReport.compare, PackageReport.mk.injEq]
  exact ⟨rfl, rfl, rfl, rfl, rfl, mismatched, missing, unlisted⟩

/-- A package of files that can be listed is confirmed. -/
theorem confirms_of_listable (listable : ∀ file ∈ files, Manifest.Listable file.1) :
    ∃ report, ofContents ⟨plan.name, Keyed.ofList (packed (plan.listed files))⟩ = .ok report ∧
      report.Confirms plan.kind plan.name plan.descriptor plan.format
        fun path bytes => (path, bytes) ∈ files := by
  have allListable : ∀ entry ∈ plan.digestsOf files, Manifest.Listable entry.1 := by
    simp only [digestsOf, listed, List.forall_mem_map, List.forall_mem_cons]
    exact ⟨sound.descriptor, listable⟩
  have reported := sound.ofContents_packed paths
  rw [Manifest.parse_format allListable (sound.named_digests paths), Except.map,
    sound.compare_reportOf paths (List.mergeSort_perm _ _)] at reported
  exact ⟨_, reported,
    { named := rfl
      ofKind := rfl
      described := rfl
      sorted := List.pairwise_map.mpr (Keyed.sorted_ofList _)
      entries := ⟨_, fun entry => sound.mem_entries paths⟩
      valid := rfl
      mismatched := rfl
      missing := rfl
      unlisted := rfl }⟩

/-- A report without unlisted files shows that all of them can be listed. -/
theorem listable_of_unlisted {report : PackageReport}
    (reported : ofContents ⟨plan.name, Keyed.ofList (packed (plan.listed files))⟩ = .ok report)
    (none_ : report.unlisted = []) : ∀ file ∈ files, Manifest.Listable file.1 := by
  intro file member
  rw [sound.ofContents_packed paths] at reported
  obtain ⟨found, read, rfl⟩ := map_eq_ok.mp reported
  have there := (sound.get?_packed paths).mpr (mem_packed.mpr (.inr (.inr member)))
  have other : file.1 ≠ Manifest.fileName := fun same =>
    isName_manifest.whole (same ▸ sound.slash_of_mem paths (List.mem_map_of_mem member))
  have listed : Keyed.last? found file.1 ≠ none := fun absent => by
    have unlisted := (mem_unlisted plan.entries_reportOf).mpr
      ⟨Option.ne_none_iff_exists'.mpr ⟨_, there⟩, absent, other⟩
    rw [none_] at unlisted
    cases unlisted
  obtain ⟨digest, last⟩ := Option.ne_none_iff_exists'.mp listed
  exact Manifest.listable_of_parse read (file.1, digest)
    (Keyed.mem_of_mem_ofList (Keyed.mem_ofList_iff_last?.mpr last))

end PackagePlan.Sound

/-! ## Built packages -/

namespace PackagePlan

/-- No archive is made of a package that is named like the directory above. -/
theorem name_ne_parent {tree : FileTree} {plan : PackagePlan} {members : List ArchiveMember}
    (archived : plan.archive tree = .ok members) : plan.name ≠ ".." := by
  obtain ⟨files, -, rfl, safe⟩ := archive_eq_ok archived
  intro parent
  have climbs : MemberPath.fault? (".." ++ "/") ≠ none := by decide
  have top := safe ⟨plan.name ++ "/", .directory⟩
    (List.mem_append_left _ (List.mem_cons_self ..))
  rw [parent] at top
  exact climbs top

/-- The archive of a sound plan is confirmed exactly if the package is not named like the directory
itself and all its paths can be listed. -/
theorem Sound.confirms_iff {plan : PackagePlan} (sound : plan.Sound) {tree last : FileTree}
    {path : String} {members : List ArchiveMember} (archived : plan.archive tree = .ok members)
    (held : last.read path = .ok (.archive members)) :
    (∃ report, PackageReport.inspect last path = .ok report ∧
        report.Confirms plan.kind plan.name plan.descriptor plan.format
          fun path bytes => ∃ file, (path, file) ∈ plan.files ∧ sourceBytes tree file = .ok bytes) ↔
      plan.name ≠ "." ∧ ∀ path ∈ plan.files.map Prod.fst, Manifest.Listable path := by
  obtain ⟨files, read, rfl, -⟩ := archive_eq_ok archived
  have perm := List.mergeSort_perm plan.files fun a b => Text.le a.1 b.1
  obtain ⟨keys, each⟩ := mem_readFiles read
  have paths : (files.map Prod.fst).Perm (plan.files.map Prod.fst) := keys ▸ perm.map Prod.fst
  have supports : (fun path bytes => (path, bytes) ∈ files) = fun path bytes =>
      ∃ file, (path, file) ∈ plan.files ∧ sourceBytes tree file = .ok bytes := by
    funext path bytes
    simp only [each, perm.mem_iff]
  have listable : (∀ path ∈ plan.files.map Prod.fst, Manifest.Listable path) ↔
      ∀ file ∈ files, Manifest.Listable file.1 :=
    ⟨fun all file member => all file.1 (paths.subset (List.mem_map_of_mem member)),
      fun all path member => List.forall_mem_map.mpr all path (paths.symm.subset member)⟩
  simp only [PackageReport.inspect_archive held (sound.plain_members paths), ← supports, listable]
  rcases sound.named with dot | isName
  · -- Below a dot the descriptor and the manifest are roots of their own.
    refine iff_of_false ?_ fun ⟨named, _⟩ => named dot
    rintro ⟨report, ⟨contents, read, -⟩, -⟩
    rw [dot] at read
    exact PackageContents.ofMembers_dot sound.descriptorPath_ne sound.isName_descriptorPath
      isName_manifest (List.mem_map_of_mem (mem_packed.mpr (.inl rfl)))
      (List.mem_map_of_mem (mem_packed.mpr (.inr (.inl rfl)))) contents read
  · simp only [PackageContents.ofMembers_members isName (sound.inner_packed paths),
      Except.ok.injEq, exists_eq_left', ne_eq, isName.notCurrent, not_false_eq_true, true_and]
    constructor
    · rintro ⟨report, reported, confirms⟩
      exact sound.listable_of_unlisted paths reported confirms.unlisted
    · exact sound.confirms_of_listable paths

end PackagePlan

end NfvCatalog
