import NfvCatalog.Proofs.Files.Tree
import NfvCatalog.Proofs.Package.Contents
import NfvCatalog.Proofs.Package.Manifest
import NfvCatalog.Proofs.Text.Utf8

/-! # Planned packages

A plan is sound if its name and its paths can stand in an archive, and it stays sound when a
supporting file is added to it. The archive that is made of a sound plan is read as it was planned.
-/

/-! ## Reading what was planned -/

namespace NfvCatalog

/-! ### Reading the archive -/

theorem MemberPath.stored_eq_self {path : String} (plain : '\x00' ∉ path.toList) :
    stored path = path := by
  have whole : path.toList.takeWhile (· ≠ Char.ofNat 0) = path.toList := by
    refine List.takeWhile_eq_self_iff.mpr fun c member => ?_
    simpa using fun same : c = Char.ofNat 0 => plain (same ▸ member)
  rw [stored, whole, String.ofList_toList, ite_self]

/-- An archive is read as its members, if their paths are plain. -/
theorem PackageContents.membersOf_archive {members : List ArchiveMember}
    (plain : ∀ member ∈ members, '\x00' ∉ member.path.toList) :
    membersOf (.archive members) = .ok members := by
  have kept : members.map (fun member => { member with path := MemberPath.stored member.path }) =
      members := by
    refine (List.map_congr_left fun member within => ?_).trans (List.map_id _)
    rw [MemberPath.stored_eq_self (plain member within)]
    rfl
  rw [membersOf, kept]

/-- The report on a package is the one on its contents. -/
theorem PackageReport.inspect_eq_ok {tree : FileTree} {path : String} {report : PackageReport} :
    inspect tree path = .ok report ↔
      ∃ contents, PackageContents.load tree path = .ok contents ∧
        ofContents contents = .ok report := by
  rw [inspect, bind_eq_ok]
  refine exists_congr fun contents => and_congr_right fun _ => ?_
  cases ofContents contents <;> simp [throw, throwThe, MonadExceptOf.throw]

/-- The report on a file that holds an archive is the one on its members. -/
theorem PackageReport.inspect_archive {tree : FileTree} {path : String}
    {members : List ArchiveMember} (held : tree.read path = .ok (.archive members))
    (plain : ∀ member ∈ members, '\x00' ∉ member.path.toList) {report : PackageReport} :
    inspect tree path = .ok report ↔
      ∃ contents, PackageContents.ofMembers members = .ok contents ∧
        ofContents contents = .ok report := by
  simp only [inspect_eq_ok, PackageContents.load_eq_ok, held, Except.ok.injEq, exists_and_left,
    exists_eq_left', PackageContents.membersOf_archive plain]

/-! ### What is packed -/

namespace PackagePlan

/-- The files that the manifest of a plan lists: the descriptor and the supporting files. -/
def listed (plan : PackagePlan) (files : List (String × List UInt8)) :
    List (String × List UInt8) :=
  (plan.descriptorPath, Utf8.encode plan.descriptor) :: files

/-- The text of the manifest that lists files. -/
def manifestOf (listed : List (String × List UInt8)) : String :=
  Manifest.format (listed.map fun file => (file.1, Digest.ofBytes file.2))

/-- The files of a package: those that its manifest lists, and the manifest. -/
def packed (listed : List (String × List UInt8)) : List (String × List UInt8) :=
  listed ++ [(Manifest.fileName, Utf8.encode (manifestOf listed))]

theorem mem_packed {plan : PackagePlan} {files : List (String × List UInt8)}
    {file : String × List UInt8} :
    file ∈ packed (plan.listed files) ↔
      file = (plan.descriptorPath, Utf8.encode plan.descriptor) ∨
        file = (Manifest.fileName, Utf8.encode (manifestOf (plan.listed files))) ∨
          file ∈ files := by
  rw [packed, List.mem_append, List.mem_singleton, listed, List.mem_cons]
  tauto

/-- Supporting files are read one by one. -/
theorem mem_readFiles {tree : FileTree} {sources : List (String × String)}
    {files : List (String × List UInt8)} (read : readFiles tree sources = .ok files) :
    files.map Prod.fst = sources.map Prod.fst ∧ ∀ path bytes, (path, bytes) ∈ files ↔
      ∃ source, (path, source) ∈ sources ∧ sourceBytes tree source = .ok bytes := by
  induction sources generalizing files with
  | nil =>
    obtain rfl := Except.ok.inj read
    simp
  | cons entry rest ih =>
    obtain ⟨path, source⟩ := entry
    rw [readFiles, bind_eq_ok] at read
    obtain ⟨bytes, own, read⟩ := read
    obtain ⟨others, more, same⟩ := bind_eq_ok.mp read
    obtain rfl := Except.ok.inj same
    obtain ⟨keys, each⟩ := ih more
    refine ⟨by rw [List.map_cons, List.map_cons, keys], fun other content => ?_⟩
    simp only [List.mem_cons, each, Prod.mk.injEq]
    constructor
    · rintro (⟨rfl, rfl⟩ | ⟨file, member, given⟩)
      · exact ⟨source, .inl ⟨rfl, rfl⟩, own⟩
      · exact ⟨file, .inr member, given⟩
    · rintro ⟨file, ⟨rfl, rfl⟩ | member, given⟩
      · exact .inl ⟨rfl, Except.ok.inj (given.symm.trans own)⟩
      · exact .inr ⟨file, member, given⟩

/-- An archive that is made has the planned files, and all its paths can be written. -/
theorem archive_eq_ok {tree : FileTree} {plan : PackagePlan} {members : List ArchiveMember}
    (archived : plan.archive tree = .ok members) :
    ∃ files, readFiles tree (plan.files.mergeSort fun a b => Text.le a.1 b.1) = .ok files ∧
      members = PackagePlan.members plan.name (packed (plan.listed files)) ∧
      ∀ member ∈ members, MemberPath.fault? member.path = none := by
  obtain ⟨contents, made, archived⟩ := bind_eq_ok.mp archived
  obtain ⟨files, read, same⟩ := bind_eq_ok.mp made
  obtain rfl := Except.ok.inj same
  simp only at archived
  split at archived
  · cases archived
  · next sound =>
    obtain rfl := Except.ok.inj archived
    exact ⟨files, read, rfl, List.findSome?_eq_none_iff.mp sound⟩

end PackagePlan

/-! ### Plans that can be built -/

/-- A plan is sound: its name and its paths can stand in an archive, and each supporting file lies
in a directory under a path of its own. -/
structure PackagePlan.Sound (plan : PackagePlan) : Prop where
  named : plan.name = "." ∨ Path.IsName plan.name
  plainName : '\x00' ∉ plan.name.toList
  descriptor : Manifest.Listable plan.descriptorPath
  below : ∀ path ∈ plan.files.map Prod.fst, ∃ directory name, Path.IsName directory ∧
    Path.IsName name ∧ path = directory ++ "/" ++ name
  plain : ∀ path ∈ plan.files.map Prod.fst, '\x00' ∉ path.toList
  distinct : (plan.files.map Prod.fst).Nodup

namespace PackagePlan

variable {plan : PackagePlan}

theorem isName_manifest : Path.IsName Manifest.fileName :=
  ⟨by decide, by decide, by decide, by decide⟩

namespace Sound

theorem noSlash (sound : plan.Sound) : '/' ∉ plan.name.toList := by
  rcases sound.named with dot | isName
  · rw [dot]
    decide
  · exact isName.whole

/-- The file of the descriptor is named after the package. -/
theorem isName_descriptorPath (sound : plan.Sound) : Path.IsName plan.descriptorPath := by
  have underscore : '_' ∈ plan.descriptorPath.toList := by simp [descriptorPath]
  have kind : '/' ∉ plan.kind.name.toList := by cases plan.kind <;> decide
  have format : '/' ∉ plan.format.name.toList := by cases plan.format <;> decide
  refine ⟨?_, ?_, ?_, by simp [descriptorPath, sound.noSlash, kind, format]⟩
  all_goals
    intro same
    rw [same] at underscore
    revert underscore
    decide

/-- The name of the descriptor's file tells its notation. -/
theorem ofPath?_descriptorPath (sound : plan.Sound) :
    Format.ofPath? plan.descriptorPath = some plan.format := by
  have cut : Path.cutExtension plan.descriptorPath =
      (plan.name ++ "_" ++ plan.kind.name, some plan.format.name) :=
    Path.cutExtension_append (by simp) (by cases plan.format <;> decide)
  rw [Format.ofPath?, Path.extension?, Path.fileName?_name sound.isName_descriptorPath]
  simp only [cut]
  cases plan.format <;> decide

theorem descriptorPath_ne (sound : plan.Sound) : plan.descriptorPath ≠ Manifest.fileName := by
  intro same
  have known := sound.ofPath?_descriptorPath
  rw [same, show Format.ofPath? Manifest.fileName = none by decide] at known
  cases known

/-- The descriptor's file is found for what it is. -/
theorem descriptorFile?_descriptorPath (sound : plan.Sound) :
    PackageContents.descriptorFile? plan.name plan.descriptorPath =
      some ⟨plan.descriptorPath, plan.kind, plan.format⟩ := by
  have chars : plan.descriptorPath.toList =
      (plan.name.toList ++ '_' :: plan.kind.name.toList) ++ '.' :: plan.format.name.toList := by
    simp [descriptorPath]
  have undotted : '.' ∉ plan.format.name.toList := by cases plan.format <;> decide
  have tail := Text.takeWhile_reverse_append '.' (plan.name.toList ++ '_' :: plan.kind.name.toList)
    undotted
  have head := Text.take_append_cons '.' (plan.name.toList ++ '_' :: plan.kind.name.toList)
    plan.format.name.toList
  have kind : PackageContents.descriptorKind? plan.name plan.descriptorPath = some plan.kind := by
    have behind : PackageContents.after? (plan.name.toList ++ ['_'])
        (plan.name.toList ++ '_' :: plan.kind.name.toList) = some plan.kind.name.toList := by
      have whole : plan.name.toList ++ '_' :: plan.kind.name.toList =
          plan.name.toList ++ ['_'] ++ plan.kind.name.toList := by simp
      rw [whole, PackageContents.after?, if_pos (by simp), List.drop_left]
    simp only [PackageContents.descriptorKind?, chars, tail, List.length_reverse, head,
      List.dropLast_concat, behind, Option.bind_some, String.ofList_toList]
    cases plan.kind <;> decide
  have whole : plan.descriptorPath.toList.contains '/' = false := by
    simpa using sound.isName_descriptorPath.whole
  rw [PackageContents.descriptorFile?, whole, if_neg Bool.false_ne_true,
    sound.ofPath?_descriptorPath, kind]

end Sound

end PackagePlan

/-- A file in a directory is no descriptor. -/
theorem PackageContents.descriptorFile?_of_mem {root path : String} (slash : '/' ∈ path.toList) :
    descriptorFile? root path = none := by
  rw [descriptorFile?, if_pos (by simpa using slash)]

theorem PackageContents.descriptorFile?_manifest (root : String) :
    descriptorFile? root Manifest.fileName = none := by
  have notation? : Format.ofPath? Manifest.fileName = none := by decide
  rw [descriptorFile?, notation?]
  split <;> rfl

namespace PackagePlan.Sound

variable {plan : PackagePlan} (sound : plan.Sound) {files : List (String × List UInt8)}
  (paths : (files.map Prod.fst).Perm (plan.files.map Prod.fst))
include sound paths

theorem slash_of_mem {path : String} (member : path ∈ files.map Prod.fst) : '/' ∈ path.toList := by
  obtain ⟨directory, name, -, -, rfl⟩ := sound.below path (paths.subset member)
  simp

/-- No two files of a package have the same path. -/
theorem nodup_packed : ((packed (plan.listed files)).map Prod.fst).Nodup := by
  have descriptor : plan.descriptorPath ∉ files.map Prod.fst := fun member =>
    sound.isName_descriptorPath.whole (sound.slash_of_mem paths member)
  have manifest : Manifest.fileName ∉ files.map Prod.fst := fun member =>
    isName_manifest.whole (sound.slash_of_mem paths member)
  have distinct := paths.nodup_iff.mpr sound.distinct
  rw [packed, listed, List.map_append, List.map_cons, List.cons_append, List.nodup_cons,
    List.nodup_append]
  refine ⟨?_, distinct, by simp, ?_⟩
  · simp only [List.map_singleton, List.mem_append, List.mem_singleton, not_or]
    exact ⟨descriptor, sound.descriptorPath_ne⟩
  · rintro path member other single rfl
    obtain rfl := List.mem_singleton.mp single
    exact manifest member

theorem inner_packed : ∀ file ∈ packed (plan.listed files), ∃ names, IsInner file.1 names := by
  intro file member
  rcases mem_packed.mp member with rfl | rfl | member
  · exact ⟨_, .atRoot sound.isName_descriptorPath⟩
  · exact ⟨_, .atRoot isName_manifest⟩
  · obtain ⟨directory, name, isDirectory, isName, same⟩ :=
      sound.below file.1 (paths.subset (List.mem_map_of_mem member))
    rw [same]
    exact ⟨_, .inDirectory isDirectory isName⟩

theorem plain_packed : ∀ file ∈ packed (plan.listed files), '\x00' ∉ file.1.toList := by
  have kind : '\x00' ∉ plan.kind.name.toList := by cases plan.kind <;> decide
  have format : '\x00' ∉ plan.format.name.toList := by cases plan.format <;> decide
  intro file member
  rcases mem_packed.mp member with rfl | rfl | member
  · simp [descriptorPath, sound.plainName, kind, format]
  · simp [Manifest.fileName]
  · exact sound.plain file.1 (paths.subset (List.mem_map_of_mem member))

/-- No path in the archive has a zero byte. -/
theorem plain_members : ∀ member ∈ members plan.name (packed (plan.listed files)),
    '\x00' ∉ member.path.toList := by
  have slash : '\x00' ∉ ("/" : String).toList := by decide
  simp only [members, List.forall_mem_append, List.forall_mem_cons, List.forall_mem_map]
  refine ⟨⟨?_, fun directory member => ?_⟩, fun file member => ?_⟩
  · simp [sound.plainName]
  · obtain ⟨listed, -⟩ := List.mem_filter.mp member
    obtain ⟨path, inPaths, found⟩ := List.mem_filterMap.mp (List.mem_eraseDups.mp listed)
    obtain ⟨file, within, rfl⟩ := List.mem_map.mp inPaths
    obtain ⟨names, inner⟩ := sound.inner_packed paths file within
    have plain : '\x00' ∉ directory.toList := fun inside =>
      sound.plain_packed paths file within ((inner.isName_of_directoryOf? found).2 _ inside)
    simp [sound.plainName, plain]
  · simp [sound.plainName, sound.plain_packed paths file member]

/-- The descriptor of a package is the one that was planned. -/
theorem descriptor?_packed :
    PackageContents.descriptor? ⟨plan.name, Keyed.ofList (packed (plan.listed files))⟩ =
      some ⟨plan.descriptorPath, plan.kind, plan.format⟩ := by
  have member : (plan.descriptorPath, Utf8.encode plan.descriptor) ∈
      Keyed.ofList (packed (plan.listed files)) :=
    (Keyed.mem_ofList (sound.nodup_packed paths) _).mpr (mem_packed.mpr (.inl rfl))
  -- Every other file is passed over.
  have own : ∀ file ∈ Keyed.ofList (packed (plan.listed files)),
      PackageContents.descriptorFile? plan.name file.1 =
        if file.1 = plan.descriptorPath then
          some ⟨plan.descriptorPath, plan.kind, plan.format⟩ else none := by
    intro file member
    rcases mem_packed.mp (Keyed.mem_of_mem_ofList member) with rfl | rfl | member
    · rw [if_pos rfl, sound.descriptorFile?_descriptorPath]
    · rw [if_neg sound.descriptorPath_ne.symm, PackageContents.descriptorFile?_manifest]
    · have slash := sound.slash_of_mem paths (List.mem_map_of_mem member)
      rw [PackageContents.descriptorFile?_of_mem slash, if_neg]
      exact fun same => sound.isName_descriptorPath.whole (same ▸ slash)
  rw [PackageContents.descriptor?]
  generalize Keyed.ofList (packed (plan.listed files)) = contents at member own
  induction contents with
  | nil => cases member
  | cons first rest ih =>
    obtain ⟨here, others⟩ := List.forall_mem_cons.mp own
    rw [List.findSome?_cons, here]
    by_cases same : first.1 = plan.descriptorPath
    · rw [if_pos same]
    · rw [if_neg same]
      refine ih ((List.mem_cons.mp member).resolve_left ?_) others
      rintro rfl
      exact same rfl

end PackagePlan.Sound

/-! ## Adding supporting files

Of two files that would get the same path in the package the first one counts.
-/

theorem isName_of_mem_packageDirectories {directory : String}
    (known : directory ∈ packageDirectories) : Path.IsName directory := by
  simp only [packageDirectories, List.mem_cons, List.not_mem_nil, or_false] at known
  rcases known with rfl | rfl | rfl | rfl
  all_goals exact ⟨by decide, by decide, by decide, by decide⟩

namespace PackagePlan

/-- The file that a path leads to, with the path that it gets in a directory of a package. -/
def fileIn? (directory path : String) : Option (String × String) :=
  (Path.fileName? path).map fun name => (directory ++ "/" ++ name, path)

variable {tree : FileTree} {plan plan' : PackagePlan} {directory path : String}

/-- A file that is added is there, and its directory is one for supporting files. -/
theorem addFile_ok (added : plan.addFile tree directory path = .ok plan') :
    directory ∈ packageDirectories ∧ tree.isFile path = true ∧
      ∃ file, fileIn? directory path = some file ∧
        plan' = { plan with
          files :=
            if plan.files.any (·.1 = file.1) then plan.files else plan.files ++ [file] } := by
  rw [addFile] at added
  split at added
  · cases added
  next known =>
  split at added
  · cases added
  next there =>
  split at added
  · cases added
  next name found =>
  refine ⟨by simpa using known, by simpa using there, _, by rw [fileIn?, found]; rfl, ?_⟩
  simp only at added
  split at added
  · next planned =>
    obtain rfl := Except.ok.inj added
    rw [if_pos planned]
  · next new =>
    obtain rfl := Except.ok.inj added
    rw [if_neg new]

/-- The planned files keep paths of their own. -/
theorem nodup_addFile (added : plan.addFile tree directory path = .ok plan')
    (distinct : (plan.files.map Prod.fst).Nodup) : (plan'.files.map Prod.fst).Nodup := by
  obtain ⟨-, -, file, -, rfl⟩ := addFile_ok added
  split
  · exact distinct
  · next new =>
    rw [List.map_append, List.map_singleton, List.nodup_append]
    refine ⟨distinct, List.nodup_singleton _, fun planned member other single => ?_⟩
    obtain rfl := List.mem_singleton.mp single
    obtain ⟨earlier, within, rfl⟩ := List.mem_map.mp member
    exact fun same => new (List.any_eq_true.mpr ⟨earlier, within, by simpa using same⟩)

/-- The path of a file in a package. -/
theorem fileIn?_eq_some {file : String × String} (found : fileIn? directory path = some file) :
    file.2 = path ∧ ∃ name, Path.IsName name ∧ name.toList ⊆ path.toList ∧
      file.1 = directory ++ "/" ++ name := by
  obtain ⟨name, named, rfl⟩ := Option.map_eq_some_iff.mp found
  obtain ⟨isName, sub⟩ := Path.isName_of_fileName? named
  exact ⟨rfl, name, isName, sub, rfl⟩

/-- A sound plan stays sound. -/
theorem Sound.addFile (sound : plan.Sound) (added : plan.addFile tree directory path = .ok plan') :
    plan'.Sound := by
  have distinct := nodup_addFile added sound.distinct
  obtain ⟨known, there, file, found, rfl⟩ := addFile_ok added
  split
  · exact sound
  · next new =>
    rw [if_neg new] at distinct
    obtain ⟨-, name, isName, sub, entry⟩ := fileIn?_eq_some found
    have isDirectory := isName_of_mem_packageDirectories known
    obtain ⟨content, held⟩ := FileTree.isFile_iff.mp there
    have plainDirectory : ∀ directory ∈ packageDirectories, '\x00' ∉ directory.toList := by decide
    have plainName : '\x00' ∉ name.toList := fun inside =>
      (FileTree.passable_of_read held).plain (sub inside)
    exact
      { named := sound.named
        plainName := sound.plainName
        descriptor := sound.descriptor
        below := by
          simp only [List.map_append, List.map_singleton, List.forall_mem_append,
            List.forall_mem_singleton]
          exact ⟨sound.below, directory, name, isDirectory, isName, entry⟩
        plain := by
          simp only [List.map_append, List.map_singleton, List.forall_mem_append,
            List.forall_mem_singleton]
          refine ⟨sound.plain, ?_⟩
          simp [entry, plainDirectory directory known, plainName]
        distinct := distinct }

/-- The file that was added counts unless one with its path was there. -/
theorem get?_addFile {file : String × String} (added : plan.addFile tree directory path = .ok plan')
    (found : fileIn? directory path = some file) (entry : String) :
    Keyed.get? plan'.files entry = Keyed.get? (plan.files ++ [file]) entry := by
  obtain ⟨-, -, other, same, rfl⟩ := addFile_ok added
  obtain rfl : other = file := Option.some.inj (same.symm.trans found)
  split
  · next planned =>
    obtain ⟨earlier, within, same⟩ := List.any_eq_true.mp planned
    have same : earlier.1 = other.1 := by simpa using same
    rw [Keyed.get?_append]
    by_cases own : other.1 = entry
    · have listed : entry ∈ plan.files.map Prod.fst :=
        List.mem_map.mpr ⟨earlier, within, same.trans own⟩
      obtain ⟨first, hit⟩ := Option.ne_none_iff_exists'.mp fun absent =>
        Keyed.get?_eq_none_iff.mp absent listed
      rw [hit, Option.some_or]
    · have absent : Keyed.get? [other] entry = none :=
        Keyed.get?_eq_none_iff.mpr (by simpa using fun same => own same.symm)
      rw [absent, Option.or_none]
  · rfl

/-! ### Building -/

/-- A package that is built is written below the directory. -/
theorem build_ok {after : FileTree} {target : String}
    (built : plan.build tree target = (after, .ok path)) :
    path = Path.join target (plan.name ++ ".tar.gz") ∧
      ∃ between members, tree.makeDirectories target = .ok between ∧
        plan.archive between = .ok members ∧ between.write path (.archive members) = .ok after := by
  rw [build] at built
  split at built
  · cases built
  · next between made =>
    split at built
    · cases built
    · next members archived =>
      simp only at built
      split at built
      · cases built
      · next new =>
        obtain ⟨rfl, same⟩ := Prod.mk.inj built
        obtain rfl := Except.ok.inj same
        exact ⟨rfl, between, members, made, archived, new⟩

/-- Making directories leaves the bytes of a file as they are. -/
theorem sourceBytes_of_makeDirectories {after : FileTree} {target : String}
    (there : tree.isFile path = true) (made : tree.makeDirectories target = .ok after) :
    sourceBytes after path = sourceBytes tree path := by
  obtain ⟨content, held⟩ := FileTree.isFile_iff.mp there
  rw [sourceBytes, sourceBytes, held, FileTree.read_of_makeDirectories held made]

end PackagePlan

end NfvCatalog
