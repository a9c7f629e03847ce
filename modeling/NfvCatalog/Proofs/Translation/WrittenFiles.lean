import NfvCatalog.Proofs.Files.Path
import NfvCatalog.Proofs.Package.Supported
import NfvCatalog.Proofs.Translation.Layout
import NfvCatalog.Translation.Output

/-! # Written files

Every descriptor of a run is written to a file of a new name in the target directory, so that
nothing that was written before is lost.
-/

/-! ## Names of written files

Whatever the name and the id of a descriptor are, its file gets a name that is one component of a
path, and that no file before it got.
-/

namespace NfvCatalog.Translation

/-! ### Stems -/

/-- A text that may begin the name of a file. -/
structure IsStem (text : String) : Prop where
  nonempty : text ≠ ""
  plain : ∀ c ∈ text.toList, isStemChar c = true

theorem isStem_fileStem (name : String) : IsStem (fileStem name) := by
  rw [fileStem]
  split
  · exact ⟨by decide, List.all_eq_true.mp (by decide)⟩
  · next nonempty =>
    refine ⟨?_, ?_⟩
    · simpa using nonempty
    · intro c member
      rw [String.toList_ofList] at member
      obtain ⟨d, -, rfl⟩ := List.mem_map.mp member
      split
      · next plain => exact plain
      · decide

theorem IsStem.append {front back : String} (isStem : IsStem front)
    (plain : ∀ c ∈ back.toList, isStemChar c = true) : IsStem (front ++ back) where
  nonempty := by simp [isStem.nonempty]
  plain c member := by
    rw [String.toList_append] at member
    exact (List.mem_append.mp member).elim (isStem.plain c) (plain c)

private theorem plain_number (n : Nat) : ∀ c ∈ (toString n).toList, isStemChar c = true := by
  intro c member
  have digits : (toString n).toList = Nat.toDigits 10 n := Nat.toList_repr
  rw [digits] at member
  have digit := Nat.isDigit_of_mem_toDigits (by decide) (by decide) member
  simp [isStemChar, Char.isAlphanum, digit]

theorem isStem_of_mem_stems {name id stem : String} {taken : Nat}
    (member : stem ∈ stems name id taken) : IsStem stem := by
  have base := isStem_fileStem name
  have withId : IsStem (fileStem name ++ "_" ++ fileStem id) :=
    (base.append (List.all_eq_true.mp (by decide))).append (isStem_fileStem id).plain
  rw [stems, List.mem_cons, List.mem_cons] at member
  rcases member with rfl | rfl | member
  · exact base
  · exact withId
  · obtain ⟨n, -, rfl⟩ := List.mem_map.mp member
    exact (withId.append (List.all_eq_true.mp (by decide))).append (plain_number _)

/-- The stems to try are all different. -/
theorem nodup_stems (name id : String) (taken : Nat) : (stems name id taken).Nodup := by
  refine List.nodup_cons.mpr ⟨fun member => ?_, nodup_variants _ taken⟩
  -- Every other stem is longer than the first one.
  have longer : ∀ stem ∈ variants (fileStem name ++ "_" ++ fileStem id) taken,
      (fileStem name).length < stem.length := by
    intro stem member
    have underscore : ("_" : String).length = 1 := by decide
    rcases List.mem_cons.mp member with rfl | member
    · rw [String.length_append, String.length_append]
      omega
    · obtain ⟨n, -, rfl⟩ := List.mem_map.mp member
      simp only [String.length_append]
      omega
  exact Nat.lt_irrefl _ (longer _ member)

/-! ### Claimed names -/

/-- Different stems tell files apart. -/
theorem nameKey_injective (archive : Bool) (kind : DescriptorKind) :
    Function.Injective (nameKey archive kind) := by
  intro stem other same
  cases archive with
  | true => exact same
  | false =>
    rw [nameKey, nameKey, if_neg Bool.false_ne_true, if_neg Bool.false_ne_true] at same
    exact (String.append_left_inj _).mp ((String.append_left_inj _).mp same)

/-- The name that a descriptor claims is one of its stems, and new. -/
theorem claimStem_spec (archive : Bool) (used : List String) (kind : DescriptorKind)
    (name id : String) :
    IsStem (claimStem archive used kind name id) ∧
      nameKey archive kind (claimStem archive used kind name id) ∉ used := by
  have distinct : ((stems name id used.length).map (nameKey archive kind)).Nodup :=
    (nodup_stems name id used.length).map (nameKey_injective archive kind)
  have more : used.length < ((stems name id used.length).map (nameKey archive kind)).length := by
    simp only [stems, List.length_map, List.length_cons, List.length_range]
    omega
  obtain ⟨key, found, free⟩ := exists_find?_free used distinct more
  rw [List.find?_map, Option.map_eq_some_iff] at found
  obtain ⟨stem, found, rfl⟩ := found
  have claimed : claimStem archive used kind name id = stem :=
    (congrArg (Option.getD · (fileStem name)) found).trans rfl
  rw [claimed]
  exact ⟨isStem_of_mem_stems (List.mem_of_find?_eq_some found), free⟩

/-! ### Files -/

/-- What stands behind the key in the name of a written file. -/
def OutputOptions.suffix (options : OutputOptions) : String :=
  if options.archive then ".tar.gz" else "." ++ options.format.name

/-- The name of the file that a descriptor is written to. -/
def OutputOptions.fileName (options : OutputOptions) (kind : DescriptorKind) (stem : String) :
    String :=
  nameKey options.archive kind stem ++ options.suffix

/-- Stem characters that are not all dots make a name. -/
theorem IsStem.isName {text : String} (isStem : IsStem text) {c : Char} (member : c ∈ text.toList)
    (letter : c ≠ '.') : Path.IsName text where
  nonempty := isStem.nonempty
  notCurrent := by
    rintro rfl
    simp at member
    exact letter member
  notParent := by
    rintro rfl
    simp at member
    exact letter member
  whole slash := absurd (isStem.plain '/' slash) (by decide)

theorem IsStem.nameKey {stem : String} (isStem : IsStem stem) (archive : Bool)
    (kind : DescriptorKind) : IsStem (nameKey archive kind stem) := by
  rw [Translation.nameKey]
  split
  · exact isStem
  · exact (isStem.append (List.all_eq_true.mp (by decide))).append
      (List.all_eq_true.mp (by cases kind <;> decide))

/-- The file of a descriptor has a name. -/
theorem IsStem.isName_fileName {stem : String} (isStem : IsStem stem) (options : OutputOptions)
    (kind : DescriptorKind) : Path.IsName (options.fileName kind stem) := by
  obtain ⟨format, archive⟩ := options
  have plain : (OutputOptions.suffix ⟨format, archive⟩).toList.all isStemChar = true := by
    cases format <;> cases archive <;> decide
  have letter : (OutputOptions.suffix ⟨format, archive⟩).toList.any (· ≠ '.') = true := by
    cases format <;> cases archive <;> decide
  obtain ⟨c, member, notDot⟩ := List.any_eq_true.mp letter
  refine ((isStem.nameKey archive kind).append (List.all_eq_true.mp plain)).isName ?_
    (by simpa using notDot)
  rw [String.toList_append]
  exact List.mem_append_right _ member

/-- Files of different keys have different names. -/
theorem fileName_ne {options : OutputOptions} {kind other : DescriptorKind} {stem stem' : String}
    (apart : nameKey options.archive kind stem ≠ nameKey options.archive other stem') :
    options.fileName kind stem ≠ options.fileName other stem' :=
  fun same => apart ((String.append_left_inj _).mp same)

/-- The name of a bare descriptor's file tells its notation. -/
theorem ofPath?_fileName {options : OutputOptions} (bare : options.archive = false)
    (kind : DescriptorKind) {stem : String} (isStem : IsStem stem) (target : String) :
    Format.ofPath? (Path.join target (options.fileName kind stem)) = some options.format := by
  have key : nameKey options.archive kind stem ≠ "" := (isStem.nameKey _ kind).nonempty
  have cut : Path.cutExtension (options.fileName kind stem) =
      (nameKey options.archive kind stem, some options.format.name) := by
    rw [OutputOptions.fileName, OutputOptions.suffix, bare, if_neg Bool.false_ne_true,
      ← String.append_assoc]
    exact Path.cutExtension_append (bare ▸ key) (by cases options.format <;> decide)
  rw [Format.ofPath?, Path.extension?, Path.fileName?_join (isStem.isName_fileName options kind)]
  simp only [cut]
  cases options.format <;> decide

/-! ## Runs of writing -/

variable {service : Service} {options : OutputOptions} {target source : String}

/-! ### One descriptor -/

/-- A bare descriptor is written as text. -/
theorem writeItem_bare_ok {tree after : FileTree} {stem path : String} {item : OutputItem}
    (bare : options.archive = false)
    (written : writeItem tree service options target source stem item = (after, .ok path)) :
    path = Path.join target (options.fileName item.kind stem) ∧
      tree.write path (.bytes (Utf8.encode item.text)) = .ok after := by
  have name : options.fileName item.kind stem =
      stem ++ "_" ++ item.kind.name ++ "." ++ options.format.name := by
    rw [OutputOptions.fileName, nameKey, OutputOptions.suffix, bare, if_neg Bool.false_ne_true,
      if_neg Bool.false_ne_true, ← String.append_assoc]
  rw [writeItem, bare, if_neg Bool.false_ne_true, ← name] at written
  simp only at written
  split at written
  · cases written
  · next new =>
    obtain ⟨rfl, same⟩ := Prod.mk.inj written
    obtain rfl := Except.ok.inj same
    exact ⟨rfl, new⟩

/-- A package is built from the descriptor and the files that it owns and that are there. -/
theorem writeItem_archive_ok {tree after : FileTree} {stem path : String} {item : OutputItem}
    (packed : options.archive = true)
    (written : writeItem tree service options target source stem item = (after, .ok path)) :
    ∃ plan, addArtifacts tree source (service.artifacts.filter (·.owner = item.owner))
        { kind := item.kind, name := stem, descriptor := item.text, format := options.format } =
          .ok plan ∧
      plan.build tree target = (after, .ok path) := by
  rw [writeItem, packed, if_pos rfl] at written
  simp only at written
  split at written
  · cases written
  · next plan planned => exact ⟨plan, planned, written⟩

/-- The artifacts that are there as files. -/
def additionsFor (tree : FileTree) (source : String) (artifacts : List Artifact) : List Addition :=
  artifacts.filterMap fun artifact =>
    let path := Path.join source artifact.source
    if tree.isFile path then some ⟨tree, artifact.kind.directory, path⟩ else none

private theorem addArtifacts_eq (tree : FileTree) (artifacts : List Artifact)
    (plan : PackagePlan) :
    addArtifacts tree source artifacts plan =
      plan.addFiles (additionsFor tree source artifacts) := by
  induction artifacts generalizing plan with
  | nil => rfl
  | cons artifact rest ih =>
    rw [addArtifacts, additionsFor, List.filterMap_cons]
    by_cases there : tree.isFile (Path.join source artifact.source) = true
    · simp only [there, if_true, ih]
      rfl
    · simp only [there, ih]
      rfl

/-- Planning artifacts is adding those that are there. -/
theorem addArtifacts_adds {tree : FileTree} {artifacts : List Artifact} {plan plan' : PackagePlan}
    (added : addArtifacts tree source artifacts plan = .ok plan') :
    PackagePlan.Adds plan plan' (additionsFor tree source artifacts) :=
  PackagePlan.addFiles_ok (addArtifacts_eq tree artifacts plan ▸ added)

/-- Whatever form a descriptor is written in, its file gets the name for it, and everything else
in the directory stays. -/
theorem writeItem_ok {tree after : FileTree} {stem path : String} {item : OutputItem}
    (isStem : IsStem stem)
    (written : writeItem tree service options target source stem item = (after, .ok path)) :
    path = Path.join target (options.fileName item.kind stem) ∧
      ∀ other content, Path.IsName other → other ≠ options.fileName item.kind stem →
        tree.read (Path.join target other) = .ok content →
          after.read (Path.join target other) = .ok content := by
  have isName := isStem.isName_fileName options item.kind
  cases form : options.archive with
  | false =>
    obtain ⟨rfl, new⟩ := writeItem_bare_ok form written
    exact ⟨rfl, fun other content isOther apart held =>
      FileTree.read_join_of_write isName isOther apart held new⟩
  | true =>
    obtain ⟨plan, planned, built⟩ := writeItem_archive_ok form written
    obtain ⟨named, between, members, made, -, new⟩ := PackagePlan.build_ok built
    have name : plan.name ++ ".tar.gz" = options.fileName item.kind stem := by
      rw [(addArtifacts_adds planned).keeps, OutputOptions.fileName, nameKey, OutputOptions.suffix,
        form, if_pos rfl, if_pos rfl]
    rw [name] at named
    subst named
    exact ⟨rfl, fun other content isOther apart held =>
      FileTree.read_join_of_write isName isOther apart
        (FileTree.read_of_makeDirectories held made) new⟩

/-! ### Runs -/

/-- A run writes its first descriptor under the stem that this claims, and then the others. -/
theorem writeItems_cons_ok {tree after : FileTree} {used paths : List String} {item : OutputItem}
    {rest : List OutputItem}
    (written : writeItems service options target source tree used (item :: rest) =
      (after, .ok paths)) :
    ∃ stem path others between, paths = path :: others ∧ IsStem stem ∧
      stem = claimStem options.archive used item.kind item.name item.id ∧
      nameKey options.archive item.kind stem ∉ used ∧
      writeItem tree service options target source stem item = (between, .ok path) ∧
      writeItems service options target source between
        (nameKey options.archive item.kind stem :: used) rest = (after, .ok others) := by
  rw [writeItems] at written
  simp only at written
  split at written
  · cases written
  · next between path first =>
    split at written
    · cases written
    · next last others run =>
      obtain ⟨rfl, same⟩ := Prod.mk.inj written
      obtain rfl := Except.ok.inj same
      obtain ⟨isStem, new⟩ :=
        claimStem_spec options.archive used item.kind item.name item.id
      exact ⟨_, path, others, between, rfl, isStem, rfl, new, first, run⟩

/-- A run keeps the files whose names are taken. -/
theorem read_of_writeItems {tree after : FileTree} {used paths : List String}
    {items : List OutputItem} {kind : DescriptorKind} {stem : String} {content : FileContent}
    (written : writeItems service options target source tree used items = (after, .ok paths))
    (isStem : IsStem stem) (known : nameKey options.archive kind stem ∈ used)
    (held : tree.read (Path.join target (options.fileName kind stem)) = .ok content) :
    after.read (Path.join target (options.fileName kind stem)) = .ok content := by
  induction items generalizing tree used paths with
  | nil =>
    obtain ⟨rfl, -⟩ := Prod.mk.inj written
    exact held
  | cons item rest ih =>
    obtain ⟨own, path, others, between, rfl, isOwn, -, new, first, run⟩ :=
      writeItems_cons_ok written
    have apart : nameKey options.archive kind stem ≠ nameKey options.archive item.kind own :=
      fun same => new (same ▸ known)
    have still := (writeItem_ok isOwn first).2 _ content (isStem.isName_fileName options kind)
      (fileName_ne apart) held
    exact ih run (List.mem_cons_of_mem _ known) still

/-- After a run every bare descriptor is found at its path, under a name that tells its notation. -/
theorem texts_of_writeItems {tree after : FileTree} {used paths : List String}
    {items : List OutputItem} (bare : options.archive = false)
    (written : writeItems service options target source tree used items = (after, .ok paths)) :
    List.Forall₂ (fun item path => after.readText path = .ok item.text ∧
      Format.ofPath? path = some options.format) items paths := by
  induction items generalizing tree used paths with
  | nil =>
    obtain ⟨-, same⟩ := Prod.mk.inj written
    obtain rfl := Except.ok.inj same
    exact .nil
  | cons item rest ih =>
    obtain ⟨stem, path, others, between, rfl, isStem, -, -, first, run⟩ :=
      writeItems_cons_ok written
    refine .cons ⟨?_, ?_⟩ (ih run)
    · obtain ⟨rfl, new⟩ := writeItem_bare_ok bare first
      have held := read_of_writeItems run isStem (List.mem_cons_self ..)
        (FileTree.read_of_write new)
      rw [FileTree.readText, held]
      simp only [Utf8.decode?_encode]
    · rw [(writeItem_ok isStem first).1]
      exact ofPath?_fileName bare item.kind isStem target

/-! ## Separate files

Every descriptor gets a file of its own: the functions in order, then the service. That stems
collide, because signs in names are replaced or because a name looks like one with an id behind it,
makes no difference.
-/

/-- A descriptor that is about to be written: the files that are there, the stem that it claimed,
and the descriptor itself. -/
structure Stage where
  tree : FileTree
  stem : String
  item : OutputItem
deriving DecidableEq, Repr

/-- The stages of a run, one for each descriptor. -/
def stages (service : Service) (options : OutputOptions) (target source : String) :
    FileTree → List String → List OutputItem → List Stage
  | _, _, [] => []
  | tree, used, item :: rest =>
    let stem := claimStem options.archive used item.kind item.name item.id
    let after := (writeItem tree service options target source stem item).1
    ⟨tree, stem, item⟩ ::
      stages service options target source after (nameKey options.archive item.kind stem :: used)
        rest

/-- The stages in which a service is written. -/
def Service.stages (tree : FileTree) (service : Service) (target source : String)
    (options : OutputOptions) : List Stage :=
  match tree.makeDirectories target with
  | .error _ => []
  | .ok start =>
    Translation.stages service options target source start [] (service.items options.format)

/-- Whatever form a descriptor is written in, there is a file at its path afterwards. -/
theorem read_of_writeItem {tree after : FileTree} {stem path : String} {item : OutputItem}
    (written : writeItem tree service options target source stem item = (after, .ok path)) :
    ∃ content, after.read path = .ok content := by
  cases form : options.archive with
  | false =>
    obtain ⟨-, new⟩ := writeItem_bare_ok form written
    exact ⟨_, FileTree.read_of_write new⟩
  | true =>
    obtain ⟨plan, -, built⟩ := writeItem_archive_ok form written
    obtain ⟨rfl, between, members, -, -, new⟩ := PackagePlan.build_ok built
    exact ⟨_, FileTree.read_of_write new⟩

/-- The descriptor of a stage is written to a path, and what is written there is still there in a
later tree. -/
structure Stage.KeptAt (stage : Stage) (service : Service) (options : OutputOptions)
    (target source : String) (after : FileTree) (path : String) : Prop where
  named : path = Path.join target (options.fileName stage.item.kind stage.stem)
  kept : ∃ between content,
    writeItem stage.tree service options target source stage.stem stage.item = (between, .ok path) ∧
      between.read path = .ok content ∧ after.read path = .ok content

/-- A run writes its descriptors in order, and keeps each. -/
theorem kept_of_writeItems {tree after : FileTree} {used paths : List String}
    {items : List OutputItem}
    (written : writeItems service options target source tree used items = (after, .ok paths)) :
    List.Forall₂ (fun stage path => stage.KeptAt service options target source after path)
      (stages service options target source tree used items) paths := by
  induction items generalizing tree used paths with
  | nil =>
    obtain rfl := Except.ok.inj (Prod.mk.inj written).2
    exact .nil
  | cons item rest ih =>
    obtain ⟨stem, path, others, between, rfl, isStem, rfl, -, first, run⟩ :=
      writeItems_cons_ok written
    obtain ⟨content, held⟩ := read_of_writeItem first
    have named := (writeItem_ok isStem first).1
    rw [stages]
    simp only [first]
    refine .cons ⟨named, between, content, first, held, ?_⟩ (ih run)
    rw [named] at held ⊢
    exact read_of_writeItems run isStem (List.mem_cons_self ..) held

/-- A run writes to files of new and distinct names in the target directory. -/
theorem names_of_writeItems {tree after : FileTree} {used paths : List String}
    {items : List OutputItem}
    (written : writeItems service options target source tree used items = (after, .ok paths)) :
    ∃ names : List String, paths = names.map (Path.join target) ∧ names.Nodup ∧
      ∀ name ∈ names, Path.IsName name ∧ name ∉ used.map (· ++ options.suffix) := by
  induction items generalizing tree used paths with
  | nil =>
    obtain rfl := Except.ok.inj (Prod.mk.inj written).2
    exact ⟨[], rfl, .nil, List.forall_mem_nil _⟩
  | cons item rest ih =>
    obtain ⟨stem, path, others, between, rfl, isStem, -, new, first, run⟩ :=
      writeItems_cons_ok written
    obtain ⟨names, rfl, distinct, each⟩ := ih run
    refine ⟨options.fileName item.kind stem :: names, ?_, List.nodup_cons.mpr ⟨?_, distinct⟩, ?_⟩
    · rw [List.map_cons, (writeItem_ok isStem first).1]
    · exact fun again => (each _ again).2 (List.mem_map_of_mem (List.mem_cons_self ..))
    · refine List.forall_mem_cons.mpr ⟨⟨isStem.isName_fileName options item.kind, ?_⟩, ?_⟩
      · intro taken
        obtain ⟨key, known, same⟩ := List.mem_map.mp taken
        exact new ((String.append_left_inj _).mp same ▸ known)
      · intro name member
        obtain ⟨isName, free⟩ := each name member
        exact ⟨isName, fun taken => free (List.map_subset _ (List.subset_cons_self ..) taken)⟩

theorem map_item_stages (tree : FileTree) (used : List String) (items : List OutputItem) :
    (stages service options target source tree used items).map (·.item) = items := by
  induction items generalizing tree used with
  | nil => rfl
  | cons item rest ih => exact congrArg (item :: ·) (ih _ _)

/-- A service that is written gets one file for each function, in order, and then one for itself.
The files lie directly in the target directory and differ from each other, and each of them has
in the end what was written for its descriptor. -/
theorem write_separates {tree after : FileTree} {paths : List String}
    (written : service.write tree target source options = (after, .ok paths)) :
    (paths.map Path.components).Nodup ∧
      (∀ path ∈ paths, ∃ name,
        Path.components path = Path.components target ++ [.normal name]) ∧
      (service.stages tree target source options).map (·.item) = service.items options.format ∧
      List.Forall₂ (fun stage path => stage.KeptAt service options target source after path)
        (service.stages tree target source options) paths := by
  rw [Service.write] at written
  split at written
  · cases written
  · next start made =>
    rw [Service.stages, made]
    obtain ⟨names, rfl, distinct, each⟩ := names_of_writeItems written
    have parts : ∀ name ∈ names, Path.components (Path.join target name) =
        Path.components target ++ [.normal name] := fun name member =>
      Path.components_join (each name member).1
    refine ⟨?_, List.forall_mem_map.mpr fun name member => ⟨name, parts name member⟩,
      map_item_stages .., kept_of_writeItems written⟩
    rw [List.map_map]
    refine distinct.map_on fun name member other otherMember same => ?_
    have last := (parts name member).symm.trans (same.trans (parts other otherMember))
    simpa using last

/-- A service whose names collide: one function is named like another one with its id behind it. -/
def crowdedService : Service :=
  { nsd := { id := "fw", name := "fw b" }
    vnfds := [
      { id := "a", name := "fw" }, { id := "c", name := "fw/b" }, { id := "b", name := "fw" }] }

/-- The third function finds its name taken, and also its name with its id. -/
theorem crowdedService_separate :
    (crowdedService.write {} "out" "" {}).2 = .ok ["out/fw_vnfd.yaml", "out/fw_b_vnfd.yaml",
        "out/fw_b_2_vnfd.yaml", "out/fw_b_nsd.yaml"] ∧
      List.Forall₂ (fun stage path =>
          stage.KeptAt crowdedService {} "out" "" (crowdedService.write {} "out" "" {}).1 path)
        (crowdedService.stages {} "out" "" {}) ["out/fw_vnfd.yaml", "out/fw_b_vnfd.yaml",
          "out/fw_b_2_vnfd.yaml", "out/fw_b_nsd.yaml"] := by
  have written : (crowdedService.write {} "out" "" {}).2 = .ok ["out/fw_vnfd.yaml",
      "out/fw_b_vnfd.yaml", "out/fw_b_2_vnfd.yaml", "out/fw_b_nsd.yaml"] :=
    toOption_eq_some.mp (by decide +kernel)
  refine ⟨written, ?_⟩
  generalize run : crowdedService.write {} "out" "" {} = result at written ⊢
  obtain ⟨after, outcome⟩ := result
  obtain rfl : outcome = .ok _ := written
  exact (write_separates run).2.2.2

end NfvCatalog.Translation
