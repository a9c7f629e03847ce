import Mathlib.Data.List.TakeWhile
import NfvCatalog.Package.Plan
import NfvCatalog.Proofs.Files.Path
import NfvCatalog.Proofs.Files.Tree
import NfvCatalog.Proofs.Lists.Keyed
import NfvCatalog.Proofs.Outcome

/-! # Contents of packages

An archive makes a package exactly if no member leads out of it and all members that are named lie
below one directory, its root. The package then has the files below the root: of several members
with one path the last one counts. So a planned package is read with its name for the root, and with
the planned files, sorted by path. A dot is no name: members below it would each have a root of
their own.
-/

namespace NfvCatalog

/-- The name that a component is, if it is one. -/
def Path.Component.name? : Path.Component → Option String
  | .normal name => some name
  | _ => none

namespace PackageContents

open NfvCatalog.Path (Component)

/-! ## Names on a path -/

/-- The names on a path. -/
def namesOn (path : String) : List String := (Path.components path).filterMap Component.name?

theorem names?_eq_some_iff {components : List Component} {names : List String} :
    names? components = some names ↔
      .root ∉ components ∧ .parent ∉ components ∧ components.filterMap Component.name? = names := by
  induction components generalizing names with
  | nil => simp [names?]
  | cons component rest ih =>
    cases component with
    | root => simp [names?]
    | current => simp [names?, ih, Component.name?, List.filterMap_cons]
    | parent => simp [names?]
    | normal name => cases names <;> simp [names?, ih, Component.name?, and_left_comm, and_assoc]

/-- A path starts where it is read and does not lead upwards, and the first name on it, if there is
one, is that of a directory. -/
structure LiesBelow (root path : String) : Prop where
  relative : .root ∉ Path.components path
  inward : .parent ∉ Path.components path
  below : ∀ name ∈ (namesOn path).head?, name = root

/-- Below a directory the names on a path can be told. -/
theorem LiesBelow.names?_eq {root path : String} (lies : LiesBelow root path) :
    names? (Path.components path) = some (namesOn path) :=
  names?_eq_some_iff.mpr ⟨lies.relative, lies.inward, rfl⟩

/-! ## Reading members -/

/-- The file that a member is below the root of its package, if it is one. -/
def fileOf? (member : ArchiveMember) : Option (String × List UInt8) :=
  match member.kind, namesOn member.path with
  | .file bytes, _ :: name :: names => some (Text.join "/" (name :: names), bytes)
  | _, _ => none

/-- A package with more files, one after another. -/
def putAll (files : List (String × List UInt8)) (contents : PackageContents) : PackageContents :=
  { contents with
    files := files.foldl (fun done file => Keyed.put file.1 file.2 done) contents.files }

/-- A member that lies below the root of a package adds the file that it is. -/
private theorem addMember_some {contents : PackageContents} {member : ArchiveMember}
    {after : Option PackageContents} :
    addMember (some contents) member = .ok after ↔ LiesBelow contents.root member.path ∧
      after = some (contents.putAll (fileOf? member).toList) := by
  rw [addMember]
  cases found : names? (Path.components member.path) with
  | none =>
    have leaves : ¬ LiesBelow contents.root member.path := fun lies => by
      rw [lies.names?_eq] at found
      cases found
    simp [leaves]
  | some names =>
    obtain ⟨relative, inward, named⟩ := names?_eq_some_iff.mp found
    have named : namesOn member.path = names := named
    cases names with
    | nil =>
      have lies : LiesBelow contents.root member.path := ⟨relative, inward, by simp [named]⟩
      simp [lies, named, fileOf?, putAll, eq_comm]
    | cons root inner =>
      by_cases same : root = contents.root
      · subst same
        have lies : LiesBelow contents.root member.path := ⟨relative, inward, by simp [named]⟩
        cases kind : member.kind <;> cases inner <;>
          simp [lies, named, fileOf?, putAll, kind, eq_comm]
      · have apart : ¬ LiesBelow contents.root member.path := fun lies =>
          same (lies.below root (by simp [named]))
        simp [apart, Ne.symm same]

/-- Members that lie below the root of a package add the files that they are. -/
private theorem addMembers_some {contents : PackageContents} {members : List ArchiveMember}
    {after : Option PackageContents} :
    addMembers (some contents) members = .ok after ↔
      (∀ member ∈ members, LiesBelow contents.root member.path) ∧
        after = some (contents.putAll (members.filterMap fileOf?)) := by
  induction members generalizing contents with
  | nil => simp [addMembers, putAll, eq_comm]
  | cons member rest ih =>
    have step : (contents.putAll (fileOf? member).toList).putAll (rest.filterMap fileOf?) =
        contents.putAll ((member :: rest).filterMap fileOf?) := by
      cases file : fileOf? member <;> simp [putAll, file]
    have root : (contents.putAll (fileOf? member).toList).root = contents.root := rfl
    rw [addMembers, bind_eq_ok]
    simp only [addMember_some, and_assoc, exists_and_left, exists_eq_left, ih, step, root,
      List.forall_mem_cons]

/-- The members of an archive lie below one directory, which some of them name. -/
structure OneRoot (members : List ArchiveMember) (root : String) : Prop where
  lie : ∀ member ∈ members, LiesBelow root member.path
  named : ∃ member ∈ members, namesOn member.path ≠ []

/-- The first member with a name tells the root. -/
private theorem addMembers_none {members : List ArchiveMember} {contents : PackageContents} :
    addMembers none members = .ok (some contents) ↔ OneRoot members contents.root ∧
      contents.files = Keyed.ofList (members.filterMap fileOf?) := by
  induction members with
  | nil =>
    have nameless : ¬ OneRoot [] contents.root := fun one => by simpa using one.named
    simp [addMembers, nameless]
  | cons member rest ih =>
    cases found : names? (Path.components member.path) with
    | none =>
      have leaves : ¬ OneRoot (member :: rest) contents.root := fun one => by
        rw [(one.lie member (List.mem_cons_self ..)).names?_eq] at found
        cases found
      simp [addMembers, addMember, found, leaves]
    | some names =>
      obtain ⟨relative, inward, named⟩ := names?_eq_some_iff.mp found
      have named : namesOn member.path = names := named
      cases names with
      | nil =>
        have lies : LiesBelow contents.root member.path := ⟨relative, inward, by simp [named]⟩
        have first : addMember none member = .ok none := by simp [addMember, found]
        have others : OneRoot (member :: rest) contents.root ↔ OneRoot rest contents.root :=
          ⟨fun one => ⟨(List.forall_mem_cons.mp one.lie).2, by simpa [named] using one.named⟩,
            fun one => ⟨List.forall_mem_cons.mpr ⟨lies, one.lie⟩, by
              simpa [named] using one.named⟩⟩
        simp [addMembers, first, ih, others, named, fileOf?]
      | cons root inner =>
        have whole : addMembers none (member :: rest) =
            addMembers (some ⟨root, []⟩) (member :: rest) := by
          simp [addMembers, addMember, found]
        rw [whole, addMembers_some, Option.some.injEq]
        constructor
        · rintro ⟨all, rfl⟩
          exact ⟨⟨all, member, List.mem_cons_self .., by simp [named]⟩, rfl⟩
        · rintro ⟨one, files⟩
          obtain rfl : root = contents.root :=
            (one.lie member (List.mem_cons_self ..)).below root (by simp [named])
          refine ⟨one.lie, ?_⟩
          rw [putAll, ← Keyed.ofList, ← files]

/-- Members make a package with the files that they are. -/
theorem ofMembers_eq_ok {members : List ArchiveMember} {contents : PackageContents} :
    ofMembers members = .ok contents ↔ OneRoot members contents.root ∧
      contents.files = Keyed.ofList (members.filterMap fileOf?) := by
  rw [← addMembers_none, ofMembers]
  rcases addMembers none members with fault | (_ | found) <;> simp

/-- A package that is read has the members of the archive at its path. -/
theorem load_eq_ok {tree : FileTree} {path : String} {contents : PackageContents} :
    load tree path = .ok contents ↔ ∃ content members, tree.read path = .ok content ∧
      membersOf content = .ok members ∧ ofMembers members = .ok contents := by
  constructor
  · intro read
    rw [load] at read
    split at read
    · cases read
    · cases read
    next content executable stands =>
    split at read
    · cases read
    next members unpacked =>
    exact ⟨content, members, FileTree.read_eq_ok.mpr ⟨executable, stands⟩, unpacked,
      mapError_eq_ok.mp read⟩
  · rintro ⟨content, members, held, unpacked, made⟩
    obtain ⟨executable, stands⟩ := FileTree.read_eq_ok.mp held
    rw [load, stands]
    simp only [unpacked, mapError_eq_ok, made]

/-- The files of a package that is read are sorted. -/
theorem sorted_of_load {tree : FileTree} {path : String} {contents : PackageContents}
    (read : load tree path = .ok contents) : Keyed.Sorted contents.files := by
  obtain ⟨content, members, -, -, made⟩ := load_eq_ok.mp read
  rw [(ofMembers_eq_ok.mp made).2]
  exact Keyed.sorted_ofList _

/-- A file is read as a package exactly if the members of its archive lie below one directory. The
package has this directory for its root, and the files below it, sorted, each with the bytes of the
last member for it. -/
theorem load_confines {tree : FileTree} {path : String} {content : FileContent}
    {members : List ArchiveMember} (held : tree.read path = .ok content)
    (unpacked : membersOf content = .ok members) :
    ((∃ contents, load tree path = .ok contents) ↔ ∃ root, OneRoot members root) ∧
      ∀ contents, load tree path = .ok contents → OneRoot members contents.root ∧
        Keyed.Sorted contents.files ∧
          ∀ path, contents.file? path = Keyed.last? (members.filterMap fileOf?) path := by
  have read (contents : PackageContents) : load tree path = .ok contents ↔
      OneRoot members contents.root ∧
        contents.files = Keyed.ofList (members.filterMap fileOf?) := by
    simp only [load_eq_ok, held, Except.ok.injEq, exists_and_left, exists_eq_left', unpacked,
      ofMembers_eq_ok]
  refine ⟨?_, fun contents loaded => ?_⟩
  · simp only [read]
    exact ⟨fun ⟨contents, one, _⟩ => ⟨contents.root, one⟩, fun ⟨root, one⟩ => ⟨⟨root, _⟩, one, rfl⟩⟩
  · obtain ⟨one, files⟩ := (read contents).mp loaded
    refine ⟨one, sorted_of_load loaded, fun path => ?_⟩
    rw [file?, files, Keyed.get?_ofList]

/-- An archive in which one file comes twice, under paths that are spelled differently. -/
def dottedMembers : List ArchiveMember := [
  ⟨".", .directory⟩, ⟨"./ping/", .directory⟩, ⟨"ping/./scripts/start.sh", .file [1]⟩,
  ⟨"ping//scripts/start.sh", .file [2]⟩, ⟨"ping/latest", .link⟩]

/-- A directory with the archive. -/
def dottedTree : FileTree := ⟨[(["ping.tar.gz"], .file (.archive dottedMembers) false)]⟩

theorem dottedTree_confines :
    dottedTree.read "ping.tar.gz" = .ok (.archive dottedMembers) ∧
      membersOf (.archive dottedMembers) = .ok dottedMembers ∧
      ∃ contents, load dottedTree "ping.tar.gz" = .ok contents ∧ contents.root = "ping" ∧
        contents.file? "scripts/start.sh" = some [2] ∧ contents.file? "latest" = none := by
  have held : dottedTree.read "ping.tar.gz" = .ok (.archive dottedMembers) := by decide +kernel
  have unpacked : membersOf (.archive dottedMembers) = .ok dottedMembers := by decide +kernel
  have one : OneRoot dottedMembers "ping" :=
    ⟨fun member isMember => ⟨by revert member; decide +kernel, by revert member; decide +kernel,
      by revert member; decide +kernel⟩, by decide +kernel⟩
  obtain ⟨accepted, each⟩ := load_confines held unpacked
  obtain ⟨contents, read⟩ := accepted.mpr ⟨"ping", one⟩
  obtain ⟨root, -, found⟩ := each contents read
  refine ⟨held, unpacked, contents, read, ?_, ?_, ?_⟩
  · exact ((root.lie ⟨"./ping/", .directory⟩ (by decide)).below "ping" (by decide +kernel)).symm
  · rw [found]
    decide +kernel
  · rw [found]
    decide +kernel

end PackageContents

/-! ## Paths in a package -/

/-- A path in a package with the names on it: a name, or a name in a directory. -/
inductive IsInner : String → List String → Prop
  | atRoot {name : String} (isName : Path.IsName name) : IsInner name [name]
  | inDirectory {directory name : String} (isDirectory : Path.IsName directory)
      (isName : Path.IsName name) : IsInner (directory ++ "/" ++ name) [directory, name]

namespace IsInner

variable {path : String} {names : List String}

theorem steps_eq (inner : IsInner path names) :
    Path.steps path = names.map Path.Component.normal := by
  cases inner with
  | atRoot isName => exact isName.steps_eq
  | inDirectory isDirectory isName =>
    rw [Path.steps_append, isDirectory.steps_eq, isName.steps_eq]
    rfl

theorem join_eq (inner : IsInner path names) : Text.join "/" names = path := by
  cases inner <;> simp [Text.join]

theorem ne_nil (inner : IsInner path names) : names ≠ [] := by
  cases inner <;> simp

theorem ne_empty (inner : IsInner path names) : path ≠ "" := by
  cases inner with
  | atRoot isName => exact isName.nonempty
  | inDirectory => simp

/-- A directory of a package is a name. -/
theorem isName_of_directoryOf? (inner : IsInner path names) {directory : String}
    (found : PackagePlan.directoryOf? path = some directory) :
    Path.IsName directory ∧ ∀ c ∈ directory.toList, c ∈ path.toList := by
  cases inner with
  | atRoot isName =>
    have whole : path.toList.reverse.takeWhile (· ≠ '/') = path.toList.reverse := by
      refine List.takeWhile_eq_self_iff.mpr fun c member => ?_
      simpa using fun same : c = '/' => isName.whole (same ▸ List.mem_reverse.mp member)
    simp only [PackagePlan.directoryOf?, whole, List.length_reverse, if_true, reduceCtorEq] at found
  | @inDirectory above name isAbove isName =>
    have chars : (above ++ "/" ++ name).toList = above.toList ++ '/' :: name.toList := by
      simp
    have tail := Text.takeWhile_reverse_append '/' above.toList isName.whole
    have cut : (above.toList ++ '/' :: name.toList).length - name.toList.length - 1 =
        above.toList.length := by
      rw [List.length_append, List.length_cons]
      omega
    simp only [PackagePlan.directoryOf?, chars, tail, List.length_reverse, cut,
      List.take_left] at found
    split at found
    · cases found
    · obtain rfl := Option.some.inj found
      rw [String.ofList_toList]
      refine ⟨isAbove, fun c member => ?_⟩
      rw [chars]
      exact List.mem_append_left _ member

end IsInner

namespace PackageContents

open NfvCatalog.Path (Component)

/-- A path of names lies below the first of them. -/
private theorem liesBelow_of_names {root path : String} {names : List String}
    (components : Path.components path = (root :: names).map Component.normal) :
    LiesBelow root path ∧ namesOn path = root :: names := by
  have named : namesOn path = root :: names := by
    rw [namesOn, components, List.filterMap_map]
    exact List.filterMap_some
  exact ⟨⟨by simp [components], by simp [components], by simp [named]⟩, named⟩

/-- The names on the path of a member, below the root. -/
theorem liesBelow_append {root path : String} {names : List String} (isRoot : Path.IsName root)
    (inner : IsInner path names) :
    LiesBelow root (root ++ "/" ++ path) ∧ namesOn (root ++ "/" ++ path) = root :: names := by
  refine liesBelow_of_names ?_
  rw [Path.components_append isRoot.nonempty, isRoot.components_eq, inner.steps_eq]
  rfl

/-- A planned package has its name for the root and the planned files. -/
theorem ofMembers_members {root : String} {contents : List (String × List UInt8)}
    (isRoot : Path.IsName root) (inner : ∀ file ∈ contents, ∃ names, IsInner file.1 names) :
    ofMembers (PackagePlan.members root contents) = .ok ⟨root, Keyed.ofList contents⟩ := by
  have top : LiesBelow root (root ++ "/") ∧ namesOn (root ++ "/") = [root] := by
    refine liesBelow_of_names ?_
    rw [Path.components_append_slash isRoot.nonempty, isRoot.components_eq]
    rfl
  have directories : ∀ directory ∈
      (PackagePlan.directories (contents.map Prod.fst)).filter (· ≠ ""),
      LiesBelow root (root ++ "/" ++ directory ++ "/") := by
    intro directory member
    obtain ⟨listed, -⟩ := List.mem_filter.mp member
    obtain ⟨path, inPaths, found⟩ := List.mem_filterMap.mp (List.mem_eraseDups.mp listed)
    obtain ⟨file, inContents, rfl⟩ := List.mem_map.mp inPaths
    obtain ⟨names, own⟩ := inner file inContents
    have isDirectory := (own.isName_of_directoryOf? found).1
    refine (@liesBelow_of_names _ _ [directory] ?_).1
    rw [Path.components_append_slash (by simp [isRoot.nonempty]),
      Path.components_append isRoot.nonempty, isRoot.components_eq, isDirectory.steps_eq]
    rfl
  have files : (contents.map fun file =>
      ArchiveMember.mk (root ++ "/" ++ file.1) (.file file.2)).filterMap fileOf? = contents := by
    rw [List.filterMap_map]
    refine (List.filterMap_congr fun file member => ?_).trans List.filterMap_some
    obtain ⟨names, own⟩ := inner file member
    obtain ⟨first, others, rfl⟩ := List.exists_cons_of_ne_nil own.ne_nil
    simp [fileOf?, (liesBelow_append isRoot own).2, own.join_eq]
  refine ofMembers_eq_ok.mpr ⟨⟨?_, ?_⟩, ?_⟩
  · simp only [PackagePlan.members, List.forall_mem_append, List.forall_mem_cons,
      List.forall_mem_map]
    refine ⟨⟨top.1, directories⟩, fun file member => ?_⟩
    obtain ⟨names, own⟩ := inner file member
    exact (liesBelow_append isRoot own).1
  · exact ⟨⟨root ++ "/", .directory⟩, by simp [PackagePlan.members], by simp [top.2]⟩
  · have empty (front : List ArchiveMember)
        (directory : ∀ member ∈ front, member.kind = .directory) :
        front.filterMap fileOf? = [] :=
      List.filterMap_eq_nil_iff.mpr fun member isMember => by
        simp [fileOf?, directory member isMember]
    rw [PackagePlan.members, List.filterMap_append, files,
      empty _ (List.forall_mem_cons.mpr ⟨rfl, List.forall_mem_map.mpr fun _ _ => rfl⟩),
      List.nil_append]

/-- Members below a dot have several roots. -/
theorem ofMembers_dot {contents : List (String × List UInt8)} {first second : String}
    (apart : first ≠ second) (isFirst : Path.IsName first) (isSecond : Path.IsName second)
    (firstThere : first ∈ contents.map Prod.fst) (secondThere : second ∈ contents.map Prod.fst)
    (read : PackageContents) : ofMembers (PackagePlan.members "." contents) ≠ .ok read := by
  intro accepted
  have one := (ofMembers_eq_ok.mp accepted).1
  have root {name : String} (isName : Path.IsName name) (there : name ∈ contents.map Prod.fst) :
      name = read.root := by
    obtain ⟨⟨path, bytes⟩, member, rfl⟩ := List.mem_map.mp there
    have found : namesOn ("." ++ "/" ++ path) = [path] := by
      rw [namesOn, Path.components_append (by decide), isName.steps_eq]
      rfl
    refine (one.lie ⟨"." ++ "/" ++ path, .file bytes⟩ ?_).below path (by rw [found]; rfl)
    exact List.mem_append_right _ (List.mem_map.mpr ⟨(path, bytes), member, rfl⟩)
  exact apart ((root isFirst firstThere).trans (root isSecond secondThere).symm)

end PackageContents

end NfvCatalog
