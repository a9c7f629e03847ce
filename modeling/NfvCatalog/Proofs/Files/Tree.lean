import NfvCatalog.Files.Tree
import NfvCatalog.Proofs.Files.Path
import NfvCatalog.Proofs.Outcome
import NfvCatalog.Proofs.Text.Utf8

/-! # Writing into trees

What was written is read again at its path. Writing a file changes no other place, and making
directories none where something stands; so every path to what stands elsewhere still leads there.
-/

namespace NfvCatalog.FileTree

open NfvCatalog.Path (Component)

/-! ## Places -/

theorem entryAt?_root (tree : FileTree) : tree.entryAt? [] = some .directory := rfl

/-- Replacing what has a key replaces what is found under it. -/
private theorem find?_replaced (place other : Place) (entry : FileEntry)
    (entries : List (Place × FileEntry)) :
    ((entries.map fun old => if old.1 = place then (place, entry) else old).find?
      (·.1 = other)).map Prod.snd =
      if other = place then (entries.find? (·.1 = place)).map fun _ => entry
      else (entries.find? (·.1 = other)).map Prod.snd := by
  induction entries with
  | nil => simp
  | cons old rest ih =>
    rw [List.map_cons]
    by_cases own : old.1 = place
    · by_cases same : other = place
      · simp [own, same]
      · have apart : place ≠ other := fun equal => same equal.symm
        simpa [own, same, apart] using ih
    · by_cases same : other = place
      · subst same
        simpa [own] using ih
      · by_cases hit : old.1 = other
        · simp [hit, same]
        · simpa [own, same, hit] using ih

/-- An entry that is put at a place stands there, and nothing else changes. -/
theorem entryAt?_put (tree : FileTree) {place : Place} (inside : place ≠ []) (entry : FileEntry)
    (other : Place) :
    (tree.put place entry).entryAt? other =
      if other = place then some entry else tree.entryAt? other := by
  by_cases root : other = []
  · rw [root, entryAt?_root, entryAt?_root, if_neg (Ne.symm inside)]
  have look (tree : FileTree) :
      tree.entryAt? other = (tree.entries.find? (·.1 = other)).map Prod.snd := by
    rw [entryAt?, if_neg (by simpa using root)]
  rw [look, look, put]
  split
  · next there =>
    have found : (tree.entries.find? (·.1 = place)).isSome := by
      rw [List.find?_isSome]
      simpa using there
    obtain ⟨old, found⟩ := Option.isSome_iff_exists.mp found
    rw [find?_replaced, found, Option.map_some]
  · next absent =>
    have missed : tree.entries.find? (·.1 = place) = none :=
      List.find?_eq_none.mpr fun old member same => absent (List.any_eq_true.mpr ⟨old, member, same⟩)
    rw [List.find?_append]
    by_cases same : other = place
    · simp [same, missed]
    · have apart : place ≠ other := fun equal => same equal.symm
      simp [same, apart]

/-! ## Paths -/

/-- Where a component leads from a directory. -/
def enter? (place : Place) : Component → Option Place
  | .root => none
  | .current => some place
  | .parent => if place.isEmpty then none else some place.dropLast
  | .normal name => if longestName < name.utf8ByteSize then none else some (place ++ [name])

/-- A path is followed from one directory to the next. -/
theorem follow_cons_eq_ok {tree : FileTree} {start place : Place} {component : Component}
    {rest : List Component} :
    tree.follow start (component :: rest) = .ok place ↔
      tree.entryAt? start = some .directory ∧
        ∃ next, enter? start component = some next ∧ tree.follow next rest = .ok place := by
  rw [follow.eq_def]
  cases here : tree.entryAt? start with
  | none => simp [here]
  | some entry =>
    cases entry with
    | file => simp [here]
    | directory =>
      cases component with
      | root => simp [here, enter?]
      | current => simp [here, enter?]
      | parent =>
        by_cases root : start.isEmpty = true
        · simp [here, enter?, root]
        · simp [here, enter?, root]
      | normal name =>
        by_cases long : longestName < name.utf8ByteSize
        · simp [here, enter?, long]
        · simp [here, enter?, long]

theorem follow_append_eq_ok {tree : FileTree} {start place : Place} {front back : List Component} :
    tree.follow start (front ++ back) = .ok place ↔
      ∃ between, tree.follow start front = .ok between ∧
        tree.follow between back = .ok place := by
  induction front generalizing start with
  | nil => simp [follow]
  | cons component rest ih =>
    simp only [List.cons_append, follow_cons_eq_ok, ih]
    constructor
    · rintro ⟨directory, next, entered, between, led, ahead⟩
      exact ⟨between, ⟨directory, next, entered, led⟩, ahead⟩
    · rintro ⟨between, ⟨directory, next, entered, led⟩, ahead⟩
      exact ⟨directory, next, entered, between, led, ahead⟩

/-- A path that can be followed at all. -/
structure Passable (path : String) : Prop where
  plain : '\x00' ∉ path.toList
  nonempty : path ≠ ""
  short : ¬ longestPath < path.utf8ByteSize

theorem locate_eq_ok {tree : FileTree} {path : String} {place : Place} :
    tree.locate path = .ok place ↔
      Passable path ∧ tree.follow [] (Path.components path) = .ok place ∧
        (tree.entryAt? place ≠ some .directory → endsInDot path = false) ∧
        ((∃ content executable, tree.entryAt? place = some (.file content executable)) →
          endsInSlash path = false) := by
  rw [locate]
  by_cases nul : '\x00' ∈ path.toList
  · rw [if_pos (by simpa using nul)]
    exact ⟨nofun, fun ⟨passable, _⟩ => absurd nul passable.plain⟩
  rw [if_neg (by simpa using nul)]
  by_cases empty : path = ""
  · rw [if_pos (by simpa using empty)]
    exact ⟨nofun, fun ⟨passable, _⟩ => absurd empty passable.nonempty⟩
  rw [if_neg (by simpa using empty)]
  by_cases long : longestPath < path.utf8ByteSize
  · rw [if_pos long]
    exact ⟨nofun, fun ⟨passable, _⟩ => absurd long passable.short⟩
  rw [if_neg long]
  have passable : Passable path := ⟨nul, empty, long⟩
  cases led : tree.follow [] (Path.components path) with
  | error error => simp
  | ok reached =>
    simp only [passable, true_and, Except.ok.injEq]
    cases there : tree.entryAt? reached with
    | none =>
      cases dot : endsInDot path with
      | true =>
        simp only [if_true, reduceCtorEq, false_iff]
        rintro ⟨rfl, undotted, -⟩
        simp [there] at undotted
      | false =>
        simp only [Bool.false_eq_true, if_false, Except.ok.injEq]
        refine ⟨?_, And.left⟩
        rintro rfl
        simp [there]
    | some entry =>
      cases entry with
      | directory =>
        simp only [Except.ok.injEq]
        refine ⟨?_, And.left⟩
        rintro rfl
        simp [there]
      | file content executable =>
        cases ends : endsInSlash path || endsInDot path with
        | true =>
          simp only [if_true, reduceCtorEq, false_iff]
          rintro ⟨rfl, undotted, unslashed⟩
          have undotted := undotted (by simp [there])
          have unslashed := unslashed ⟨content, executable, there⟩
          simp [undotted, unslashed] at ends
        | false =>
          rw [Bool.or_eq_false_iff] at ends
          simp only [Bool.false_eq_true, if_false, Except.ok.injEq]
          refine ⟨?_, And.left⟩
          rintro rfl
          exact ⟨rfl, fun _ => ends.2, fun _ => ends.1⟩

/-- What stands at a path stands at its place. -/
theorem at?_eq_ok {tree : FileTree} {path : String} {entry : FileEntry} :
    tree.at? path = .ok entry ↔
      ∃ place, tree.locate path = .ok place ∧ tree.entryAt? place = some entry := by
  rw [at?]
  cases located : tree.locate path with
  | error error => simp
  | ok place =>
    cases there : tree.entryAt? place with
    | none => simp [there]
    | some found => simp [there]

/-! ## What stays -/

/-- What stands in a tree still stands in another, apart from some places; directories stay in any
case. -/
structure Keeps (before after : FileTree) (apart : Place → Prop) : Prop where
  directories : ∀ place, before.entryAt? place = some .directory →
    after.entryAt? place = some .directory
  entries : ∀ place, ¬ apart place → ∀ entry, before.entryAt? place = some entry →
    after.entryAt? place = some entry

namespace Keeps

variable {before after : FileTree} {apart : Place → Prop}

theorem refl (tree : FileTree) (apart : Place → Prop) : tree.Keeps tree apart :=
  ⟨fun _ there => there, fun _ _ _ there => there⟩

theorem trans {between : FileTree} (first : before.Keeps between apart)
    (second : between.Keeps after apart) : before.Keeps after apart where
  directories place there := second.directories place (first.directories place there)
  entries place kept entry there :=
    second.entries place kept entry (first.entries place kept entry there)

/-- A place that holds no directory may get an entry. -/
theorem put {place : Place} (inside : place ≠ [])
    (file : before.entryAt? place ≠ some .directory) (entry : FileEntry) :
    before.Keeps (before.put place entry) (· = place) where
  directories other there := by
    have kept : other ≠ place := by
      rintro rfl
      exact file there
    rw [entryAt?_put before inside, if_neg kept]
    exact there
  entries other kept old there := by
    rw [entryAt?_put before inside, if_neg kept]
    exact there

variable (keeps : before.Keeps after apart)
include keeps

/-- A path leads to the same place as before. -/
theorem follow {start place : Place} {path : List Component}
    (led : before.follow start path = .ok place) : after.follow start path = .ok place := by
  induction path generalizing start with
  | nil => exact led
  | cons component rest ih =>
    obtain ⟨directory, next, entered, led⟩ := follow_cons_eq_ok.mp led
    exact follow_cons_eq_ok.mpr ⟨keeps.directories start directory, next, entered, ih led⟩

/-- What stands at a path stays there, unless its place is among those that change. -/
theorem at? {path : String} {place : Place} {entry : FileEntry}
    (located : before.locate path = .ok place) (there : before.entryAt? place = some entry)
    (kept : ¬ apart place) :
    after.locate path = .ok place ∧ after.at? path = .ok entry := by
  have still := keeps.entries place kept entry there
  obtain ⟨passable, led, undotted, unslashed⟩ := locate_eq_ok.mp located
  have again : after.locate path = .ok place := by
    refine locate_eq_ok.mpr ⟨passable, keeps.follow led, fun file => undotted ?_, fun file => ?_⟩
    · rw [there]
      rwa [still] at file
    · rw [still] at file
      rw [there] at unslashed
      exact unslashed file
  exact ⟨again, at?_eq_ok.mpr ⟨place, again, still⟩⟩

end Keeps

/-! ## Writing -/

/-- A file is written where no directory stands. -/
private theorem writeAt_ok {tree after : FileTree} {place : Place} {content : FileContent}
    (written : tree.writeAt place content = .ok after) :
    tree.entryAt? place ≠ some .directory ∧
      ∃ executable, after = tree.put place (.file content executable) := by
  rw [writeAt] at written
  split at written
  · cases written
  · next there =>
    obtain rfl := Except.ok.inj written
    exact ⟨by simp [there], _, rfl⟩
  · next absent =>
    split at written
    · obtain rfl := Except.ok.inj written
      exact ⟨by simp [absent], _, rfl⟩
    · cases written
    · cases written

/-- A file that was written stands at the place of its path; nothing else has changed. -/
theorem write_ok {tree after : FileTree} {path : String} {content : FileContent}
    (written : tree.write path content = .ok after) :
    ∃ place executable, tree.locate path = .ok place ∧ tree.Keeps after (· = place) ∧
      after.locate path = .ok place ∧
        after.entryAt? place = some (.file content executable) := by
  rw [write] at written
  split at written
  · cases written
  · cases written
  · next place located =>
    split at written
    · cases written
    · next unslashed =>
      obtain ⟨file, executable, rfl⟩ := writeAt_ok written
      have inside : place ≠ [] := by
        rintro rfl
        exact file (entryAt?_root tree)
      have keeps := Keeps.put inside file (.file content executable)
      obtain ⟨passable, led, undotted, -⟩ := locate_eq_ok.mp located
      refine ⟨place, executable, located, keeps, ?_, ?_⟩
      · exact locate_eq_ok.mpr ⟨passable, keeps.follow led, fun _ => undotted file,
          fun _ => by simpa using unslashed⟩
      · rw [entryAt?_put tree inside, if_pos rfl]

theorem read_eq_ok {tree : FileTree} {path : String} {content : FileContent} :
    tree.read path = .ok content ↔
      ∃ executable, tree.at? path = .ok (.file content executable) := by
  rw [read]
  rcases tree.at? path with error | (_ | ⟨found, executable⟩)
  · simp
  · simp
  · simp

/-- A file is there if it can be read. -/
theorem isFile_iff {tree : FileTree} {path : String} :
    tree.isFile path = true ↔ ∃ content, tree.read path = .ok content := by
  rw [isFile, read]
  rcases tree.at? path with error | (_ | ⟨found, executable⟩)
  · simp
  · simp
  · simp

theorem passable_of_read {tree : FileTree} {path : String} {content : FileContent}
    (held : tree.read path = .ok content) : Passable path := by
  obtain ⟨executable, stands⟩ := read_eq_ok.mp held
  obtain ⟨place, located, -⟩ := at?_eq_ok.mp stands
  exact (locate_eq_ok.mp located).1

/-- What was written is read. -/
theorem read_of_write {tree after : FileTree} {path : String} {content : FileContent}
    (written : tree.write path content = .ok after) : after.read path = .ok content := by
  obtain ⟨place, executable, -, -, located, there⟩ := write_ok written
  exact read_eq_ok.mpr ⟨executable, at?_eq_ok.mpr ⟨place, located, there⟩⟩

/-- The place of a name in a directory is the name in the place of the directory. -/
theorem locate_join {tree : FileTree} {directory name : String} {place : Place}
    (isName : Path.IsName name) (located : tree.locate (Path.join directory name) = .ok place) :
    ∃ above, tree.follow [] (Path.components directory) = .ok above ∧ place = above ++ [name] := by
  obtain ⟨-, led, -, -⟩ := locate_eq_ok.mp located
  rw [Path.components_join isName] at led
  obtain ⟨above, ledAbove, last⟩ := follow_append_eq_ok.mp led
  obtain ⟨-, next, entered, reached⟩ := follow_cons_eq_ok.mp last
  obtain rfl : next = place := by simpa [follow] using reached
  rw [enter?] at entered
  split at entered
  · cases entered
  · exact ⟨above, ledAbove, (Option.some.inj entered).symm⟩

/-- Files of other names in a directory stay as they are when a file is written there. -/
theorem read_join_of_write {tree after : FileTree} {directory name other : String}
    {content old : FileContent} (isName : Path.IsName name) (isOther : Path.IsName other)
    (apart : other ≠ name) (held : tree.read (Path.join directory other) = .ok old)
    (written : tree.write (Path.join directory name) content = .ok after) :
    after.read (Path.join directory other) = .ok old := by
  obtain ⟨executable, stands⟩ := read_eq_ok.mp held
  obtain ⟨place, located, there⟩ := at?_eq_ok.mp stands
  obtain ⟨changed, -, locatedChanged, keeps, -, -⟩ := write_ok written
  have elsewhere : place ≠ changed := by
    obtain ⟨above, led, rfl⟩ := locate_join isOther located
    obtain ⟨above', led', rfl⟩ := locate_join isName locatedChanged
    obtain rfl : above = above' := Except.ok.inj (led.symm.trans led')
    simpa using apart
  exact read_eq_ok.mpr ⟨executable, (keeps.at? located there elsewhere).2⟩

/-! ## Making directories -/

theorem keeps_of_makeDirectory {tree after : FileTree} {path : List Component}
    (made : tree.makeDirectory path = .ok after) : tree.Keeps after fun _ => False := by
  rw [makeDirectory] at made
  split at made
  · cases made
  · next place _ =>
    split at made
    · cases made
    · next absent =>
      obtain rfl := Except.ok.inj made
      have absent : tree.entryAt? place = none := by simpa using absent
      have inside : place ≠ [] := by
        rintro rfl
        rw [entryAt?_root] at absent
        cases absent
      have free : tree.entryAt? place ≠ some .directory := by simp [absent]
      have keeps := Keeps.put inside free .directory
      refine ⟨keeps.directories, fun other _ entry there => keeps.entries other ?_ entry there⟩
      rintro rfl
      rw [absent] at there
      cases there

theorem keeps_of_ensureDirectory {tree after : FileTree} {path : List Component}
    (made : tree.ensureDirectory path = .ok after) : tree.Keeps after fun _ => False := by
  rw [ensureDirectory] at made
  split at made
  · next new =>
    obtain rfl := Except.ok.inj made
    exact keeps_of_makeDirectory new
  · split at made
    · split at made
      · obtain rfl := Except.ok.inj made
        exact .refl tree _
      · cases made
    · cases made

theorem keeps_of_makeAll {tree after : FileTree} {path : List Component}
    (made : tree.makeAll path = .ok after) : tree.Keeps after fun _ => False := by
  induction path generalizing after with
  | nil =>
    obtain rfl := Except.ok.inj made
    exact .refl tree _
  | cons last above ih =>
    rw [makeAll] at made
    split at made
    · obtain ⟨between, madeAbove, madeLast⟩ := bind_eq_ok.mp made
      exact (ih madeAbove).trans (keeps_of_ensureDirectory madeLast)
    · exact keeps_of_ensureDirectory made

/-- Making directories changes nothing that is there. -/
theorem keeps_of_makeDirectories {tree after : FileTree} {path : String}
    (made : tree.makeDirectories path = .ok after) : tree.Keeps after fun _ => False := by
  rw [makeDirectories] at made
  split at made
  · cases made
  split at made
  · obtain rfl := Except.ok.inj made
    exact .refl tree _
  split at made
  · cases made
  split at made
  · obtain ⟨_, -, rfl⟩ := map_eq_ok.mp made
    exact .refl tree _
  · exact keeps_of_makeAll made

/-- Files stay as they are when directories are made. -/
theorem read_of_makeDirectories {tree after : FileTree} {directory path : String}
    {content : FileContent} (held : tree.read path = .ok content)
    (made : tree.makeDirectories directory = .ok after) : after.read path = .ok content := by
  obtain ⟨executable, stands⟩ := read_eq_ok.mp held
  obtain ⟨place, located, there⟩ := at?_eq_ok.mp stands
  exact read_eq_ok.mpr
    ⟨executable, ((keeps_of_makeDirectories made).at? located there not_false).2⟩

end NfvCatalog.FileTree
