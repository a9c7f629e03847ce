import NfvCatalog.Files.Path
import NfvCatalog.Proofs.Text.Blank

/-! # Components of composed paths

A path that goes on with a name has the name as its last component. Names of files are those that
stand for a component of their own.
-/

namespace NfvCatalog.Path

/-- A text that is one component of a path, and names something. -/
structure IsName (name : String) : Prop where
  nonempty : name ≠ ""
  notCurrent : name ≠ "."
  notParent : name ≠ ".."
  whole : '/' ∉ name.toList

/-- The components that the pieces of a path stand for, wherever it is continued from. -/
def steps (path : String) : List Component := (Text.split '/' path).filterMap piece?

/-- The component that a path begins with apart from its pieces. -/
def lead (path : String) : List Component :=
  if isAbsolute path then [.root]
  else if (Text.split '/' path).head? = some "." then [.current] else []

theorem components_eq (path : String) : components path = lead path ++ steps path := by
  rw [components, lead, isAbsolute]
  split
  · next tail chars => simp [chars, steps]
  · next other =>
    have relative : ¬ path.toList.head? = some '/' := by
      cases chars : path.toList with
      | nil => simp
      | cons c rest =>
        rintro ⟨⟩
        exact other rest chars
    rw [decide_eq_false relative]
    split
    · rfl
    · rfl

/-! ## Names -/

theorem IsName.piece?_eq {name : String} (isName : IsName name) :
    piece? name = some (.normal name) := by
  rw [piece?, if_neg (by simp [isName.nonempty, isName.notCurrent]), if_neg isName.notParent]

theorem IsName.steps_eq {name : String} (isName : IsName name) : steps name = [.normal name] := by
  rw [steps, Text.split_of_not_mem '/' isName.whole]
  simp [isName.piece?_eq]

theorem IsName.isAbsolute_eq {name : String} (isName : IsName name) : isAbsolute name = false := by
  rw [isAbsolute, decide_eq_false]
  intro slash
  exact isName.whole (List.mem_of_head? slash)

/-- A name is the path with itself for its only component. -/
theorem IsName.components_eq {name : String} (isName : IsName name) :
    components name = [.normal name] := by
  rw [Path.components_eq, isName.steps_eq, lead, isName.isAbsolute_eq,
    Text.split_of_not_mem '/' isName.whole]
  simp [isName.notCurrent]

theorem isName_of_mem_steps {path name : String} (member : .normal name ∈ steps path) :
    IsName name ∧ name.toList ⊆ path.toList := by
  obtain ⟨piece, inPieces, named⟩ := List.mem_filterMap.mp member
  rw [piece?] at named
  split at named
  · cases named
  · next set =>
    split at named
    · cases named
    · next notParent =>
      obtain rfl : piece = name := by simpa using named
      rw [not_or] at set
      exact ⟨⟨set.1, set.2, notParent, Text.not_mem_of_mem_split '/' inPieces⟩,
        Text.subset_of_mem_split '/' inPieces⟩

/-- The names on a path are names, and parts of it. -/
theorem isName_of_mem_components {path name : String}
    (member : .normal name ∈ components path) : IsName name ∧ name.toList ⊆ path.toList := by
  rw [components_eq] at member
  refine isName_of_mem_steps ((List.mem_append.mp member).resolve_left fun leading => ?_)
  rw [lead] at leading
  split at leading
  · simp at leading
  · split at leading <;> simp at leading

theorem isName_of_fileName? {path name : String} (found : fileName? path = some name) :
    IsName name ∧ name.toList ⊆ path.toList := by
  rw [fileName?] at found
  split at found
  · next last =>
    obtain rfl := Option.some.inj found
    exact isName_of_mem_components (List.mem_of_getLast? last)
  · cases found

/-! ## Continued paths -/

private theorem split_append (front back : String) :
    Text.split '/' (front ++ "/" ++ back) = Text.split '/' front ++ Text.split '/' back := by
  rw [Text.split, String.toList_append, String.toList_append, List.append_assoc]
  exact (congrArg _ (Text.splitChars_append '/' _ _)).trans List.map_append

theorem steps_append (front back : String) :
    steps (front ++ "/" ++ back) = steps front ++ steps back := by
  rw [steps, split_append, List.filterMap_append]
  rfl

private theorem lead_append {front back tail : String} (nonempty : tail ≠ "")
    (same : tail = front ∨ tail = front ++ "/") :
    lead (front ++ "/" ++ back) = lead tail := by
  have pieces : (Text.split '/' (front ++ "/" ++ back)).head? = (Text.split '/' tail).head? := by
    rw [split_append, List.head?_append_of_ne_nil _ (Text.split_ne_nil '/' front)]
    rcases same with rfl | rfl
    · rfl
    · rw [← String.append_empty (s := front ++ "/"), split_append,
        List.head?_append_of_ne_nil _ (Text.split_ne_nil '/' front)]
  have chars : (front ++ "/" ++ back).toList.head? = tail.toList.head? := by
    have nonempty : tail.toList ≠ [] := fun none => nonempty (String.toList_eq_nil_iff.mp none)
    rcases same with rfl | rfl
    · rw [String.append_assoc, String.toList_append, List.head?_append_of_ne_nil _ nonempty]
    · rw [String.toList_append, List.head?_append_of_ne_nil _ nonempty]
  rw [lead, lead, isAbsolute, isAbsolute, pieces, chars]

/-- What is continued keeps its components. -/
theorem components_append {front : String} (nonempty : front ≠ "") (back : String) :
    components (front ++ "/" ++ back) = components front ++ steps back := by
  rw [components_eq, components_eq, lead_append nonempty (.inl rfl), steps_append,
    List.append_assoc]

theorem steps_append_slash (front : String) : steps (front ++ "/") = steps front := by
  have same := steps_append front ""
  rwa [String.append_empty, show steps "" = [] from rfl, List.append_nil] at same

/-- A slash at the end of a path says nothing. -/
theorem components_append_slash {front : String} (nonempty : front ≠ "") :
    components (front ++ "/") = components front := by
  have same := components_append nonempty ""
  rwa [String.append_empty, show steps "" = [] from rfl, List.append_nil] at same

private theorem exists_append_slash {path : String} (slash : path.toList.getLast? = some '/') :
    ∃ front, path = front ++ "/" := by
  obtain ⟨front, chars⟩ := List.getLast?_eq_some_iff.mp slash
  refine ⟨String.ofList front, ?_⟩
  rw [← String.toList_inj, String.toList_append, String.toList_ofList]
  exact chars

/-- A name continues a path by one component. -/
theorem components_join {base name : String} (isName : IsName name) :
    components (join base name) = components base ++ [.normal name] := by
  rw [join, isName.isAbsolute_eq, if_neg Bool.false_ne_true]
  split
  · next empty =>
    rw [String.isEmpty_iff.mp empty, isName.components_eq]
    rfl
  · next nonempty =>
    have nonempty : base ≠ "" := fun empty => nonempty (String.isEmpty_iff.mpr empty)
    split
    · next slash =>
      obtain ⟨front, rfl⟩ := exists_append_slash slash
      rw [components_eq, components_eq, lead_append nonempty (.inr rfl), steps_append,
        steps_append_slash, isName.steps_eq, List.append_assoc]
    · rw [components_append nonempty, isName.steps_eq]

@[simp] theorem fileName?_join {base name : String} (isName : IsName name) :
    fileName? (join base name) = some name := by
  rw [fileName?, components_join isName, List.getLast?_concat]

@[simp] theorem fileName?_name {name : String} (isName : IsName name) :
    fileName? name = some name := by
  rw [fileName?, isName.components_eq, List.getLast?_singleton]

/-- The name behind the last slash of a path is the one that it ends in. -/
theorem fileName?_append {name : String} (isName : IsName name) (base : String) :
    fileName? (base ++ "/" ++ name) = some name := by
  rw [fileName?, components_eq, steps_append, isName.steps_eq, ← List.append_assoc,
    List.getLast?_concat]

/-- A path is a name, or ends in a name behind its last slash. -/
private theorem eq_or_append_slash (path : String) :
    '/' ∉ path.toList ∨ ∃ base stem, path = base ++ "/" ++ stem ∧ '/' ∉ stem.toList := by
  by_cases slash : '/' ∈ path.toList
  · obtain ⟨stem, base, chars, free⟩ := List.eq_append_cons_of_mem (List.mem_reverse.mpr slash)
    refine .inr ⟨String.ofList base.reverse, String.ofList stem.reverse, ?_, by simpa using free⟩
    rw [← String.toList_inj, ← List.reverse_reverse path.toList, chars]
    simp
  · exact .inl slash

/-! ## Extensions -/

/-- A name is cut at its last dot, unless nothing stands before that. -/
theorem cutExtension_append {front extension : String} (nonempty : front ≠ "")
    (plain : '.' ∉ extension.toList) :
    cutExtension (front ++ "." ++ extension) = (front, some extension) := by
  have chars : (front ++ "." ++ extension).toList =
      front.toList ++ '.' :: extension.toList := by
    rw [String.toList_append, String.toList_append, List.append_assoc]
    rfl
  have tail := Text.takeWhile_reverse_append '.' front.toList plain
  have head := Text.take_append_cons '.' front.toList extension.toList
  have long : ¬ (front.toList ++ ['.']).length ≤ 1 := by
    have some : front.toList.length ≠ 0 := by simpa using nonempty
    rw [List.length_append, List.length_singleton]
    omega
  simp only [cutExtension, chars, tail, List.length_reverse, head]
  rw [if_neg long, List.dropLast_concat, String.ofList_toList, List.reverse_reverse,
    String.ofList_toList]

theorem cutExtension_dot {extension : String} (undotted : '.' ∉ extension.toList) :
    (cutExtension ("." ++ extension)).2 = none := by
  have chars : ("." ++ extension).toList = [] ++ '.' :: extension.toList := by simp
  have tail := Text.takeWhile_reverse_append '.' [] undotted
  have head := Text.take_append_cons '.' [] extension.toList
  simp only [cutExtension, chars, tail, List.length_reverse, head]
  rfl

/-- What a path ends in behind a dot is its extension, unless nothing stands before the dot. -/
theorem extension?_append (front : String) {extension : String} (nonempty : extension ≠ "")
    (undotted : '.' ∉ extension.toList) (whole : '/' ∉ extension.toList) :
    extension? (front ++ "." ++ extension) = none ∨
      extension? (front ++ "." ++ extension) = some extension := by
  have isName (stem : String) (free : '/' ∉ stem.toList) : IsName (stem ++ "." ++ extension) := by
    obtain ⟨c, visible⟩ := List.exists_mem_of_ne_nil extension.toList (by simpa using nonempty)
    have inside : c ∈ (stem ++ "." ++ extension).toList := by simp [visible]
    have other : c ≠ '.' := fun same => undotted (same ▸ visible)
    refine ⟨?_, ?_, ?_, by simp [free, whole]⟩
    all_goals
      intro same
      rw [same] at inside
      simp [other] at inside
  have cut (path stem : String) (found : fileName? path = some (stem ++ "." ++ extension)) :
      extension? path = none ∨ extension? path = some extension := by
    rw [extension?, found]
    by_cases empty : stem = ""
    · subst empty
      rw [String.empty_append]
      exact .inl (cutExtension_dot undotted)
    · exact .inr (congrArg Prod.snd (cutExtension_append empty undotted))
  obtain free | ⟨base, stem, rfl, free⟩ := eq_or_append_slash front
  · exact cut _ front (fileName?_name (isName front free))
  · refine cut _ stem ?_
    rw [show base ++ "/" ++ stem ++ "." ++ extension = base ++ "/" ++ (stem ++ "." ++ extension) by
      simp only [String.append_assoc]]
    exact fileName?_append (isName stem free) base

end NfvCatalog.Path
