import Mathlib.Data.List.Lex
import Mathlib.Data.Prod.Lex
import Mathlib.Data.String.Basic
import NfvCatalog.Lint.Report
import NfvCatalog.Proofs.Lists.Basic
import NfvCatalog.Proofs.Lists.Ranked
import NfvCatalog.Proofs.Text.Blank

/-! # Findings

Each line of a text is reported for what is wrong with it and for nothing else, every fault once, and
so is a last line that is not ended. Line ends with carriage returns are reported no differently.

Findings are sorted by path, line, column and code, and every finding in a file has its path. So the
findings of different files are told apart by what they are sorted by, and a report is the same in
whatever order the files are checked, if the findings of each file are.
-/

namespace NfvCatalog.Lint

open Text (LineAt)

/-- What is to be reported about a text. -/
inductive Reported (most : Nat) (text : List Char) : TextFinding → Prop
  /-- The spaces and tabs at the start of a line have a tab among them. -/
  | tab {number : Nat} {line : List Char} (isLine : LineAt text number line)
      (indented : '\t' ∈ line.takeWhile isTabOrSpace) :
      Reported most text ⟨number, 1, "W191", .warning, "indentation contains tabs"⟩
  /-- A line ends in a space or a tab. -/
  | trailing {number : Nat} {line : List Char} (isLine : LineAt text number line)
      (ends : line.getLast? = some ' ' ∨ line.getLast? = some '\t') :
      Reported most text
        ⟨number, (line.rdropWhile isTabOrSpace).length + 1, "W291", .warning, "trailing whitespace"⟩
  /-- A line has more characters than allowed. -/
  | long {number : Nat} {line : List Char} (isLine : LineAt text number line)
      (exceeds : most < line.length) :
      Reported most text ⟨number, most + 1, "E501", .error, "line too long (" ++
        toString line.length ++ " > " ++ toString most ++ " characters)"⟩
  /-- The text has characters, and the last one is no line feed. -/
  | unended (nonempty : text ≠ []) (unended : text.getLast? ≠ some '\n') :
      Reported most text ⟨text.count '\n' + 1, (text.rtakeWhile (· ≠ '\n')).length + 1, "W292",
        .warning, "no newline at end of file"⟩

/-- A finding in a text as one in a file. -/
def TextFinding.inFile (path : String) (finding : TextFinding) : Diagnostic where
  path
  line := finding.line
  column := some finding.column
  code := finding.code
  severity := finding.severity
  message := finding.message

theorem checkText_eq (path text : String) (most : Nat) :
    checkText path text most = (textFindings most text.toList).map (TextFinding.inFile path) := rfl

/-! ## Single lines -/

variable {most number : Nat} {line text : List Char} {finding : TextFinding}

theorem mem_tabFindings : finding ∈ tabFindings number line ↔
    '\t' ∈ line.takeWhile isTabOrSpace ∧
      finding = ⟨number, 1, "W191", .warning, "indentation contains tabs"⟩ := by
  simp only [tabFindings, List.contains_iff_mem]
  split <;> simp [*]

theorem withoutTrailing_eq (line : List Char) :
    withoutTrailing line = line.rdropWhile isTabOrSpace := rfl

/-- Something is dropped from the end of a line exactly if a space or a tab is there. -/
theorem length_withoutTrailing_ne : (withoutTrailing line).length ≠ line.length ↔
    line.getLast? = some ' ' ∨ line.getLast? = some '\t' := by
  have kept : (withoutTrailing line).length = line.length ↔ line.rdropWhile isTabOrSpace = line :=
    ⟨(List.rdropWhile_prefix isTabOrSpace line).eq_of_length, congrArg List.length⟩
  rw [ne_eq, kept, List.rdropWhile_eq_self_iff]
  rcases List.eq_nil_or_concat' line with rfl | ⟨front, c, rfl⟩
  · simp
  · simp only [List.getLast_concat, List.getLast?_concat, isTabOrSpace, Option.some.injEq]
    simpa using or_iff_not_imp_left.symm

theorem mem_trailingFindings : finding ∈ trailingFindings number line ↔
    (line.getLast? = some ' ' ∨ line.getLast? = some '\t') ∧ finding =
      ⟨number, (line.rdropWhile isTabOrSpace).length + 1, "W291", .warning,
        "trailing whitespace"⟩ := by
  rw [trailingFindings, ← length_withoutTrailing_ne, ← withoutTrailing_eq]
  split <;> simp [*]

theorem mem_lengthFindings : finding ∈ lengthFindings most number line ↔
    most < line.length ∧ finding = ⟨number, most + 1, "E501", .error, "line too long (" ++
      toString line.length ++ " > " ++ toString most ++ " characters)"⟩ := by
  rw [lengthFindings]
  split <;> simp [*]

/-- A line without carriage returns is checked as it is. -/
theorem mem_lineFindings (plain : '\r' ∉ line) : finding ∈ lineFindings most number line ↔
    finding ∈ tabFindings number line ∨ finding ∈ trailingFindings number line ∨
      finding ∈ lengthFindings most number line := by
  rw [lineFindings, Text.dropReturn_of_not_mem plain, List.mem_append, List.mem_append, or_assoc]

/-- Findings of a line have its number, and no two have the same code. -/
theorem nodup_lineFindings (most number : Nat) (line : List Char) :
    ((lineFindings most number line).map fun finding => (finding.line, finding.code)).Nodup := by
  rw [lineFindings, tabFindings, trailingFindings, lengthFindings]
  split <;> split <;> split <;> simp

/-! ## All lines -/

theorem mem_linesFindings {start : Nat} {lines : List (List Char)} :
    finding ∈ linesFindings most start lines ↔
      ∃ place line, lines[place]? = some line ∧ finding ∈ lineFindings most (start + place) line := by
  induction lines generalizing start with
  | nil => simp [linesFindings]
  | cons first rest ih =>
    rw [linesFindings, List.mem_append, ih]
    constructor
    · rintro (own | ⟨place, line, found, later⟩)
      · exact ⟨0, first, rfl, own⟩
      · exact ⟨place + 1, line, found, by rwa [Nat.add_right_comm] at later⟩
    · rintro ⟨place, line, found, reported⟩
      cases place with
      | zero =>
        obtain rfl : first = line := by simpa using found
        exact .inl reported
      | succ place =>
        exact .inr ⟨place, line, by simpa using found, by rwa [Nat.add_right_comm]⟩

theorem line_of_mem_lineFindings (found : finding ∈ lineFindings most number line) :
    finding.line = number ∧ finding.code ≠ "W292" := by
  rw [lineFindings, List.mem_append, List.mem_append, mem_tabFindings, mem_trailingFindings,
    mem_lengthFindings] at found
  rcases found with (⟨-, rfl⟩ | ⟨-, rfl⟩) | ⟨-, rfl⟩
  all_goals exact ⟨rfl, by simp⟩

theorem nodup_linesFindings (most start : Nat) (lines : List (List Char)) :
    ((linesFindings most start lines).map fun finding => (finding.line, finding.code)).Nodup := by
  induction lines generalizing start with
  | nil => exact List.nodup_nil
  | cons first rest ih =>
    rw [linesFindings, List.map_append, List.nodup_append]
    refine ⟨nodup_lineFindings most start first, ih (start + 1), ?_⟩
    intro key own key' others same
    obtain ⟨one, isOwn, rfl⟩ := List.mem_map.mp own
    obtain ⟨other, isOther, rfl⟩ := List.mem_map.mp others
    obtain ⟨place, line, -, later⟩ := mem_linesFindings.mp isOther
    have number := (line_of_mem_lineFindings isOwn).1
    have numberToo := (line_of_mem_lineFindings later).1
    have equal : one.line = other.line := congrArg Prod.fst same
    omega

theorem mem_endFindings : finding ∈ endFindings text ↔ (text ≠ [] ∧ text.getLast? ≠ some '\n') ∧
    finding = ⟨text.count '\n' + 1, (text.rtakeWhile (· ≠ '\n')).length + 1, "W292", .warning,
      "no newline at end of file"⟩ := by
  rw [endFindings]
  split
  · next ended =>
    refine iff_of_false List.not_mem_nil fun reported => ?_
    rcases ended with empty | feed
    · exact reported.1.1 (List.isEmpty_iff.mp empty)
    · exact reported.1.2 feed
  · next unended =>
    rw [not_or, List.isEmpty_iff] at unended
    obtain ⟨count, last⟩ := Text.linesOf_of_unended unended.1 unended.2
    rw [List.mem_singleton, count, last]
    exact (and_iff_right unended).symm

/-- The checks find what is to be reported. -/
theorem mem_textFindings (plain : '\r' ∉ text) :
    finding ∈ textFindings most text ↔ Reported most text finding := by
  have plainLine {number : Nat} {line : List Char} (isLine : LineAt text number line) :
      '\r' ∉ line := fun inside => plain (isLine.subset inside)
  -- The findings of lines, with their numbers.
  have lines (finding : TextFinding) : finding ∈ linesFindings most 1 (Text.linesOf text) ↔
      ∃ number line, LineAt text number line ∧ finding ∈ lineFindings most number line := by
    simp only [mem_linesFindings, Text.lineAt_iff plain, Nat.add_comm 1]
    constructor
    · rintro ⟨place, line, found, reported⟩
      exact ⟨place + 1, line, ⟨place, rfl, found⟩, reported⟩
    · rintro ⟨_, line, ⟨place, rfl, found⟩, reported⟩
      exact ⟨place, line, found, reported⟩
  rw [textFindings, List.mem_append, lines, mem_endFindings]
  constructor
  · rintro (⟨number, line, isLine, reported⟩ | ⟨⟨nonempty, unended⟩, rfl⟩)
    · rw [mem_lineFindings (plainLine isLine), mem_tabFindings, mem_trailingFindings,
        mem_lengthFindings] at reported
      rcases reported with ⟨indented, rfl⟩ | ⟨ends, rfl⟩ | ⟨exceeds, rfl⟩
      · exact .tab isLine indented
      · exact .trailing isLine ends
      · exact .long isLine exceeds
    · exact .unended nonempty unended
  · intro reported
    cases reported with
    | tab isLine indented =>
      exact .inl ⟨_, _, isLine, (mem_lineFindings (plainLine isLine)).mpr
        (.inl (mem_tabFindings.mpr ⟨indented, rfl⟩))⟩
    | trailing isLine ends =>
      exact .inl ⟨_, _, isLine, (mem_lineFindings (plainLine isLine)).mpr
        (.inr (.inl (mem_trailingFindings.mpr ⟨ends, rfl⟩)))⟩
    | long isLine exceeds =>
      exact .inl ⟨_, _, isLine, (mem_lineFindings (plainLine isLine)).mpr
        (.inr (.inr (mem_lengthFindings.mpr ⟨exceeds, rfl⟩)))⟩
    | unended nonempty unended => exact .inr ⟨⟨nonempty, unended⟩, rfl⟩

theorem nodup_textFindings (most : Nat) (text : List Char) :
    ((textFindings most text).map fun finding => (finding.line, finding.code)).Nodup := by
  rw [textFindings, List.map_append, List.nodup_append]
  refine ⟨nodup_linesFindings most 1 _, ?_, ?_⟩
  · rw [endFindings]
    split <;> simp
  · intro key lines key' last same
    obtain ⟨one, isOne, rfl⟩ := List.mem_map.mp lines
    obtain ⟨other, isOther, rfl⟩ := List.mem_map.mp last
    obtain ⟨place, line, -, found⟩ := mem_linesFindings.mp isOne
    obtain ⟨-, rfl⟩ := mem_endFindings.mp isOther
    exact (line_of_mem_lineFindings found).2 (congrArg Prod.snd same)

theorem textFindings_withReturns (plain : '\r' ∉ text) (most : Nat) :
    textFindings most (Text.withReturns text) = textFindings most text := by
  have empty : (Text.withReturns text).isEmpty = text.isEmpty := by
    rw [Bool.eq_iff_iff, List.isEmpty_iff, List.isEmpty_iff, ← List.getLast?_eq_none_iff,
      Text.getLast?_withReturns, List.getLast?_eq_none_iff]
  rw [textFindings, textFindings, endFindings, endFindings, Text.linesOf_withReturns plain,
    Text.getLast?_withReturns, empty]

/-- In a text without carriage returns exactly what is to be reported is found, with no code twice
on a line. With carriage returns before its line feeds the same is found at the same places. -/
theorem checkText_reports {text : String} (plain : '\r' ∉ text.toList) (path : String)
    (most : Nat) :
    (∀ d, d ∈ checkText path text most ↔
      ∃ finding, Reported most text.toList finding ∧ d = finding.inFile path) ∧
    ((checkText path text most).map fun d => (d.line, d.code)).Nodup ∧
    checkText path (String.ofList (Text.withReturns text.toList)) most =
      checkText path text most := by
  refine ⟨fun d => ?_, ?_, ?_⟩
  · rw [checkText_eq, List.mem_map]
    simp only [mem_textFindings plain, eq_comm]
  · rw [checkText_eq, List.map_map]
    exact nodup_textFindings most text.toList
  · rw [checkText_eq, checkText_eq, String.toList_ofList, textFindings_withReturns plain]

/-- A text with every fault, an empty line, and characters of several bytes. -/
def faultyText : String := " \tä \n\néüöñ1 \t\nß"

theorem faultyText_reported :
    checkText "a.py" (String.ofList (Text.withReturns faultyText.toList)) 4 =
      [⟨"a.py", 1, some 1, "W191", .warning, "indentation contains tabs"⟩,
        ⟨"a.py", 1, some 4, "W291", .warning, "trailing whitespace"⟩,
        ⟨"a.py", 3, some 6, "W291", .warning, "trailing whitespace"⟩,
        ⟨"a.py", 3, some 5, "E501", .error, "line too long (7 > 4 characters)"⟩,
        ⟨"a.py", 4, some 2, "W292", .warning, "no newline at end of file"⟩] := by
  have plain : '\r' ∉ faultyText.toList := by decide +kernel
  rw [(checkText_reports plain "a.py" 4).2.2]
  decide +kernel

end NfvCatalog.Lint

namespace NfvCatalog

/-! ## The order of findings -/

/-- Two comparisons one after the other compare pairs. -/
theorem compares_then {α β : Type} [LinearOrder α] [LinearOrder β] {a b : α} {c d : β}
    {first second : Ordering} (isFirst : first.Compares a b) (isSecond : second.Compares c d) :
    (first.then second).Compares (toLex (a, c)) (toLex (b, d)) := by
  cases first with
  | lt => exact Prod.Lex.toLex_lt_toLex.mpr (.inl isFirst)
  | gt => exact Prod.Lex.toLex_lt_toLex.mpr (.inl isFirst)
  | eq =>
    obtain rfl : a = b := isFirst
    cases second with
    | lt => exact Prod.Lex.toLex_lt_toLex.mpr (.inr ⟨rfl, isSecond⟩)
    | gt => exact Prod.Lex.toLex_lt_toLex.mpr (.inr ⟨rfl, isSecond⟩)
    | eq => exact congrArg (fun second => toLex (a, second)) isSecond

namespace Path

/-- The kind of a component with its name, if it has one. -/
def Component.key : Component → ℕ ×ₗ String
  | .normal name => toLex (3, name)
  | other => toLex (other.rank, "")

/-- What paths are compared by. -/
def key (path : String) : List (ℕ ×ₗ String) := (components path).map Component.key

theorem Component.lt_iff {left right : Component} :
    left.lt right = true ↔ left.key < right.key := by
  cases left <;> cases right <;>
    simp [Component.lt, Component.key, Component.rank, Prod.Lex.toLex_lt_toLex]

theorem compareComponents_compares (left right : List Component) :
    (compareComponents left right).Compares (left.map Component.key) (right.map Component.key) := by
  induction left generalizing right with
  | nil =>
    cases right with
    | nil => rfl
    | cons first rest => exact List.Lex.nil
  | cons first rest ih =>
    cases right with
    | nil => exact List.Lex.nil
    | cons other others =>
      rw [compareComponents]
      split
      · next less => exact List.Lex.rel (Component.lt_iff.mp less)
      · next notLess =>
        split
        · next greater => exact List.Lex.rel (Component.lt_iff.mp greater)
        · next notGreater =>
          have same : first.key = other.key :=
            le_antisymm (not_lt.mp (mt Component.lt_iff.mpr notGreater))
              (not_lt.mp (mt Component.lt_iff.mpr notLess))
          rw [List.map_cons, List.map_cons, same]
          have behind := ih others
          generalize compareComponents rest others = compared at behind
          cases compared with
          | lt => exact List.Lex.cons behind
          | eq => exact congrArg (other.key :: ·) behind
          | gt => exact List.Lex.cons behind

theorem compare_compares (left right : String) :
    (compare left right).Compares (key left) (key right) :=
  compareComponents_compares _ _

end Path

namespace Diagnostic

/-- A path, a line, a column and a code. The first of them that differs decides the order, and no
column comes before the first one. -/
def SortKey : Type := List (ℕ ×ₗ String) ×ₗ ℕ ×ₗ ℕ ×ₗ String

instance : LinearOrder SortKey :=
  inferInstanceAs (LinearOrder (List (ℕ ×ₗ String) ×ₗ ℕ ×ₗ ℕ ×ₗ String))

/-- What findings are sorted by. -/
def sortKey (d : Diagnostic) : SortKey :=
  toLex (Path.key d.path, toLex (d.line, toLex (columnRank d.column, d.code)))

theorem compare_compares (left right : Diagnostic) :
    (compare left right).Compares left.sortKey right.sortKey :=
  compares_then (Path.compare_compares _ _) <|
    compares_then ((compare_iff _ _).mp rfl) <|
      compares_then ((compare_iff _ _).mp rfl) ((compare_iff _ _).mp rfl)

theorem le_eq (left right : Diagnostic) : le left right = decide (left.sortKey ≤ right.sortKey) :=
  decide_eq_decide.mpr (compare_compares left right).ne_gt

end Diagnostic

namespace Lint

theorem LintReport.sortedByKey_ofFindings (findings : List (List Diagnostic)) :
    SortedByKey Diagnostic.sortKey (ofFindings findings).diagnostics findings.flatten := by
  have same : Diagnostic.le = fun a b => decide (a.sortKey ≤ b.sortKey) := by
    funext a b
    exact Diagnostic.le_eq a b
  rw [ofFindings, same]
  exact sortedByKey_mergeSort _ _

theorem LintReport.exitCode_eq_one_iff (report : LintReport) :
    report.exitCode = 1 ↔ ∃ d ∈ report.diagnostics, d.severity = .error := by
  rw [exitCode, errorCount, count, ← List.countP_eq_length_filter]
  simp [List.countP_pos_iff]

/-! ## The findings in a file

Whichever check makes a finding in a file, the finding has the path of the file.
-/

variable {freshId : Nat → String} {options : LintOptions} {tree : FileTree} {path : String}
  {d : Diagnostic}

private theorem path_of_mem_singleton {own : Diagnostic} (found : d ∈ [own]) :
    d.path = own.path := by
  rw [List.mem_singleton.mp found]

theorem path_of_mem_checkText {text : String} {most : Nat}
    (found : d ∈ checkText path text most) : d.path = path := by
  obtain ⟨finding, -, rfl⟩ := List.mem_map.mp found
  rfl

theorem path_of_mem_parseLinterOutput {output : String}
    (found : d ∈ parseLinterOutput path output) : d.path = path := by
  obtain ⟨line, -, taken⟩ := List.mem_filterMap.mp found
  obtain ⟨parts, -, read⟩ := Option.bind_eq_some_iff.mp taken
  obtain ⟨number, -, same⟩ := Option.bind_eq_some_iff.mp read
  obtain rfl := Option.some.inj same
  rfl

theorem path_of_mem_compileFile (found : d ∈ (compileFile tree options path).2) :
    d.path = path := by
  rw [compileFile] at found
  split at found
  · split at found
    · cases found
    · exact path_of_mem_singleton found
  · exact path_of_mem_singleton found
  · exact path_of_mem_singleton found

theorem path_of_mem_runLinter {milliseconds : Nat} {command : List String}
    (found : d ∈ (runLinter tree milliseconds path command).2) : d.path = path := by
  cases command with
  | nil => cases found
  | cons program arguments =>
    rw [runLinter] at found
    split at found
    · simp only at found
      split at found
      · exact path_of_mem_singleton found
      · rcases List.mem_append.mp found with found | found
        · exact path_of_mem_parseLinterOutput found
        · exact path_of_mem_parseLinterOutput found
    · exact path_of_mem_singleton found

theorem path_of_mem_lintPython (found : d ∈ (lintPython tree options path).2) : d.path = path := by
  rw [lintPython] at found
  split at found
  · exact path_of_mem_singleton found
  · rcases List.mem_append.mp found with found | found
    · rcases List.mem_append.mp found with found | found
      · exact path_of_mem_checkText found
      · split at found
        · exact path_of_mem_compileFile found
        · cases found
    · exact path_of_mem_runLinter found

theorem path_of_mem_lintDescriptor (found : d ∈ lintDescriptor tree path) : d.path = path := by
  rw [lintDescriptor] at found
  split at found
  · exact path_of_mem_singleton found
  · obtain ⟨issue, -, rfl⟩ := List.mem_map.mp found
    rfl

theorem path_of_mem_lintTosca (found : d ∈ lintTosca freshId tree path) : d.path = path := by
  simp only [lintTosca] at found
  split at found
  · exact path_of_mem_singleton found
  · obtain ⟨issue, -, rfl⟩ := List.mem_map.mp found
    rfl

theorem path_of_mem_lintFile {file : SourceFile}
    (found : d ∈ (lintFile freshId options tree file).2) : d.path = file.path := by
  rw [lintFile] at found
  split at found
  · exact path_of_mem_lintPython found
  · exact path_of_mem_lintDescriptor found
  · exact path_of_mem_lintTosca found

theorem path_of_mem_findingsOf (freshId : Nat → String) (options : LintOptions) (tree : FileTree)
    (files : List SourceFile) :
    List.Forall₂ (fun file found => ∀ d ∈ found, d.path = file.path) files
      (findingsOf freshId options tree files).2 := by
  induction files generalizing tree with
  | nil => exact .nil
  | cons file rest ih => exact .cons (fun d found => path_of_mem_lintFile found) (ih _)

/-- Checking a file changes nothing if no tool is called. -/
theorem findingsOf_of_no_tool (off : options.compile = false) (none : options.linter = none)
    (files : List SourceFile) : findingsOf freshId options tree files =
      (tree, files.map fun file => (lintFile freshId options tree file).2) := by
  have same (file : SourceFile) : (lintFile freshId options tree file).1 = tree := by
    rw [lintFile]
    split
    · rw [lintPython]
      split
      · rfl
      · simp [off, none, runLinter]
    · rfl
    · rfl
  induction files with
  | nil => rfl
  | cons file rest ih =>
    rw [findingsOf]
    simp only [same, ih, List.map_cons]

/-! ## Reports -/

/-- A report has what was found in files: sorted by path, line, column and code, each finding once,
and the findings of a file that are equal in these in the order in which they were found. -/
structure Collects (found : SourceFile → List Diagnostic) (files : List SourceFile)
    (report : List Diagnostic) : Prop where
  sorted : report.Pairwise fun a b => a.sortKey ≤ b.sortKey
  complete : report.Perm (files.flatMap found)
  inOrder : ∀ file ∈ files, ∀ key,
    report.filter (fun d => d.path = file.path ∧ d.sortKey = key) =
      (found file).filter fun d => d.sortKey = key

section Found

variable {files others : List SourceFile} {found : SourceFile → List Diagnostic}

/-- When the findings of each file are fixed, they are all that a report is made of. -/
theorem run_of_fixed (fixed : (findingsOf freshId options tree files).2 = files.map found) :
    (run freshId options tree files).2 = .ofFindings (files.map found) := by
  rw [run, ← fixed]

theorem path_of_fixed (fixed : (findingsOf freshId options tree files).2 = files.map found) :
    ∀ file ∈ files, ∀ d ∈ found file, d.path = file.path := by
  have paths := path_of_mem_findingsOf freshId options tree files
  rw [fixed, List.forall₂_map_right_iff] at paths
  exact List.forall₂_same.mp paths

theorem LintReport.sortedByKey_of_map (files : List SourceFile)
    (found : SourceFile → List Diagnostic) :
    SortedByKey Diagnostic.sortKey (ofFindings (files.map found)).diagnostics
      (files.flatMap found) := by
  rw [List.flatMap_def]
  exact sortedByKey_ofFindings _

variable (distinct : files.Pairwise fun a b => Path.compare a.path b.path ≠ .eq)
  (own : ∀ file ∈ files, ∀ d ∈ found file, d.path = file.path)

include distinct in
theorem nodup_key : (files.map fun file => Path.key file.path).Nodup :=
  List.pairwise_map.mpr <| distinct.imp fun apart same =>
    apart ((Path.compare_compares _ _).eq_eq.mpr same)

include own in
/-- Findings of one key are in files with the path in it. -/
theorem filter_sortKey (key : Diagnostic.SortKey) :
    (files.flatMap found).filter (fun d => d.sortKey = key) =
      (files.filter fun file => Path.key file.path = (ofLex key).1).flatMap fun file =>
        (found file).filter fun d => d.sortKey = key := by
  rw [List.filter_flatMap]
  refine flatMap_eq_of_key (fun file : SourceFile => Path.key file.path) fun file member other =>
    List.filter_eq_nil_iff.mpr fun d inside same => ?_
  rw [← of_decide_eq_true same, Diagnostic.sortKey, own file member d inside] at other
  exact other rfl

include distinct own in
/-- Findings with the path of a file are in this file. -/
theorem filter_path {file : SourceFile} (member : file ∈ files) :
    (files.flatMap found).filter (fun d => d.path = file.path) = found file := by
  have apart : (files.map (·.path)).Nodup :=
    List.Nodup.of_map Path.key (by simpa [Function.comp_def] using nodup_key distinct)
  have elsewhere : ∀ other ∈ files, other.path ≠ file.path →
      (found other).filter (fun d => d.path = file.path) = [] := by
    intro other within differs
    refine List.filter_eq_nil_iff.mpr fun d inside same => differs ?_
    rw [← own other within d inside]
    exact of_decide_eq_true same
  rw [List.filter_flatMap, flatMap_eq_of_key (·.path) elsewhere, filter_key (·.path) apart member,
    List.flatMap_singleton, List.filter_eq_self]
  exact fun d inside => decide_eq_true (own file member d inside)

include distinct own in
/-- The report does not depend on the order of the files: no two files have findings of one key. -/
theorem LintReport.ofFindings_reordered (reordered : others.Perm files) :
    ofFindings (others.map found) = ofFindings (files.map found) := by
  have sameCount : (others.map found).length = (files.map found).length := by
    simpa using reordered.length_eq
  have sameFindings : (ofFindings (others.map found)).diagnostics =
      (ofFindings (files.map found)).diagnostics := by
    refine (sortedByKey_of_map others found).eq_of_filter (sortedByKey_of_map files found)
      fun key => ?_
    rw [filter_sortKey own, filter_sortKey fun file member => own file (reordered.subset member),
      filter_perm_key _ (nodup_key distinct) reordered]
  rw [LintReport.mk.injEq]
  exact ⟨sameCount, sameFindings⟩

include distinct own in
theorem collects_ofFindings :
    Collects found files (LintReport.ofFindings (files.map found)).diagnostics where
  sorted := (LintReport.sortedByKey_of_map files found).ordered
  complete := by
    rw [List.flatMap_def]
    exact List.mergeSort_perm _ _
  inOrder file member key := by
    have both (list : List Diagnostic) :
        list.filter (fun d => decide (d.path = file.path ∧ d.sortKey = key)) =
          (list.filter fun d => d.sortKey = key).filter fun d => d.path = file.path := by
      rw [List.filter_filter]
      simp only [Bool.decide_and]
    rw [both, (LintReport.sortedByKey_of_map files found).stable key, List.filter_comm,
      filter_path distinct own member]

end Found

/-- When the findings of each file are fixed, files with different paths may be checked in any order:
the report is the same. It has all findings in order, and the exit code tells whether one of them is
an error. -/
theorem run_reordered {files others : List SourceFile} {found : SourceFile → List Diagnostic}
    (distinct : files.Pairwise fun a b => Path.compare a.path b.path ≠ .eq)
    (reordered : others.Perm files)
    (fixed : (findingsOf freshId options tree files).2 = files.map found)
    (fixedToo : (findingsOf freshId options tree others).2 = others.map found) :
    (run freshId options tree others).2 = (run freshId options tree files).2 ∧
      Collects found files (run freshId options tree files).2.diagnostics ∧
        ((run freshId options tree files).2.exitCode = 1 ↔
          ∃ d ∈ (run freshId options tree files).2.diagnostics, d.severity = .error) := by
  have own := path_of_fixed fixed
  refine ⟨?_, ?_, LintReport.exitCode_eq_one_iff _⟩
  · rw [run_of_fixed fixed, run_of_fixed fixedToo,
      LintReport.ofFindings_reordered distinct own reordered]
  · rw [run_of_fixed fixed]
    exact collects_ofFindings distinct own

/-- Two sources, the second with a long line that is not ended. -/
def sourceTree : FileTree :=
  ⟨[(["b.py"], .file (.bytes [120, 32, 10]) false),
    (["a.py"], .file (.bytes [121, 32, 61, 32, 49]) false)]⟩

/-- The sources, and one that is missing. -/
def sourceFiles : List SourceFile := [⟨"b.py", .python⟩, ⟨"c.py", .python⟩, ⟨"./a.py", .python⟩]

theorem sourceFiles_reordered : ∃ report : LintReport,
    (run (fun _ => "") { maxLineLength := 4 } sourceTree sourceFiles).2 = report ∧
      (run (fun _ => "") { maxLineLength := 4 } sourceTree sourceFiles.reverse).2 = report ∧
        report.diagnostics.length = 4 ∧ report.exitCode = 1 := by
  have distinct : sourceFiles.Pairwise fun a b => Path.compare a.path b.path ≠ .eq := by
    decide +kernel
  have fixed (files : List SourceFile) :
      (findingsOf (fun _ => "") { maxLineLength := 4 } sourceTree files).2 =
        files.map fun file => (lintFile (fun _ => "") { maxLineLength := 4 } sourceTree file).2 :=
    congrArg Prod.snd (findingsOf_of_no_tool rfl rfl files)
  obtain ⟨same, collects, exit⟩ := run_reordered distinct sourceFiles.reverse_perm
    (fixed sourceFiles) (fixed sourceFiles.reverse)
  refine ⟨_, rfl, same, ?_, exit.mpr ?_⟩
  · rw [collects.complete.length_eq]
    decide +kernel
  · simp only [collects.complete.mem_iff]
    decide +kernel

end Lint

end NfvCatalog
