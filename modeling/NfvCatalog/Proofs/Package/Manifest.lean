import Mathlib.Data.String.Basic
import NfvCatalog.Package.Manifest
import NfvCatalog.Proofs.Lists.Ranked
import NfvCatalog.Proofs.Outcome
import NfvCatalog.Proofs.Text.Blank

/-! # Manifests that are read back

A manifest is written one line for each file and read line by line, and what is read is trimmed. So
a path comes back if it is on one line and trimming leaves it as it is, and no other path is ever
read.
-/

namespace NfvCatalog

/-! ## Digests -/

/-- What makes a hexadecimal digit plain text. -/
structure PlainDigit (c : Char) : Prop where
  byte : c.utf8Size = 1
  lower : c.toLower = c
  shown : Text.isBlank c = false
  line : c ≠ '\n'
  comment : c ≠ '#'

theorem plainDigit_of_isLowerHex {c : Char} (hex : isLowerHex c = true) : PlainDigit c := by
  have small : c.toNat < 128 := by
    simp only [isLowerHex, Char.isDigit, Bool.or_eq_true, Bool.and_eq_true,
      decide_eq_true_eq] at hex
    rcases hex with ⟨-, upper⟩ | ⟨-, upper⟩
    · exact Nat.lt_of_le_of_lt (UInt32.le_iff_toNat_le.mp upper) (by decide)
    · exact Nat.lt_of_le_of_lt (UInt32.le_iff_toNat_le.mp upper) (by decide)
  let isPlain (c : Char) : Prop := isLowerHex c = true →
    c.utf8Size = 1 ∧ c.toLower = c ∧ Text.isBlank c = false ∧ c ≠ '\n' ∧ c ≠ '#'
  have own : isPlain c := Text.of_ascii (by decide +kernel) small
  obtain ⟨byte, lower, shown, line, comment⟩ := own hex
  exact ⟨byte, lower, shown, line, comment⟩

theorem isLowerHex_iff {c : Char} :
    isLowerHex c = true ↔ ('0' ≤ c ∧ c ≤ '9') ∨ ('a' ≤ c ∧ c ≤ 'f') := by
  simp only [isLowerHex, Char.isDigit, Bool.or_eq_true, Bool.and_eq_true, decide_eq_true_eq]
  rfl

namespace Digest

theorem plain (digest : Digest) : ∀ c ∈ digest.digits, PlainDigit c := fun c member =>
  plainDigit_of_isLowerHex (digest.lower c member)

private theorem utf8ByteSize_of_plain {cs : List Char} (plain : ∀ c ∈ cs, PlainDigit c) :
    (String.ofList cs).utf8ByteSize = cs.length := by
  induction cs with
  | nil => rfl
  | cons c rest ih =>
    obtain ⟨own, others⟩ := List.forall_mem_cons.mp plain
    rw [String.ofList_cons, String.utf8ByteSize_append, String.utf8ByteSize_singleton, own.byte,
      ih others, List.length_cons, Nat.add_comm]

/-- The text of a digest is read as the digest. -/
theorem parse_text (digest : Digest) : parse digest.text = .ok digest := by
  have size : digest.text.utf8ByteSize = 64 := by
    rw [text, utf8ByteSize_of_plain digest.plain, digest.length_eq]
  have lower : digest.text.toList.map Char.toLower = digest.digits := by
    rw [text, String.toList_ofList]
    exact (List.map_congr_left fun c member => (digest.plain c member).lower).trans (List.map_id _)
  have form : digest.digits.length = 64 ∧ digest.digits.all isLowerHex :=
    ⟨digest.length_eq, List.all_eq_true.mpr digest.lower⟩
  rw [parse, if_neg (by simp [size])]
  simp only [lower]
  rw [dif_pos form]

end Digest

namespace Manifest

/-- A path that a manifest can list: it is on one line, with no blanks around it. -/
structure Listable (path : String) : Prop where
  line : '\n' ∉ path.toList
  trimmed : Text.trimChars path.toList = path.toList

theorem listable_iff {path : String} : Listable path ↔
    '\n' ∉ path.toList ∧ Text.trimChars path.toList = path.toList :=
  ⟨fun ⟨line, trimmed⟩ => ⟨line, trimmed⟩, fun ⟨line, trimmed⟩ => ⟨line, trimmed⟩⟩

instance (path : String) : Decidable (Listable path) := decidable_of_iff' _ listable_iff

/-- A line of a manifest without its end. -/
def lineChars (entry : String × Digest) : List Char := entry.2.digits ++ ' ' :: entry.1.toList

theorem toList_formatLine (entry : String × Digest) :
    (formatLine entry).toList = lineChars entry ++ ['\n'] := by
  simp [formatLine, lineChars, Digest.text]

theorem parseLine_lineChars {entry : String × Digest} (listable : Listable entry.1) :
    parseLine (lineChars entry) = .ok entry := by
  have shown : ∀ c ∈ entry.2.digits, (!Text.isBlank c) = true := fun c member => by
    simp [(entry.2.plain c member).shown]
  have blank : (!Text.isBlank ' ') = false := by decide
  have back : (lineChars entry).dropWhile (!Text.isBlank ·) = ' ' :: entry.1.toList := by
    rw [lineChars, List.dropWhile_append_of_pos shown, List.dropWhile_cons_of_neg (by simp [blank])]
  have front : (lineChars entry).takeWhile (!Text.isBlank ·) = entry.2.digits := by
    rw [lineChars, List.takeWhile_append_of_pos shown, List.takeWhile_cons_of_neg (by simp [blank]),
      List.append_nil]
  have digest : Digest.parse (String.ofList entry.2.digits) = .ok entry.2 := entry.2.parse_text
  simp only [parseLine, back, front, digest, listable.trimmed, String.ofList_toList]

/-- What a line of a manifest starts and ends with. -/
private theorem lineChars_ends (entry : String × Digest) :
    (∃ c, (lineChars entry).head? = some c ∧ PlainDigit c) ∧
      (entry.1 ≠ "" → (lineChars entry).getLast? = entry.1.toList.getLast?) := by
  constructor
  · obtain ⟨path, digits, length, lower⟩ := entry
    cases digits with
    | nil => cases length
    | cons c rest => exact ⟨c, rfl, plainDigit_of_isLowerHex (lower c (List.mem_cons_self ..))⟩
  · intro named
    have nonempty : entry.1.toList ≠ [] := by simpa using named
    rw [lineChars, List.getLast?_append_of_ne_nil _ (List.cons_ne_nil _ _),
      List.getLast?_cons_of_ne_nil nonempty]

variable {entries : List (String × Digest)}

private theorem parseLines_lineChars (number : Nat) (listable : ∀ entry ∈ entries, Listable entry.1)
    (named : ∀ entry ∈ entries, entry.1 ≠ "") :
    parseLines number (entries.map lineChars) = .ok entries := by
  induction entries generalizing number with
  | nil => rfl
  | cons entry rest ih =>
    obtain ⟨own, others⟩ := List.forall_mem_cons.mp listable
    obtain ⟨ownNamed, othersNamed⟩ := List.forall_mem_cons.mp named
    obtain ⟨⟨c, first, plain⟩, last⟩ := lineChars_ends entry
    have trimmed : Text.trimChars (lineChars entry) = lineChars entry := by
      refine Text.trimChars_eq_self (fun d found => ?_) fun d found => ?_
      · obtain rfl : c = d := Option.some.inj (first.symm.trans found)
        exact plain.shown
      · rw [last ownNamed] at found
        exact Text.getLast_trimChars (own.trimmed ▸ found)
    have said : ¬ ((lineChars entry).isEmpty ∨ (lineChars entry).head? = some '#') := by
      rw [first, List.isEmpty_iff]
      rintro (none | comment)
      · simp [none] at first
      · exact plain.comment (Option.some.inj comment)
    simp only [List.map_cons, parseLines, trimmed]
    rw [if_neg said, parseLine_lineChars own]
    simp only [ih (number + 1) others othersNamed]
    rfl

/-- A manifest of paths that can be listed is read as what it was written for, sorted. -/
theorem parse_format (listable : ∀ entry ∈ entries, Listable entry.1)
    (named : ∀ entry ∈ entries, entry.1 ≠ "") :
    parse (format entries) = .ok (entries.mergeSort fun a b => Text.le a.1 b.1) := by
  have members := List.mergeSort_perm entries fun a b => Text.le a.1 b.1
  rw [parse, format]
  generalize entries.mergeSort (fun a b => Text.le a.1 b.1) = sorted at members
  have listable : ∀ entry ∈ sorted, Listable entry.1 := fun entry member =>
    listable entry (members.subset member)
  have named : ∀ entry ∈ sorted, entry.1 ≠ "" := fun entry member =>
    named entry (members.subset member)
  have chars : (String.join (sorted.map formatLine)).toList =
      (sorted.map lineChars).flatMap (· ++ ['\n']) := by
    rw [String.toList_join, List.flatMap_map, List.flatMap_map]
    exact List.flatMap_congr fun entry _ => toList_formatLine entry
  have lines : Text.linesOf ((sorted.map lineChars).flatMap (· ++ ['\n'])) =
      sorted.map lineChars := by
    refine Text.linesOf_flatMap (List.forall_mem_map.mpr fun entry member => ?_)
      (List.forall_mem_map.mpr fun entry member last => ?_)
    · have digits : '\n' ∉ entry.2.digits := fun inside => (entry.2.plain _ inside).line rfl
      simp [lineChars, digits, (listable entry member).line]
    · rw [(lineChars_ends entry).2 (named entry member), ← (listable entry member).trimmed] at last
      exact Bool.noConfusion (Text.getLast_trimChars last)
  rw [chars, lines]
  exact parseLines_lineChars 1 listable named

/-! ## What is read

Every entry that is read stands on a trimmed line of the text, so its path can be listed again.
-/

private theorem rest_of_parseLine {line : List Char} {entry : String × Digest}
    (read : parseLine line = .ok entry) : ∃ c rest,
      line.dropWhile (!Text.isBlank ·) = c :: rest ∧
        entry.1 = String.ofList (Text.trimChars rest) := by
  rw [parseLine] at read
  split at read
  · cases read
  · next c rest back =>
    split at read
    · obtain rfl := Except.ok.inj read
      exact ⟨c, rest, back, rfl⟩
    · cases read

private theorem listable_of_parseLine {line : List Char} {entry : String × Digest}
    (plain : '\n' ∉ line) (read : parseLine line = .ok entry) : Listable entry.1 := by
  obtain ⟨c, rest, back, path⟩ := rest_of_parseLine read
  have sub : (Text.trimChars rest).Sublist line :=
    (Text.trimChars_sublist rest).trans ((List.sublist_cons_self ..).trans
      (back ▸ (List.dropWhile_suffix _).sublist))
  refine ⟨?_, ?_⟩ <;> rw [path, String.toList_ofList]
  · exact fun inside => plain (sub.subset inside)
  · exact Text.trimChars_trimChars rest

/-- A line does not end in a blank, so that something stands behind the first blank. -/
private theorem named_of_parseLine {line : List Char} {entry : String × Digest}
    (ends : ∀ c ∈ line.getLast?, Text.isBlank c = false) (read : parseLine line = .ok entry) :
    entry.1 ≠ "" := by
  obtain ⟨c, rest, back, path⟩ := rest_of_parseLine read
  intro empty
  have blanks : ∀ d ∈ rest, Text.isBlank d = true :=
    Text.trimChars_eq_nil.mp (by simpa [empty] using path.symm)
  have first : Text.isBlank c = true := by
    simpa [back] using List.head?_dropWhile_not (!Text.isBlank ·) line
  have last : line.getLast? = (c :: rest).getLast? := by
    rw [← List.takeWhile_append_dropWhile (p := (!Text.isBlank ·)) (l := line), back,
      List.getLast?_append_of_ne_nil _ (List.cons_ne_nil c rest)]
  rw [List.getLast?_eq_some_getLast (List.cons_ne_nil c rest)] at last
  have behind : ∀ d ∈ c :: rest, Text.isBlank d = true := List.forall_mem_cons.mpr ⟨first, blanks⟩
  exact Bool.noConfusion ((ends _ last).symm.trans (behind _ (List.getLast_mem _)))

/-- What holds of the entry on every line holds of every entry. -/
private theorem forall_of_parseLines {P : String × Digest → Prop} {number : Nat}
    {lines : List (List Char)}
    (each : ∀ line ∈ lines, ∀ entry, parseLine (Text.trimChars line) = .ok entry → P entry)
    (read : parseLines number lines = .ok entries) : ∀ entry ∈ entries, P entry := by
  induction lines generalizing number entries with
  | nil =>
    obtain rfl := Except.ok.inj read
    simp
  | cons line rest ih =>
    obtain ⟨own, others⟩ := List.forall_mem_cons.mp each
    rw [parseLines] at read
    split at read
    · exact ih others read
    · split at read
      · cases read
      · next entry first =>
        obtain ⟨later, more, same⟩ := bind_eq_ok.mp read
        obtain rfl := Except.ok.inj same
        exact List.forall_mem_cons.mpr ⟨own entry first, ih others more⟩

/-- No path is read that could not be listed. -/
theorem listable_of_parse {text : String} (read : parse text = .ok entries) :
    ∀ entry ∈ entries, Listable entry.1 :=
  forall_of_parseLines (fun line member _ => listable_of_parseLine fun inside =>
    Text.not_mem_of_mem_linesOf member ((Text.trimChars_sublist line).subset inside)) read

theorem named_of_parse {text : String} (read : parse text = .ok entries) :
    ∀ entry ∈ entries, entry.1 ≠ "" :=
  forall_of_parseLines (fun _ _ _ => named_of_parseLine fun _ => Text.getLast_trimChars) read

/-! ## Manifests that are written again -/

theorem sortedByKey_mergeSort_le (entries : List (String × Digest)) :
    SortedByKey Prod.fst (entries.mergeSort fun a b => Text.le a.1 b.1) entries :=
  sortedByKey_mergeSort Prod.fst entries

/-- Every manifest that is read can be written again and read again: the entries come back sorted
by path, those of one path in their order. Their digests are 64 digits in lower case, and every
digest is read from its text as itself. -/
theorem parse_format_of_parse {text : String} (read : parse text = .ok entries) :
    (∃ sorted, parse (format entries) = .ok sorted ∧ SortedByKey Prod.fst sorted entries ∧
      ∀ entry ∈ sorted, entry.2.text.toList.length = 64 ∧
        ∀ c ∈ entry.2.text.toList, ('0' ≤ c ∧ c ≤ '9') ∨ ('a' ≤ c ∧ c ≤ 'f')) ∧
    ∀ digest : Digest, Digest.parse digest.text = .ok digest := by
  refine ⟨⟨_, parse_format (listable_of_parse read) (named_of_parse read),
    sortedByKey_mergeSort_le entries, ?_⟩, Digest.parse_text⟩
  rintro ⟨path, digest⟩ -
  rw [Digest.text, String.toList_ofList]
  exact ⟨digest.length_eq, fun c member => isLowerHex_iff.mp (digest.lower c member)⟩

/-- A manifest with a remark, blanks of several kinds, capital letters and a repeated path. -/
def mixedManifest : List Char :=
  "# sums\r\n".toList ++ List.replicate 64 'B' ++ "\t b #1 \r\n\n ".toList ++
    List.replicate 64 'a' ++ " a\n".toList ++ List.replicate 64 '0' ++ " b #1".toList

/-- The entries of the manifest come back, and those of the repeated path stay in their order. -/
theorem mixedManifest_comes_back :
    ∃ entries sorted, parse (String.ofList mixedManifest) = .ok entries ∧
      entries.map Prod.fst = ["b #1", "a", "b #1"] ∧
      parse (format entries) = .ok sorted ∧ SortedByKey Prod.fst sorted entries := by
  have known : (parseLines 1 (Text.linesOf mixedManifest)).toOption.map (·.map Prod.fst) =
      some ["b #1", "a", "b #1"] := by decide +kernel
  obtain ⟨entries, found, paths⟩ := Option.map_eq_some_iff.mp known
  have read : parse (String.ofList mixedManifest) = .ok entries := by
    rw [parse, String.toList_ofList]
    exact toOption_eq_some.mp found
  obtain ⟨sorted, again, sorts, -⟩ := (parse_format_of_parse read).1
  exact ⟨entries, sorted, read, paths, again, sorts⟩

end Manifest

end NfvCatalog
