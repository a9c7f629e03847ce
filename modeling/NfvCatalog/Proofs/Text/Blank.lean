import Mathlib.Data.List.DropRight
import Mathlib.Data.List.TakeWhile
import NfvCatalog.Text.Blank

/-! # Texts as lists of characters

What trimming, cutting at separators and writing in capital letters leave of a text.
-/

namespace NfvCatalog.Text

/-- What holds of every character of the ASCII range can be found by looking at all of them. -/
theorem of_ascii {P : Char → Prop} (all : ∀ n : Fin 128, P (Char.ofNat n)) {c : Char}
    (small : c.toNat < 128) : P c := by
  have own := all ⟨c.toNat, small⟩
  rwa [Char.ofNat_toNat] at own

/-- A text ends with another if it is something continued by that. -/
theorem endsWith_iff {text tail : String} :
    endsWith text tail = true ↔ ∃ front, text = front ++ tail := by
  rw [endsWith, List.isSuffixOf_iff_suffix]
  constructor
  · rintro ⟨front, chars⟩
    refine ⟨String.ofList front, ?_⟩
    rw [← String.toList_inj, String.toList_append, String.toList_ofList, chars]
  · rintro ⟨front, rfl⟩
    exact ⟨front.toList, String.toList_append.symm⟩

/-! ## Trimmed texts

Trimming leaves nothing of a text exactly if every character of it is a blank.
-/

/-- A text of blanks only, the empty one included. -/
def Blank (text : String) : Prop := ∀ c ∈ text.toList, isBlank c = true

instance (text : String) : Decidable (Blank text) :=
  decidable_of_iff (text.toList.all isBlank = true) List.all_eq_true

theorem dropBlanks_eq_nil {cs : List Char} : dropBlanks cs = [] ↔ ∀ c ∈ cs, isBlank c = true :=
  List.dropWhile_eq_nil_iff

theorem dropTrailingBlanks_eq_nil {cs : List Char} :
    dropTrailingBlanks cs = [] ↔ ∀ c ∈ cs, isBlank c = true := by
  rw [dropTrailingBlanks, List.reverse_eq_nil_iff, List.dropWhile_eq_nil_iff]
  simp only [List.mem_reverse]

/-- What is left of a list after dropping the blanks at its start is empty or starts with another
character. -/
theorem head_dropBlanks {cs rest : List Char} {c : Char} (left : dropBlanks cs = c :: rest) :
    isBlank c = false := by
  have first := List.head?_dropWhile_not isBlank cs
  rw [show cs.dropWhile isBlank = c :: rest from left] at first
  simpa using first

theorem trimChars_eq_nil {cs : List Char} : trimChars cs = [] ↔ ∀ c ∈ cs, isBlank c = true := by
  rw [trimChars, dropTrailingBlanks_eq_nil]
  constructor
  · intro blanks
    cases left : dropBlanks cs with
    | nil => exact dropBlanks_eq_nil.mp left
    | cons c rest =>
      have blank := blanks c (left ▸ List.mem_cons_self ..)
      rw [head_dropBlanks left] at blank
      contradiction
  · intro blanks
    rw [dropBlanks_eq_nil.mpr blanks]
    simp

theorem dropTrailingBlanks_eq (cs : List Char) :
    dropTrailingBlanks cs = cs.rdropWhile isBlank := rfl

theorem trimChars_sublist (cs : List Char) : (trimChars cs).Sublist cs :=
  (List.rdropWhile_prefix isBlank (dropBlanks cs)).sublist.trans
    (List.dropWhile_suffix isBlank).sublist

/-- Nothing is trimmed from a list that neither starts nor ends with a blank. -/
theorem trimChars_eq_self {cs : List Char} (starts : ∀ c ∈ cs.head?, isBlank c = false)
    (ends : ∀ c ∈ cs.getLast?, isBlank c = false) : trimChars cs = cs := by
  have kept : dropBlanks cs = cs := by
    cases cs with
    | nil => rfl
    | cons c rest => rw [dropBlanks, List.dropWhile_cons_of_neg (by simp [starts c rfl])]
  rw [trimChars, kept, dropTrailingBlanks_eq, List.rdropWhile_eq_self_iff]
  exact fun nonempty => by simp [ends _ (List.getLast?_eq_some_getLast nonempty)]

/-- A trimmed list does not start with a blank. -/
theorem head_trimChars {cs : List Char} {c : Char} (first : (trimChars cs).head? = some c) :
    isBlank c = false := by
  obtain ⟨others, trimmed⟩ := List.head?_eq_some_iff.mp first
  obtain ⟨tail, whole⟩ := List.rdropWhile_prefix isBlank (dropBlanks cs)
  have left : dropBlanks cs = c :: (others ++ tail) := by
    rw [← whole, ← List.cons_append, ← trimmed]
    rfl
  exact head_dropBlanks left

/-- A trimmed list does not end with a blank. -/
theorem getLast_trimChars {cs : List Char} {c : Char} (last : (trimChars cs).getLast? = some c) :
    isBlank c = false := by
  obtain ⟨front, trimmed⟩ := List.getLast?_eq_some_iff.mp last
  have left : (dropBlanks cs).rdropWhile isBlank = front ++ [c] := trimmed
  have kept := List.rdropWhile_last_not isBlank (dropBlanks cs) (by simp [left])
  simpa [left] using kept

theorem trimChars_trimChars (cs : List Char) : trimChars (trimChars cs) = trimChars cs :=
  trimChars_eq_self (fun _ first => head_trimChars first) fun _ last => getLast_trimChars last

/-! ### Blanks around a text -/

theorem dropTrailingBlanks_append {back : List Char} (blanks : ∀ c ∈ back, isBlank c = true)
    (front : List Char) : dropTrailingBlanks (front ++ back) = dropTrailingBlanks front := by
  rw [dropTrailingBlanks, List.reverse_append,
    List.dropWhile_append_of_pos fun c member => blanks c (List.mem_reverse.mp member)]
  rfl

/-- Trimming takes away what blanks stand around a list. -/
theorem trimChars_append {front back : List Char} (before : ∀ c ∈ front, isBlank c = true)
    (behind : ∀ c ∈ back, isBlank c = true) (body : List Char) :
    trimChars (front ++ body ++ back) = trimChars body := by
  rw [List.append_assoc, trimChars, dropBlanks, List.dropWhile_append_of_pos before,
    List.dropWhile_append]
  split
  · next empty =>
    rw [List.dropWhile_eq_nil_iff.mpr behind, trimChars, dropBlanks, List.isEmpty_iff.mp empty]
  · exact dropTrailingBlanks_append behind _

/-- The blanks at the end of a list stand behind any beginning that does not end in one. -/
theorem dropTrailingBlanks_append_of_ends {front : List Char}
    (ends : ∀ c ∈ front.getLast?, isBlank c = false) (back : List Char) :
    dropTrailingBlanks (front ++ back) = front ++ dropTrailingBlanks back := by
  have kept : front.rdropWhile isBlank = front :=
    List.rdropWhile_eq_self_iff.mpr fun nonempty => by
      simp [ends _ (List.getLast?_eq_some_getLast nonempty)]
  rw [dropTrailingBlanks, List.reverse_append, List.dropWhile_append]
  split
  · next empty =>
    have none : dropTrailingBlanks back = [] := by
      rw [dropTrailingBlanks, List.isEmpty_iff.mp empty, List.reverse_nil]
    rw [none, List.append_nil]
    exact kept
  · rw [List.reverse_append, List.reverse_reverse, dropTrailingBlanks]

/-- Trimming keeps what starts with characters that are no blanks, but for blanks behind it. -/
theorem trimChars_append_of_shown {front body : List Char}
    (before : ∀ c ∈ front, isBlank c = true) (nonempty : body ≠ [])
    (shown : ∀ c ∈ body, isBlank c = false) (back : List Char) :
    trimChars (front ++ (body ++ back)) = body ++ dropTrailingBlanks back := by
  have start : dropBlanks (front ++ (body ++ back)) = body ++ back := by
    obtain ⟨c, more, rfl⟩ := List.exists_cons_of_ne_nil nonempty
    rw [dropBlanks, List.dropWhile_append_of_pos before, List.cons_append,
      List.dropWhile_cons_of_neg (by simp [shown c (List.mem_cons_self ..)])]
  rw [trimChars, start]
  exact dropTrailingBlanks_append_of_ends (fun c last => shown c (List.mem_of_getLast? last)) back

theorem trimChars_dropTrailingBlanks (cs : List Char) :
    trimChars (dropTrailingBlanks cs) = trimChars cs := by
  have whole : dropTrailingBlanks cs ++ cs.rtakeWhile isBlank = cs :=
    List.rdropWhile_append_rtakeWhile
  have blanks : ∀ c ∈ cs.rtakeWhile isBlank, isBlank c = true := fun _ =>
    List.mem_rtakeWhile_imp
  have same := trimChars_append (List.forall_mem_nil _) blanks (dropTrailingBlanks cs)
  rw [List.nil_append, whole] at same
  exact same.symm

/-! ## Pieces between separators

Cutting at a separator takes apart what was put together with it, and no piece has a separator in
it.
-/

variable (separator : Char)

theorem splitChars_ne_nil (cs : List Char) : splitChars separator cs ≠ [] := by
  cases cs with
  | nil => exact List.cons_ne_nil _ _
  | cons c rest =>
    rw [splitChars]
    split
    · exact List.cons_ne_nil _ _
    · split <;> exact List.cons_ne_nil _ _

/-- A separator begins a piece, and any other character belongs to the first one. -/
theorem splitChars_cons (c : Char) (rest : List Char) :
    splitChars separator (c :: rest) =
      if c = separator then [] :: splitChars separator rest
      else (splitChars separator rest).modifyHead (c :: ·) := by
  obtain ⟨piece, pieces, cut⟩ := List.exists_cons_of_ne_nil (splitChars_ne_nil separator rest)
  rw [splitChars, cut]
  rfl

@[simp] theorem splitChars_cons_self (cs : List Char) :
    splitChars separator (separator :: cs) = [] :: splitChars separator cs := by
  rw [splitChars_cons, if_pos rfl]

/-- A list is cut at a separator in it, whatever stands before and behind. -/
theorem splitChars_append (front back : List Char) :
    splitChars separator (front ++ separator :: back) =
      splitChars separator front ++ splitChars separator back := by
  induction front with
  | nil => exact splitChars_cons_self separator back
  | cons c rest ih =>
    obtain ⟨piece, pieces, cut⟩ := List.exists_cons_of_ne_nil (splitChars_ne_nil separator rest)
    rw [List.cons_append, splitChars_cons, splitChars_cons, ih, cut]
    split <;> rfl

/-- A list without separators is its only piece. -/
theorem splitChars_of_not_mem {cs : List Char} (free : separator ∉ cs) :
    splitChars separator cs = [cs] := by
  induction cs with
  | nil => rfl
  | cons c rest ih =>
    rw [List.mem_cons, not_or] at free
    rw [splitChars_cons, if_neg (Ne.symm free.1), ih free.2]
    rfl

/-- A piece of a list is empty, or it is a piece of what is behind the first character, which may be
added to it. -/
theorem mem_splitChars_cons {c : Char} {rest piece : List Char}
    (member : piece ∈ splitChars separator (c :: rest)) :
    piece = [] ∨ piece ∈ splitChars separator rest ∨
      c ≠ separator ∧ ∃ shorter ∈ splitChars separator rest, piece = c :: shorter := by
  obtain ⟨first, others, cut⟩ := List.exists_cons_of_ne_nil (splitChars_ne_nil separator rest)
  rw [splitChars_cons, cut] at member
  rw [cut]
  split at member
  · rcases List.mem_cons.mp member with empty | member
    · exact .inl empty
    · exact .inr (.inl member)
  · next other =>
    rcases List.mem_cons.mp member with longer | member
    · exact .inr (.inr ⟨other, first, List.mem_cons_self .., longer⟩)
    · exact .inr (.inl (List.mem_cons_of_mem _ member))

theorem not_mem_of_mem_splitChars {cs piece : List Char}
    (member : piece ∈ splitChars separator cs) : separator ∉ piece := by
  induction cs generalizing piece with
  | nil =>
    obtain rfl := List.mem_singleton.mp member
    exact List.not_mem_nil
  | cons c rest ih =>
    obtain rfl | inRest | ⟨other, shorter, inRest, rfl⟩ := mem_splitChars_cons separator member
    · exact List.not_mem_nil
    · exact ih inRest
    · rw [List.mem_cons, not_or]
      exact ⟨other.symm, ih inRest⟩

/-- Every piece of a list is a part of it. -/
theorem subset_of_mem_splitChars {cs piece : List Char}
    (member : piece ∈ splitChars separator cs) : piece ⊆ cs := by
  induction cs generalizing piece with
  | nil =>
    obtain rfl := List.mem_singleton.mp member
    exact List.nil_subset _
  | cons c rest ih =>
    obtain rfl | inRest | ⟨-, shorter, inRest, rfl⟩ := mem_splitChars_cons separator member
    · exact List.nil_subset _
    · exact List.subset_cons_of_subset c (ih inRest)
    · exact List.cons_subset_cons c (ih inRest)

/-- The last piece of a list, from its end. -/
theorem takeWhile_reverse_append (front : List Char) {back : List Char} (free : separator ∉ back) :
    (front ++ separator :: back).reverse.takeWhile (· ≠ separator) = back.reverse := by
  rw [List.reverse_append, List.reverse_cons, List.append_assoc, List.takeWhile_append_of_pos]
  · simp
  · intro c member
    simpa using fun same : c = separator => free (same ▸ List.mem_reverse.mp member)

/-- What stands before the last piece of a list, with the separator. -/
theorem take_append_cons (front back : List Char) :
    (front ++ separator :: back).take ((front ++ separator :: back).length - back.length) =
      front ++ [separator] := by
  have whole : front ++ separator :: back = front ++ [separator] ++ back := by simp
  have length : (front ++ [separator] ++ back).length =
      (front ++ [separator]).length + back.length := List.length_append
  rw [whole, length, Nat.add_sub_cancel, List.take_left]

/-! ### Lines -/

theorem not_mem_dropReturn {c : Char} {line : List Char} (absent : c ∉ line) :
    c ∉ dropReturn line := by
  rw [dropReturn]
  split
  · exact fun member => absent (List.dropLast_subset _ member)
  · exact absent

/-- No line has a line feed in it. -/
theorem not_mem_of_mem_linesOf {cs line : List Char} (member : line ∈ linesOf cs) :
    '\n' ∉ line := by
  have pieces {piece : List Char} (member : piece ∈ splitChars '\n' cs) : '\n' ∉ piece :=
    not_mem_of_mem_splitChars '\n' member
  have cut {line : List Char} (member : line ∈ (splitChars '\n' cs).dropLast.map dropReturn) :
      '\n' ∉ line := by
    obtain ⟨piece, inPieces, rfl⟩ := List.mem_map.mp member
    exact not_mem_dropReturn (pieces (List.dropLast_subset _ inPieces))
  rw [linesOf] at member
  split at member
  · exact cut member
  · next last _ found =>
    rcases List.mem_append.mp member with member | member
    · exact cut member
    · obtain rfl := List.mem_singleton.mp member
      exact pieces (List.mem_of_getLast? found)
  · cases member

private theorem splitChars_flatMap {lines : List (List Char)}
    (plain : ∀ line ∈ lines, '\n' ∉ line) :
    splitChars '\n' (lines.flatMap (· ++ ['\n'])) = lines ++ [[]] := by
  induction lines with
  | nil => rfl
  | cons line rest ih =>
    obtain ⟨own, others⟩ := List.forall_mem_cons.mp plain
    rw [List.flatMap_cons, List.append_assoc, List.singleton_append, splitChars_append,
      splitChars_of_not_mem '\n' own, ih others]
    rfl

/-- Lines that are written one behind the other are read as they are. -/
theorem linesOf_flatMap {lines : List (List Char)} (plain : ∀ line ∈ lines, '\n' ∉ line)
    (ends : ∀ line ∈ lines, line.getLast? ≠ some '\r') :
    linesOf (lines.flatMap (· ++ ['\n'])) = lines := by
  have kept : ∀ line ∈ lines, dropReturn line = line := fun line member =>
    if_neg (ends line member)
  simp only [linesOf, splitChars_flatMap plain, List.getLast?_concat, List.dropLast_concat]
  exact (List.map_congr_left kept).trans (List.map_id _)

/-! ### Numbered lines

Lines are counted from one, and behind the last line feed is a line only if the text goes on there.
Carriage returns before the line feeds change nothing about the lines.
-/

/-- A text has a line at a number. -/
inductive LineAt : List Char → Nat → List Char → Prop
  | last {line : List Char} (free : '\n' ∉ line) (nonempty : line ≠ []) : LineAt line 1 line
  | first {line : List Char} (free : '\n' ∉ line) (rest : List Char) :
      LineAt (line ++ '\n' :: rest) 1 line
  | later {line rest other : List Char} {number : Nat} (free : '\n' ∉ line)
      (behind : LineAt rest number other) : LineAt (line ++ '\n' :: rest) (number + 1) other

/-- The characters with a carriage return before each line feed. -/
def withReturns (cs : List Char) : List Char :=
  cs.flatMap fun c => if c = '\n' then ['\r', '\n'] else [c]

/-! #### Line by line -/

/-- What holds of a text without line feeds, and of a text if it holds behind the first line feed,
holds of every text. -/
theorem line_induction {motive : List Char → Prop}
    (last : ∀ line, '\n' ∉ line → motive line)
    (cons : ∀ line rest, '\n' ∉ line → motive rest → motive (line ++ '\n' :: rest))
    (text : List Char) : motive text := by
  by_cases more : '\n' ∈ text
  · obtain ⟨line, rest, same, free⟩ := List.eq_append_cons_of_mem more
    have shorter : rest.length < text.length := by
      rw [same, List.length_append, List.length_cons]
      omega
    exact same ▸ cons line rest free (line_induction last cons rest)
  · exact last text more
termination_by text.length

theorem dropReturn_of_not_mem {line : List Char} (plain : '\r' ∉ line) : dropReturn line = line :=
  if_neg fun last => plain (List.mem_of_getLast? last)

theorem dropReturn_concat (line : List Char) : dropReturn (line ++ ['\r']) = line := by
  simp [dropReturn]

theorem linesOf_of_not_mem {line : List Char} (free : '\n' ∉ line) (nonempty : line ≠ []) :
    linesOf line = [line] := by
  obtain ⟨c, rest, rfl⟩ := List.exists_cons_of_ne_nil nonempty
  simp [linesOf, splitChars_of_not_mem '\n' free]

/-- The first line feed ends the first line. -/
theorem linesOf_append_cons {line : List Char} (free : '\n' ∉ line) (rest : List Char) :
    linesOf (line ++ '\n' :: rest) = dropReturn line :: linesOf rest := by
  have cut := splitChars_append '\n' line rest
  rw [splitChars_of_not_mem '\n' free, List.singleton_append] at cut
  obtain ⟨piece, pieces, behind⟩ := List.exists_cons_of_ne_nil (splitChars_ne_nil '\n' rest)
  rw [linesOf, linesOf, cut, behind, List.getLast?_cons_cons, List.dropLast_cons_cons]
  split
  · rfl
  · rfl
  · next none => simp at none

theorem LineAt.subset {text line : List Char} {number : Nat} (isLine : LineAt text number line) :
    line ⊆ text := by
  induction isLine with
  | last free nonempty => exact List.Subset.refl _
  | first free rest => exact List.subset_append_left _ _
  | later free behind ih =>
    exact List.subset_append_of_subset_right _ (List.subset_cons_of_subset _ ih)

/-- The numbers of lines are their places, counted from one. -/
theorem lineAt_iff {text line : List Char} {number : Nat} (plain : '\r' ∉ text) :
    LineAt text number line ↔ ∃ place, number = place + 1 ∧ (linesOf text)[place]? = some line := by
  constructor
  · intro isLine
    induction isLine with
    | last free nonempty => exact ⟨0, rfl, by rw [linesOf_of_not_mem free nonempty]; rfl⟩
    | first free rest =>
      simp only [List.mem_append, not_or] at plain
      exact ⟨0, rfl, by rw [linesOf_append_cons free, dropReturn_of_not_mem plain.1]; rfl⟩
    | later free behind ih =>
      simp only [List.mem_append, List.mem_cons, not_or] at plain
      obtain ⟨place, rfl, found⟩ := ih plain.2.2
      exact ⟨place + 1, rfl, by rw [linesOf_append_cons free, List.getElem?_cons_succ, found]⟩
  · rintro ⟨place, rfl, found⟩
    induction text using line_induction generalizing place with
    | last only free =>
      by_cases empty : only = []
      · subst empty
        cases found
      · rw [linesOf_of_not_mem free empty] at found
        obtain ⟨rfl, rfl⟩ : place = 0 ∧ only = line := by
          simpa [List.getElem?_singleton, and_comm] using found
        exact .last free empty
    | cons front rest free ih =>
      simp only [List.mem_append, List.mem_cons, not_or] at plain
      rw [linesOf_append_cons free, dropReturn_of_not_mem plain.1] at found
      cases place with
      | zero =>
        obtain rfl : front = line := by simpa using found
        exact .first free rest
      | succ place => exact .later free (ih plain.2.2 place (by simpa using found))

/-! #### The last line -/

theorem rtakeWhile_append_cons (line rest : List Char) :
    (line ++ '\n' :: rest).rtakeWhile (· ≠ '\n') = rest.rtakeWhile (· ≠ '\n') := by
  rw [List.rtakeWhile, List.rtakeWhile, List.reverse_append, List.reverse_cons, List.append_assoc,
    List.takeWhile_append]
  split
  · next whole =>
    rw [(List.takeWhile_prefix fun c : Char => decide (c ≠ '\n')).eq_of_length whole]
    simp
  · rfl

/-- If no line feed ends a text, then there is one line more than line feeds, and the last line is
what stands behind them. -/
theorem linesOf_of_unended {text : List Char} (nonempty : text ≠ [])
    (unended : text.getLast? ≠ some '\n') :
    (linesOf text).length = text.count '\n' + 1 ∧
      (linesOf text).getLast? = some (text.rtakeWhile (· ≠ '\n')) := by
  induction text using line_induction with
  | last line free =>
    have whole : line.rtakeWhile (· ≠ '\n') = line :=
      List.rtakeWhile_eq_self_iff.mpr fun c member => by
        simpa using fun same : c = '\n' => free (same ▸ member)
    rw [linesOf_of_not_mem free nonempty, List.count_eq_zero_of_not_mem free, whole]
    exact ⟨rfl, rfl⟩
  | cons line rest free ih =>
    have more : rest ≠ [] := by
      rintro rfl
      exact unended List.getLast?_concat
    have behind : (line ++ '\n' :: rest).getLast? = rest.getLast? := by
      obtain ⟨c, others, rfl⟩ := List.exists_cons_of_ne_nil more
      rw [List.getLast?_append, List.getLast?_cons_cons, List.getLast?_cons, Option.some_or]
    obtain ⟨count, last⟩ := ih more (behind ▸ unended)
    rw [linesOf_append_cons free, rtakeWhile_append_cons, List.length_cons, count,
      List.count_append, List.count_cons_self, List.count_eq_zero_of_not_mem free, Nat.zero_add]
    refine ⟨rfl, ?_⟩
    rw [List.getLast?_cons, last]
    rfl

/-! #### Carriage returns -/

theorem withReturns_of_not_mem {line : List Char} (free : '\n' ∉ line) :
    withReturns line = line := by
  have kept : ∀ c ∈ line, (if c = '\n' then ['\r', '\n'] else [c]) = [c] := fun c member =>
    if_neg fun same : c = '\n' => free (same ▸ member)
  rw [withReturns, List.flatMap_congr kept, List.flatMap_singleton']

theorem withReturns_append_cons {line : List Char} (free : '\n' ∉ line) (rest : List Char) :
    withReturns (line ++ '\n' :: rest) = line ++ ['\r'] ++ '\n' :: withReturns rest := by
  have own := withReturns_of_not_mem free
  rw [withReturns] at own
  simp [withReturns, own]

theorem getLast?_withReturns (cs : List Char) : (withReturns cs).getLast? = cs.getLast? := by
  rcases List.eq_nil_or_concat' cs with rfl | ⟨front, c, rfl⟩
  · rfl
  · rw [withReturns, List.flatMap_append, List.flatMap_singleton]
    split <;> simp [*]

/-- The lines are the same. -/
theorem linesOf_withReturns {text : List Char} (plain : '\r' ∉ text) :
    linesOf (withReturns text) = linesOf text := by
  induction text using line_induction with
  | last line free => rw [withReturns_of_not_mem free]
  | cons line rest free ih =>
    simp only [List.mem_append, List.mem_cons, not_or] at plain
    have freeToo : '\n' ∉ line ++ ['\r'] := by simp [free]
    rw [withReturns_append_cons free, linesOf_append_cons freeToo, linesOf_append_cons free,
      dropReturn_concat, dropReturn_of_not_mem plain.1, ih plain.2.2]

/-! ### Texts -/

theorem split_ne_nil (text : String) : split separator text ≠ [] := by
  rw [split, ne_eq, List.map_eq_nil_iff]
  exact splitChars_ne_nil separator _

theorem split_of_not_mem {text : String} (free : separator ∉ text.toList) :
    split separator text = [text] := by
  rw [split, splitChars_of_not_mem separator free, List.map_singleton, String.ofList_toList]

theorem not_mem_of_mem_split {text piece : String} (member : piece ∈ split separator text) :
    separator ∉ piece.toList := by
  obtain ⟨cs, inPieces, rfl⟩ := List.mem_map.mp member
  rw [String.toList_ofList]
  exact not_mem_of_mem_splitChars separator inPieces

theorem subset_of_mem_split {text piece : String} (member : piece ∈ split separator text) :
    piece.toList ⊆ text.toList := by
  obtain ⟨cs, inPieces, rfl⟩ := List.mem_map.mp member
  rw [String.toList_ofList]
  exact subset_of_mem_splitChars separator inPieces

end NfvCatalog.Text

/-! ## Capital letters

A text in capital letters stays as it is.
-/

namespace NfvCatalog.Text

private theorem toUpper_toUpper (c : Char) : c.toUpper.toUpper = c.toUpper := by
  by_cases lower : 'a'.val ≤ c.val ∧ c.val ≤ 'z'.val
  · have upper : ¬ 'a'.val ≤ c.toUpper.val := by
      rw [Char.toUpper.eq_def, dif_pos lower]
      obtain ⟨least, greatest⟩ := lower
      simp only [UInt32.le_iff_toNat_le, UInt32.toNat_add] at least greatest ⊢
      have first : 'a'.val.toNat = 97 := rfl
      have last : 'z'.val.toNat = 122 := rfl
      have distance : ('A'.val - 'a'.val).toNat = 4294967264 := rfl
      omega
    rw [Char.toUpper.eq_def, dif_neg fun both => upper both.1]
  · have kept : c.toUpper = c := by rw [Char.toUpper.eq_def, dif_neg lower]
    rw [kept, kept]

@[simp] theorem asciiUpper_asciiUpper (text : String) :
    asciiUpper (asciiUpper text) = asciiUpper text := by
  simp only [asciiUpper, String.toList_ofList, List.map_map, Function.comp_def, toUpper_toUpper]

end NfvCatalog.Text
