import NfvCatalog.Proofs.Document.Spelling
import NfvCatalog.Proofs.Lists.Basic
import NfvCatalog.Proofs.Outcome

/-! # Texts in JSON

A value that is made of texts, lists and mappings with texts as keys is read back from the indented
text that it is printed as, whatever its texts hold, as long as it is not nested too deeply. What is
printed of each part is read up to its own end, so the parts are read one after another.
-/

namespace NfvCatalog

/-! ## Values as nodes -/

namespace Node

mutual

/-- The node of a value spells it. -/
theorem spells_ofValue : (value : Value) → (ofValue value).spells value
  | .null => by rw [ofValue, spells]
  | .bool b => by simp [ofValue, spells]
  | .number n => by simp [ofValue, spells]
  | .string s => by simp [ofValue, spells]
  | .sequence items => by rw [ofValue, spells, spellsItems_ofItems]
  | .mapping entries => by rw [ofValue, spells, spellsEntries_ofEntries]
  | .tagged tag value => by simp [ofValue, spells, spells_ofValue value]

private theorem spellsItems_ofItems : (items : List Value) → spellsItems (ofItems items) items
  | [] => by rw [ofItems, spellsItems]
  | item :: rest => by
    rw [ofItems, spellsItems, spells_ofValue item, spellsItems_ofItems rest, Bool.and_self]

private theorem spellsEntries_ofEntries :
    (entries : List (Value × Value)) → spellsEntries (ofEntries entries) entries
  | [] => by rw [ofEntries, spellsEntries]
  | (key, value) :: rest => by
    rw [ofEntries, spellsEntries, spells_ofValue key, spells_ofValue value,
      spellsEntries_ofEntries rest, Bool.and_self, Bool.and_self]

end

end Node

end NfvCatalog

namespace NfvCatalog.Json

/-! ## White space -/

/-- A line starts with white space only. -/
theorem isSpace_lineStart (level : Nat) : ∀ c ∈ (lineStart level).toList, isSpace c = true := by
  intro c member
  have either : c = '\n' ∨ c ∈ List.replicate (2 * level) ' ' := by simpa [lineStart] using member
  rcases either with rfl | blank
  · rfl
  · rw [List.eq_of_mem_replicate blank]
    rfl

theorem skip_append {spaces : List Char} (blank : ∀ c ∈ spaces, isSpace c = true)
    (cs : List Char) : skip (spaces ++ cs) = skip cs := List.dropWhile_append_of_pos blank

theorem skip_cons {c : Char} (visible : isSpace c = false) (cs : List Char) :
    skip (c :: cs) = c :: cs := List.dropWhile_cons_of_neg (by simp [visible])

/-- White space before a value does not count. -/
theorem value_congr {cs ds : List Char} (same : skip cs = skip ds) (fuel depth : Nat) :
    value fuel depth cs = value fuel depth ds := by
  cases fuel with
  | zero => rfl
  | succ fuel => rw [value, value, same]

/-! ## Quoted texts -/

/-- The digits of a control character are those of its number. -/
private theorem hex4?_hexPadded {n : Nat} (control : n < 0x20) (rest : List Char) :
    hex4? ((Digits.hexPadded 4 n).toList ++ rest) = some (n, rest) := by
  have all : ∀ n : Fin 0x20, (Digits.hexPadded 4 n).toList.length = 4 ∧
      Digits.nat? 16 (Digits.hexPadded 4 n).toList = some n.1 := by decide
  obtain ⟨four, digits⟩ := all ⟨n, control⟩
  match chars : (Digits.hexPadded 4 n).toList with
  | [a, b, c, d] =>
    simp only [chars] at digits
    simp [hex4?, digits]
  | [] | [_] | [_, _] | [_, _, _] | _ :: _ :: _ :: _ :: _ :: _ => simp [chars] at four

/-- A control character is read from its number. -/
private theorem unicodeEscape_hexPadded {c : Char} (control : c.toNat < 0x20) (rest : List Char) :
    unicodeEscape ((Digits.hexPadded 4 c.toNat).toList ++ rest) = .ok (some c, rest) := by
  have leading : isLeading c.toNat = false := by
    simp only [isLeading, Bool.and_eq_false_iff, decide_eq_false_iff_not]
    omega
  have trailing : isTrailing c.toNat = false := by
    simp only [isTrailing, Bool.and_eq_false_iff, decide_eq_false_iff_not]
    omega
  simp [unicodeEscape, hex4?_hexPadded control, leading, trailing, Char.ofNat_toNat]

/-- A character inside a quoted text is read from the way it is written. -/
theorem stringBody_escapeChar (c : Char) (fuel : Nat) (done rest : List Char) :
    stringBody (fuel + 1) (some done) ((escapeChar c).toList ++ rest) =
      stringBody fuel (some (c :: done)) rest := by
  have code {n : Nat} (number : c.toNat = n) : c = Char.ofNat n := by
    rw [← number, Char.ofNat_toNat]
  rw [escapeChar]
  split
  · next quote =>
    subst quote
    rfl
  split
  · next backslash =>
    subst backslash
    rfl
  split
  · next feed =>
    subst feed
    rfl
  split
  · next ret =>
    subst ret
    rfl
  split
  · next tab =>
    subst tab
    rfl
  split
  · next back =>
    rw [code back]
    rfl
  split
  · next page =>
    rw [code page]
    rfl
  split
  · next control =>
    have written : ("\\u" ++ Digits.hexPadded 4 c.toNat).toList ++ rest =
        '\\' :: 'u' :: ((Digits.hexPadded 4 c.toNat).toList ++ rest) := by simp
    rw [written, stringBody, unicodeEscape_hexPadded control]
    rfl
  · next _ backslash _ _ _ _ _ plain =>
    rw [String.toList_singleton, List.singleton_append, stringBody.eq_def]
    simp [backslash, plain]

/-- The characters of a text as they are written between quotes. -/
def escaped (text : String) : List Char := text.toList.flatMap fun c => (escapeChar c).toList

theorem toList_quote (text : String) : (quote text).toList = '"' :: (escaped text ++ ['"']) := by
  simp [quote, escaped, String.toList_join, List.flatMap_map]

/-- A quoted text is read up to its closing quote. -/
theorem stringBody_escaped (text : String) {fuel : Nat} (enough : text.toList.length < fuel)
    (rest : List Char) :
    stringBody fuel (some []) (escaped text ++ '"' :: rest) = .ok (some text, rest) := by
  have step (cs done : List Char) (fuel : Nat) (enough : cs.length < fuel) :
      stringBody fuel (some done) (cs.flatMap (fun c => (escapeChar c).toList) ++ '"' :: rest) =
        .ok (some (String.ofList (done.reverse ++ cs)), rest) := by
    induction cs generalizing done fuel with
    | nil =>
      obtain ⟨fuel, rfl⟩ := Nat.exists_eq_succ_of_ne_zero (Nat.ne_zero_of_lt enough)
      simp [stringBody]
    | cons c cs ih =>
      obtain ⟨fuel, rfl⟩ := Nat.exists_eq_succ_of_ne_zero (Nat.ne_zero_of_lt enough)
      rw [List.flatMap_cons, List.append_assoc, stringBody_escapeChar,
        ih _ _ (Nat.lt_of_succ_lt_succ enough)]
      simp
  rw [escaped, step text.toList [] fuel enough, List.reverse_nil, List.nil_append,
    String.ofList_toList]

/-- No character is written as nothing. -/
theorem length_le_escaped (text : String) : text.toList.length ≤ (escaped text).length := by
  have each (c : Char) : 1 ≤ (escapeChar c).toList.length := by
    refine List.length_pos_iff.mpr fun empty => ?_
    -- Read as nothing, the character would not be there.
    have read := stringBody_escapeChar c 1 [] ['"']
    rw [empty] at read
    simp [stringBody] at read
  rw [escaped]
  induction text.toList with
  | nil => exact Nat.le_refl 0
  | cons c cs ih =>
    have own := each c
    rw [List.flatMap_cons, List.length_append, List.length_cons]
    omega

/-- A quoted text is read as the text. -/
theorem value_quote (text : String) (fuel depth : Nat) (rest : List Char) :
    value (fuel + 1) depth ((quote text).toList ++ rest) = .ok (.text text, rest) := by
  have enough : text.toList.length < (escaped text ++ '"' :: rest).length + 1 := by
    have within := length_le_escaped text
    rw [List.length_append]
    omega
  have read := stringBody_escaped text enough rest
  rw [toList_quote, List.cons_append, List.append_assoc, List.singleton_append, value,
    skip_cons rfl]
  change (stringBody _ (some []) (escaped text ++ '"' :: rest) >>= _) = _
  rw [read]
  rfl

/-! ## Lists and mappings -/

/-- A text that begins with a visible character other than a bracket. -/
def Begins (bracket : Char) (text : List Char) : Prop :=
  ∃ c rest, text = c :: rest ∧ isSpace c = false ∧ c ≠ bracket

theorem Begins.append {bracket : Char} {text : List Char} (begins : Begins bracket text)
    (rest : List Char) : Begins bracket (text ++ rest) := by
  obtain ⟨c, inner, rfl, visible, apart⟩ := begins
  exact ⟨c, inner ++ rest, rfl, visible, apart⟩

/-- A joined text begins as its first part does. -/
theorem begins_intercalate {bracket : Char} {texts : List (List Char)} (separator : List Char)
    (several : texts ≠ []) (each : ∀ text ∈ texts, Begins bracket text) :
    Begins bracket (separator.intercalate texts) := by
  match texts with
  | [] => exact absurd rfl several
  | [text] =>
    rw [List.intercalate_singleton]
    exact each text (List.mem_singleton_self text)
  | text :: other :: rest =>
    rw [List.intercalate_cons_cons, List.append_assoc]
    exact (each text List.mem_cons_self).append _

/-- A bracket and items behind it are a list of these. -/
theorem value_sequence {gap cs : List Char} (blank : ∀ c ∈ gap, isSpace c = true)
    (begins : Begins ']' cs) (fuel depth : Nat) :
    value (fuel + 1) depth ('[' :: (gap ++ cs)) =
      (items fuel (depth - 1) cs).map fun read => (atDepth depth (.sequence read.1), read.2) := by
  obtain ⟨c, inner, rfl, visible, more⟩ := begins
  rw [value, skip_cons rfl]
  simp only [skip_append blank, skip_cons visible]
  split
  · next closed => exact absurd (List.cons.inj closed).1 more
  · cases items fuel (depth - 1) (c :: inner) <;> rfl

/-- A brace and members behind it are a mapping of these. -/
theorem value_mapping {gap cs : List Char} (blank : ∀ c ∈ gap, isSpace c = true)
    (begins : Begins '\x7d' cs) (fuel depth : Nat) :
    value (fuel + 1) depth ('\x7b' :: (gap ++ cs)) =
      (members fuel (depth - 1) cs).map fun read => (atDepth depth (.mapping read.1), read.2) := by
  obtain ⟨c, inner, rfl, visible, more⟩ := begins
  rw [value, skip_cons rfl]
  simp only [skip_append blank, skip_cons visible]
  split
  · next closed => exact absurd (List.cons.inj closed).1 more
  · cases members fuel (depth - 1) (c :: inner) <;> rfl

theorem items_congr {cs ds : List Char} (same : skip cs = skip ds) (fuel depth : Nat) :
    items fuel depth cs = items fuel depth ds := by
  cases fuel with
  | zero => rfl
  | succ fuel => rw [items, items, value_congr same]

theorem members_congr {cs ds : List Char} (same : skip cs = skip ds) (fuel depth : Nat) :
    members fuel depth cs = members fuel depth ds := by
  cases fuel with
  | zero => rfl
  | succ fuel => rw [members, members, same]

/-- A text that is read as a node, whatever follows it. -/
structure Prints (depth : Nat) (text : List Char) (node : Node) : Prop where
  begins : Begins ']' text
  read {fuel : Nat} (enough : text.length ≤ fuel) (rest : List Char) :
    value fuel depth (text ++ rest) = .ok (node, rest)

/-- A text that is read as the only member of a mapping. -/
def PrintsMember (depth : Nat) (text : List Char) (entry : Node × Node) : Prop :=
  ∃ name inner, text = (quote name).toList ++ (':' :: ' ' :: inner) ∧ entry.1 = .text name ∧
    Prints depth inner entry.2

/-- A member is read as its key and what is read behind the colon. -/
theorem members_quote {name : String} {fuel depth : Nat} {cs after : List Char} {item : Node}
    (read : value fuel depth cs = .ok (item, after)) :
    members (fuel + 1) depth ((quote name).toList ++ ':' :: cs) =
      match skip after with
      | ',' :: rest => do
        let (others, rest) ← members fuel depth rest
        return ((.text name, item) :: others, rest)
      | '\x7d' :: rest => return ([(.text name, item)], rest)
      | _ => throw (fault "expected ',' or a closing brace") := by
  have enough : name.toList.length < (escaped name ++ '"' :: ':' :: cs).length + 1 := by
    have within := length_le_escaped name
    rw [List.length_append]
    omega
  have key := stringBody_escaped name enough (':' :: cs)
  rw [toList_quote, List.cons_append, List.append_assoc, List.singleton_append, members,
    skip_cons rfl]
  change (stringBody _ (some []) (escaped name ++ '"' :: ':' :: cs) >>= _) = _
  rw [key, ok_bind]
  simp only [skip_cons (c := ':') rfl, read, ok_bind]
  rfl

section

variable {depth : Nat} {gap close : List Char} (blankGap : ∀ c ∈ gap, isSpace c = true)
  (blankClose : ∀ c ∈ close, isSpace c = true)
include blankGap blankClose

/-- Items between commas are read up to the bracket behind them. -/
theorem items_intercalate {texts : List (List Char)} {nodes : List Node}
    (each : List.Forall₂ (Prints depth) texts nodes) (several : texts ≠ []) {fuel : Nat}
    (enough : ((',' :: gap).intercalate texts).length < fuel) (rest : List Char) :
    items fuel depth ((',' :: gap).intercalate texts ++ (close ++ ']' :: rest)) =
      .ok (nodes, rest) := by
  induction each generalizing fuel with
  | nil => exact absurd rfl several
  | cons own others ih =>
    obtain ⟨fuel, rfl⟩ := Nat.exists_eq_succ_of_ne_zero (Nat.ne_zero_of_lt enough)
    cases others with
    | nil =>
      rw [List.intercalate_singleton] at enough ⊢
      rw [items, own.read (Nat.le_of_lt_succ enough), ok_bind]
      simp only [skip_append blankClose, skip_cons (c := ']') rfl]
      rfl
    | cons =>
      rw [List.intercalate_cons_cons] at enough ⊢
      simp only [List.length_append, List.length_cons] at enough
      have tail := ih (by simp) (show _ < fuel by omega)
      rw [List.append_assoc, List.append_assoc, items, own.read (by omega), ok_bind]
      simp only [List.cons_append, skip_cons (c := ',') rfl]
      rw [items_congr (skip_append blankGap _), tail]
      rfl

/-- Members between commas are read up to the brace behind them. -/
theorem members_intercalate {texts : List (List Char)} {entries : List (Node × Node)}
    (each : List.Forall₂ (PrintsMember depth) texts entries) (several : texts ≠ []) {fuel : Nat}
    (enough : ((',' :: gap).intercalate texts).length < fuel) (rest : List Char) :
    members fuel depth ((',' :: gap).intercalate texts ++ (close ++ '\x7d' :: rest)) =
      .ok (entries, rest) := by
  induction each generalizing fuel with
  | nil => exact absurd rfl several
  | cons own others ih =>
    obtain ⟨fuel, rfl⟩ := Nat.exists_eq_succ_of_ne_zero (Nat.ne_zero_of_lt enough)
    obtain ⟨name, inner, rfl, key, own⟩ := own
    have blank (after : List Char) : skip (' ' :: (inner ++ after)) = skip (inner ++ after) := rfl
    have written (after : List Char) : (quote name).toList ++ ':' :: ' ' :: inner ++ after =
        (quote name).toList ++ ':' :: (' ' :: (inner ++ after)) := by simp
    cases others with
    | nil =>
      rw [List.intercalate_singleton] at enough ⊢
      simp only [List.length_append, List.length_cons] at enough
      have read := own.read (show _ ≤ fuel by omega) (close ++ '\x7d' :: rest)
      rw [written, members_quote ((value_congr (blank _) fuel depth).trans read)]
      simp only [skip_append blankClose, skip_cons (c := '\x7d') rfl, ← key]
      rfl
    | cons =>
      rw [List.intercalate_cons_cons] at enough ⊢
      simp only [List.length_append, List.length_cons] at enough
      have tail := ih (by simp) (show _ < fuel by omega)
      rw [List.append_assoc, List.append_assoc, written,
        members_quote ((value_congr (blank _) fuel depth).trans (own.read (by omega) _))]
      simp only [List.cons_append, skip_cons (c := ',') rfl]
      rw [members_congr (skip_append blankGap _), tail, ok_bind, ← key]
      rfl

end

/-! ## Printed values -/

theorem indentedItems_eq (level : Nat) (items : List Value) :
    indentedItems level items = items.map (indented level) := by
  induction items with
  | nil => rfl
  | cons item rest ih => rw [indentedItems, ih, List.map_cons]

theorem indentedEntries_ofFields (level : Nat) (fields : List (String × Value)) :
    indentedEntries level (fields.map fun field => (.string field.1, field.2)) =
      fields.map fun field => quote field.1 ++ ": " ++ indented level field.2 := by
  induction fields with
  | nil => rfl
  | cons field rest ih =>
    rw [List.map_cons, indentedEntries, ih, List.map_cons]
    rfl

theorem toList_bracketed (level : Nat) {first last : Char} {members : List String}
    (several : members ≠ []) :
    (bracketed level (String.singleton first) (String.singleton last) members).toList =
      first :: ((lineStart (level + 1)).toList ++
        ((',' :: (lineStart (level + 1)).toList).intercalate (members.map String.toList) ++
          ((lineStart level).toList ++ [last]))) := by
  have nonempty : members.isEmpty = false := by simpa using several
  simp [bracketed, nonempty, String.toList_intercalate]

theorem toList_bracketed_nil (level : Nat) (first last : Char) :
    (bracketed level (String.singleton first) (String.singleton last) []).toList =
      [first, last] := by
  simp [bracketed]

section

variable {depth level : Nat} {texts : List String}

/-- Texts in brackets are read as the list of what is read of them. -/
theorem Prints.sequence {nodes : List Node}
    (each : List.Forall₂ (fun text => Prints depth text.toList) texts nodes) :
    Prints (depth + 1) (bracketed level (String.singleton '[') (String.singleton ']') texts).toList
      (.sequence nodes) := by
  rcases eq_or_ne texts [] with rfl | several
  · obtain rfl := List.forall₂_nil_left_iff.mp each
    rw [toList_bracketed_nil]
    refine ⟨⟨'[', [']'], rfl, rfl, by decide⟩, fun {fuel} enough rest => ?_⟩
    obtain ⟨fuel, rfl⟩ := Nat.exists_eq_succ_of_ne_zero (Nat.ne_zero_of_lt enough)
    rfl
  have several : texts.map String.toList ≠ [] := by simpa using several
  have begins (text : List Char) (member : text ∈ texts.map String.toList) : Begins ']' text := by
    obtain ⟨printed, isPrinted, rfl⟩ := List.mem_map.mp member
    obtain ⟨node, -, own⟩ := exists_of_mem_left each isPrinted
    exact own.begins
  rw [toList_bracketed level (by simpa using several)]
  refine ⟨⟨'[', _, rfl, rfl, by decide⟩, fun {fuel} enough rest => ?_⟩
  obtain ⟨fuel, rfl⟩ := Nat.exists_eq_succ_of_ne_zero (Nat.ne_zero_of_lt enough)
  simp only [List.length_cons, List.length_append, List.length_nil] at enough
  have inside := items_intercalate (isSpace_lineStart (level + 1)) (isSpace_lineStart level)
    (List.forall₂_map_left_iff.mpr each) several (show _ < fuel by omega) rest
  simp only [List.cons_append, List.append_assoc, List.nil_append]
  rw [value_sequence (isSpace_lineStart (level + 1))
    ((begins_intercalate _ several begins).append _), Nat.add_sub_cancel, inside]
  rfl

/-- Members in braces are read as the mapping of what is read of them. -/
theorem Prints.mapping {entries : List (Node × Node)}
    (each : List.Forall₂ (fun text => PrintsMember depth text.toList) texts entries) :
    Prints (depth + 1)
      (bracketed level (String.singleton '\x7b') (String.singleton '\x7d') texts).toList
      (.mapping entries) := by
  rcases eq_or_ne texts [] with rfl | several
  · obtain rfl := List.forall₂_nil_left_iff.mp each
    rw [toList_bracketed_nil]
    refine ⟨⟨'\x7b', ['\x7d'], rfl, rfl, by decide⟩, fun {fuel} enough rest => ?_⟩
    obtain ⟨fuel, rfl⟩ := Nat.exists_eq_succ_of_ne_zero (Nat.ne_zero_of_lt enough)
    rfl
  have several : texts.map String.toList ≠ [] := by simpa using several
  have begins (text : List Char) (member : text ∈ texts.map String.toList) :
      Begins '\x7d' text := by
    obtain ⟨printed, isPrinted, rfl⟩ := List.mem_map.mp member
    obtain ⟨entry, -, name, inner, written, -⟩ := exists_of_mem_left each isPrinted
    rw [written, toList_quote]
    exact ⟨'"', _, rfl, rfl, by decide⟩
  rw [toList_bracketed level (by simpa using several)]
  refine ⟨⟨'\x7b', _, rfl, rfl, by decide⟩, fun {fuel} enough rest => ?_⟩
  obtain ⟨fuel, rfl⟩ := Nat.exists_eq_succ_of_ne_zero (Nat.ne_zero_of_lt enough)
  simp only [List.length_cons, List.length_append, List.length_nil] at enough
  have inside := members_intercalate (isSpace_lineStart (level + 1)) (isSpace_lineStart level)
    (List.forall₂_map_left_iff.mpr each) several (show _ < fuel by omega) rest
  simp only [List.cons_append, List.append_assoc, List.nil_append]
  rw [value_mapping (isSpace_lineStart (level + 1))
    ((begins_intercalate _ several begins).append _), Nat.add_sub_cancel, inside]
  rfl

end

/-- A value made of texts, with at most so many levels of lists and mappings. -/
inductive IsTextual : Nat → Value → Prop
  | string (depth : Nat) (text : String) : IsTextual depth (.string text)
  | sequence {depth : Nat} {items : List Value} (each : ∀ item ∈ items, IsTextual depth item) :
      IsTextual (depth + 1) (.sequence items)
  | ofFields {depth : Nat} {fields : List (String × Value)}
      (each : ∀ field ∈ fields, IsTextual depth field.2) : IsTextual (depth + 1) (.ofFields fields)

theorem ofItems_eq (items : List Value) : Node.ofItems items = items.map Node.ofValue := by
  induction items with
  | nil => rfl
  | cons item rest ih => rw [Node.ofItems, ih, List.map_cons]

theorem ofEntries_ofFields (fields : List (String × Value)) :
    Node.ofEntries (fields.map fun field => (.string field.1, field.2)) =
      fields.map fun field => (.text field.1, Node.ofValue field.2) := by
  induction fields with
  | nil => rfl
  | cons field rest ih =>
    rw [List.map_cons, Node.ofEntries, ih, List.map_cons]
    rfl

/-- A value made of texts is read as it is printed, whatever follows it. -/
theorem IsTextual.prints {depth : Nat} {value : Value} (textual : IsTextual depth value)
    (level : Nat) : Prints depth (indented level value).toList (.ofValue value) := by
  induction textual generalizing level with
  | string depth text =>
    refine ⟨⟨'"', _, toList_quote text, rfl, by decide⟩, fun {fuel} enough rest => ?_⟩
    rw [indented, toList_quote] at enough
    obtain ⟨fuel, rfl⟩ := Nat.exists_eq_succ_of_ne_zero (Nat.ne_zero_of_lt enough)
    exact value_quote text fuel depth rest
  | sequence each ih =>
    rw [indented, indentedItems_eq, Node.ofValue, ofItems_eq]
    refine Prints.sequence ?_
    rw [List.forall₂_map_left_iff, List.forall₂_map_right_iff, List.forall₂_same]
    exact fun item member => ih item member (level + 1)
  | ofFields each ih =>
    rw [Value.ofFields, indented, indentedEntries_ofFields, Node.ofValue, ofEntries_ofFields]
    refine Prints.mapping ?_
    rw [List.forall₂_map_left_iff, List.forall₂_map_right_iff, List.forall₂_same]
    exact fun field member => ⟨field.1, _, by simp, rfl, ih field member (level + 1)⟩

end NfvCatalog.Json
