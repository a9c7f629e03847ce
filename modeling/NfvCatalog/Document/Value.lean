import NfvCatalog.Number.Binary64
import NfvCatalog.Text.Blank

/-! # Document values

A document of any notation is a tree of scalars, sequences and mappings. A mapping keeps the order
of its entries; its keys may be any value. A tagged value carries an application's own mark.
-/

namespace NfvCatalog

/-- A value in a document. -/
inductive Value where
  | null
  | bool (value : Bool)
  | number (value : Number)
  | string (value : String)
  | sequence (items : List Value)
  | mapping (entries : List (Value × Value))
  | tagged (tag : String) (value : Value)
deriving Repr, Inhabited

namespace Value

/-- The entries of a mapping. -/
abbrev Entries := List (Value × Value)

mutual

/-- Equality of values is decidable by walking both trees. -/
def decEq : (left right : Value) → Decidable (left = right)
  | .null, right => match right with
    | .null => isTrue rfl
    | .bool _ | .number _ | .string _ | .sequence _ | .mapping _ | .tagged .. =>
      isFalse (by intro equal; cases equal)
  | .bool b, right => match right with
    | .bool c =>
      if same : b = c then isTrue (by rw [same])
      else isFalse (by intro equal; cases equal; exact same rfl)
    | .null | .number _ | .string _ | .sequence _ | .mapping _ | .tagged .. =>
      isFalse (by intro equal; cases equal)
  | .number b, right => match right with
    | .number c =>
      if same : b = c then isTrue (by rw [same])
      else isFalse (by intro equal; cases equal; exact same rfl)
    | .null | .bool _ | .string _ | .sequence _ | .mapping _ | .tagged .. =>
      isFalse (by intro equal; cases equal)
  | .string b, right => match right with
    | .string c =>
      if same : b = c then isTrue (by rw [same])
      else isFalse (by intro equal; cases equal; exact same rfl)
    | .null | .bool _ | .number _ | .sequence _ | .mapping _ | .tagged .. =>
      isFalse (by intro equal; cases equal)
  | .sequence xs, right => match right with
    | .sequence ys => match decEqItems xs ys with
      | isTrue same => isTrue (by rw [same])
      | isFalse differ => isFalse (by intro equal; cases equal; exact differ rfl)
    | .null | .bool _ | .number _ | .string _ | .mapping _ | .tagged .. =>
      isFalse (by intro equal; cases equal)
  | .mapping xs, right => match right with
    | .mapping ys => match decEqEntries xs ys with
      | isTrue same => isTrue (by rw [same])
      | isFalse differ => isFalse (by intro equal; cases equal; exact differ rfl)
    | .null | .bool _ | .number _ | .string _ | .sequence _ | .tagged .. =>
      isFalse (by intro equal; cases equal)
  | .tagged s v, right => match right with
    | .tagged t w =>
      if sameTag : s = t then
        match decEq v w with
        | isTrue same => isTrue (by rw [sameTag, same])
        | isFalse differ => isFalse (by intro equal; cases equal; exact differ rfl)
      else isFalse (by intro equal; cases equal; exact sameTag rfl)
    | .null | .bool _ | .number _ | .string _ | .sequence _ | .mapping _ =>
      isFalse (by intro equal; cases equal)

/-- Equality of sequences, item by item. -/
def decEqItems : (left right : List Value) → Decidable (left = right)
  | [], [] => isTrue rfl
  | [], _ :: _ => isFalse (by intro equal; cases equal)
  | _ :: _, [] => isFalse (by intro equal; cases equal)
  | v :: vs, w :: ws =>
    match decEq v w, decEqItems vs ws with
    | isTrue same, isTrue sameRest => isTrue (by rw [same, sameRest])
    | isFalse differ, _ => isFalse (by intro equal; cases equal; exact differ rfl)
    | _, isFalse differ => isFalse (by intro equal; cases equal; exact differ rfl)

/-- Equality of mappings, entry by entry in order. -/
def decEqEntries : (left right : List (Value × Value)) → Decidable (left = right)
  | [], [] => isTrue rfl
  | [], _ :: _ => isFalse (by intro equal; cases equal)
  | _ :: _, [] => isFalse (by intro equal; cases equal)
  | (k, v) :: vs, (l, w) :: ws =>
    match decEq k l, decEq v w, decEqEntries vs ws with
    | isTrue sameKey, isTrue same, isTrue sameRest => isTrue (by rw [sameKey, same, sameRest])
    | isFalse differ, _, _ => isFalse (by intro equal; cases equal; exact differ rfl)
    | _, isFalse differ, _ => isFalse (by intro equal; cases equal; exact differ rfl)
    | _, _, isFalse differ => isFalse (by intro equal; cases equal; exact differ rfl)

end

instance : DecidableEq Value := decEq

/-! ## Likeness

Two values are alike when they say the same: zeros of both signs are alike, and so are mappings with
the same entries in another order. No mapping has two keys that are alike.
-/

/-- Whether two numbers are alike. -/
def alikeNumbers : Number → Number → Bool
  | .float x, .float y => x = y || (x.isZero && y.isZero)
  | m, n => m = n

mutual

/-- Whether two values are alike. -/
def alike : Value → Value → Bool
  | .null, .null => true
  | .bool b, .bool c => b = c
  | .number m, .number n => alikeNumbers m n
  | .string s, .string t => s = t
  | .sequence xs, .sequence ys => alikeItems xs ys
  | .mapping xs, .mapping ys => xs.length = ys.length && alikeEntries xs ys
  | .tagged s v, .tagged t w => s = t && alike v w
  | _, _ => false

/-- Whether two lists of values are alike, item by item. -/
def alikeItems : List Value → List Value → Bool
  | [], [] => true
  | v :: vs, w :: ws => alike v w && alikeItems vs ws
  | _, _ => false

/-- Whether every entry of the first list has its like in the second. -/
def alikeEntries : List (Value × Value) → List (Value × Value) → Bool
  | [], _ => true
  | (key, value) :: rest, others =>
    others.any (fun other => alike key other.1 && alike value other.2) && alikeEntries rest others

end

/-- A natural number as a value. -/
def ofNat (n : Nat) : Value := .number (.int n)

/-- A list of texts as a value. -/
def ofStrings (texts : List String) : Value := .sequence (texts.map .string)

/-- A mapping from named entries. -/
def ofFields (fields : List (String × Value)) : Value :=
  .mapping (fields.map fun field => (.string field.1, field.2))

/-- The value without its tags. -/
def untagged : Value → Value
  | .tagged _ value => value.untagged
  | value => value

/-- The text of a string value, tags aside. -/
def string? (value : Value) : Option String :=
  match value.untagged with
  | .string text => some text
  | _ => none

/-- The entries of a mapping value, tags aside. -/
def mapping? (value : Value) : Option Entries :=
  match value.untagged with
  | .mapping entries => some entries
  | _ => none

end Value

/-! ## Mappings -/

namespace Value.Entries

/-- The value stored under a text key. -/
def get? (entries : Entries) (key : String) : Option Value :=
  (entries.find? fun entry => entry.1 = .string key).map Prod.snd

/-- Whether a text key is present. -/
def contains (entries : Entries) (key : String) : Bool := (entries.get? key).isSome

/-- Store a value under a key. A replaced entry keeps its place. -/
def insert : Entries → Value → Value → Entries
  | [], key, value => [(key, value)]
  | entry :: rest, key, value =>
    if entry.1 = key then (entry.1, value) :: rest else entry :: insert rest key value

/-- Store a value under a text key. -/
def set (entries : Entries) (key : String) (value : Value) : Entries :=
  entries.insert (.string key) value

/-- Put an entry into a list sorted by key text; an equal key is replaced. -/
def insertSorted (key : String) (value : Value) : Entries → Entries
  | [] => [(.string key, value)]
  | (k, v) :: rest =>
    match k with
    | .string other =>
      if key = other then (.string key, value) :: rest
      else if key < other then (.string key, value) :: (k, v) :: rest
      else (k, v) :: insertSorted key value rest
    | _ => (k, v) :: insertSorted key value rest

end Value.Entries

end NfvCatalog

/-! ## What can be wrong with a document

One type for faults of text, of notation and of shape. The wording is only for readers; no decision
depends on it.
-/

namespace NfvCatalog

/-- A reason why a text is not a document of the wanted shape. -/
inductive Fault where
  | text (reason : String) (line column : Nat)
  | expected (what : String)
  | missingField (name : String)
  | duplicateField (name : String)
  | duplicateKey (name : String)
  | tooManyItems
  | tooDeep
  | other (reason : String)
deriving DecidableEq, Repr, Inhabited

/-- The wording of a fault. -/
def Fault.message : Fault → String
  | .text reason line column => s!"{reason} at line {line} column {column}"
  | .expected what => s!"invalid type: expected {what}"
  | .missingField name => "missing field '" ++ name ++ "'"
  | .duplicateField name => "duplicate field '" ++ name ++ "'"
  | .duplicateKey name => "duplicate key '" ++ name ++ "'"
  | .tooManyItems => "too many items"
  | .tooDeep => "recursion limit exceeded"
  | .other reason => reason

end NfvCatalog
