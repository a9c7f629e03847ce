import NfvCatalog.Document.Value
import NfvCatalog.Text.Latest

/-! # Reading property bags

Properties are mappings of opaque values. A scalar is taken in the kind that is wanted: a number as
its text, a text as the number or the truth value that it spells.
-/

namespace NfvCatalog

/-- The text of a scalar value. -/
def Value.scalarText? : Value → Option String
  | .string s => some s
  | .number n => some n.yamlText
  | .bool b => some (toString b)
  | _ => none

/-- The number of at most 64 bits that a value is or spells. -/
def Value.asWord? : Value → Option UInt64
  | .number n => n.word?
  | .string s => Digits.word? (Text.trim s)
  | _ => none

/-- The truth value that a value is or spells. -/
def Value.asTruth? : Value → Option Bool
  | .bool b => some b
  | .string s =>
    let lower := Text.asciiLower s
    if lower = "true" ∨ lower = "yes" then some true
    else if lower = "false" ∨ lower = "no" then some false
    else none
  | _ => none

namespace Value.Entries

/-- A property as text. -/
def text? (entries : Entries) (key : String) : Option String :=
  (entries.get? key).bind Value.scalarText?

/-- A property as a number of at most 64 bits. -/
def word? (entries : Entries) (key : String) : Option UInt64 :=
  (entries.get? key).bind Value.asWord?

/-- A property as a truth value. -/
def truth? (entries : Entries) (key : String) : Option Bool :=
  (entries.get? key).bind Value.asTruth?

/-- A property that is a mapping. -/
def mapping? (entries : Entries) (key : String) : Option Entries :=
  (entries.get? key).bind Value.mapping?

/-- Follow keys through nested mappings. -/
def follow? (entries : Entries) : List String → Option Value
  | [] => none
  | [key] => entries.get? key
  | key :: rest =>
    match entries.mapping? key with
    | some inner => inner.follow? rest
    | none => none

/-- A value at a path of keys separated by dots. -/
def lookup? (entries : Entries) (path : String) : Option Value :=
  entries.follow? (Text.split '.' path)

end Value.Entries

/-! ## Descriptions for messages -/

namespace Value

/-- The characters that do not show by themselves: marks that extend others, all separators but the
space, and codes without a visible character. -/
def invisible : Text.CharSet :=
  (Text.CharSet.unions
    [Text.Latest.graphemeExtend, Text.Category.separator, Text.Latest.other]).diff
    (.single ' ')

/-- A character inside a described text. -/
def describeChar (c : Char) : String :=
  if c = '"' then "\\\""
  else if c = '\\' then "\\\\"
  else if c = '\n' then "\\n"
  else if c = '\r' then "\\r"
  else if c = '\t' then "\\t"
  else if c.toNat = 0 then "\\0"
  else if invisible.has c then
    "\\u\x7b" ++ String.ofList (Nat.toDigits 16 c.toNat) ++ "\x7d"
  else String.singleton c

/-- A text in quotes for a message. -/
def describeText (text : String) : String :=
  "\"" ++ String.join (text.toList.map describeChar) ++ "\""

mutual

/-- A value with its kinds spelled out. -/
def describe : Value → String
  | .null => "Null"
  | .bool b => s!"Bool({b})"
  | .number n => "Number(" ++ n.yamlText ++ ")"
  | .string s => "String(" ++ describeText s ++ ")"
  | .sequence items => "Sequence [" ++ Text.join ", " (describeItems items) ++ "]"
  | .mapping entries => "Mapping \x7b" ++ Text.join ", " (describeEntries entries) ++ "\x7d"
  | .tagged tag value =>
    "TaggedValue \x7b tag: !" ++ tag ++ ", value: " ++ describe value ++ " \x7d"

/-- Each item described. -/
def describeItems : List Value → List String
  | [] => []
  | item :: rest => describe item :: describeItems rest

/-- Each entry described; a scalar key stands without its kind. -/
def describeEntries : List (Value × Value) → List String
  | [] => []
  | (key, value) :: rest =>
    (describeKey key ++ ": " ++ describe value) :: describeEntries rest

/-- A key described. -/
def describeKey : Value → String
  | .bool b => toString b
  | .number n => n.yamlText
  | .string s => describeText s
  | .null => "Null"
  | .sequence items => "Sequence [" ++ Text.join ", " (describeItems items) ++ "]"
  | .mapping entries => "Mapping \x7b" ++ Text.join ", " (describeEntries entries) ++ "\x7d"
  | .tagged tag value =>
    "TaggedValue \x7b tag: !" ++ tag ++ ", value: " ++ describe value ++ " \x7d"

end

end Value

end NfvCatalog
