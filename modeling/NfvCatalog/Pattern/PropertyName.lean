import NfvCatalog.Text.Age
import NfvCatalog.Text.Break

/-! # Naming sets of characters

A set of characters can be named by a property, a general category or a script, or by the value of
one of them. Names are compared without blanks, hyphens, low lines and case.
-/

namespace NfvCatalog.Pattern

open Text (CharSet Script)

/-- A set of characters, named. -/
inductive PropertyName where
  | plain (name : List Char)
  | value (property wanted : List Char)
deriving DecidableEq, Repr, Inhabited

namespace PropertyName

/-- Whether a name starts with a word that does not count. -/
def hasVoidStart (name : List Char) : Bool :=
  (name.take 2).map Char.toLower = ['i', 's']

/-- The characters of a name that count, in lower case. -/
def significant (name : List Char) : List Char :=
  let counts (c : Char) : Bool := c.toNat < 0x80 && c ≠ ' ' && c ≠ '_' && c ≠ '-'
  (name.filter counts).map Char.toLower

/-- The form in which names are compared. A void start is left out, unless the rest is the one
letter that makes another name of it. -/
def normalized (name : List Char) : List Char :=
  if hasVoidStart name then
    let rest := significant (name.drop 2)
    if rest = ['c'] then ['i', 's', 'c'] else rest
  else significant name

/-- Whether one of some names is a normalized one. -/
def isNamed (name : List Char) (names : List String) : Bool :=
  names.any fun known => significant known.toList = name

/-- The set with a normalized name. -/
def lookUp? (named : List (List String × CharSet)) (name : List Char) : Option CharSet :=
  (named.find? fun row => isNamed name row.1).map (·.2)

/-- The general category with a normalized name. -/
def category? (name : List Char) : Option CharSet := lookUp? Text.Category.named name

/-- The script with a normalized name. -/
def script? (name : List Char) : Option Script :=
  Script.list.find? fun script => isNamed name script.names

/-- The set of a plain name: that of a property, else of a category, else of a script. -/
def plain? (name : List Char) : Option CharSet :=
  lookUp? Text.Property.named name <|> category? name <|> (script? name).map Script.members

/-- The set of the characters for which a property has a wanted value. -/
def value? (property wanted : List Char) : Option CharSet :=
  if isNamed property ["gc", "General_Category"] then category? wanted
  else if isNamed property ["sc", "Script"] then (script? wanted).map Script.members
  else if isNamed property ["scx", "Script_Extensions"] then (script? wanted).map Script.users
  else if isNamed property ["age", "Age"] then Text.Age.membersBy? (isNamed wanted)
  else if isNamed property ["GCB", "Grapheme_Cluster_Break"] then lookUp? Text.Break.units wanted
  else if isNamed property ["WB", "Word_Break"] then lookUp? Text.Break.words wanted
  else if isNamed property ["SB", "Sentence_Break"] then lookUp? Text.Break.sentences wanted
  else none

/-- The set that a name stands for. -/
def members? : PropertyName → Option CharSet
  | .plain name => plain? (normalized name)
  | .value property wanted => value? (normalized property) (normalized wanted)

end PropertyName

end NfvCatalog.Pattern
