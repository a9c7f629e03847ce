import NfvCatalog.Document.Json
import NfvCatalog.Document.Record
import NfvCatalog.Document.Yaml.Printer
import NfvCatalog.Document.Yaml.Reader

/-! # The two notations of documents

A document is written in YAML or in JSON. Both readers give a node, both printers take a value, so
the shape of a document is checked apart from its text.
-/

namespace NfvCatalog

/-- The notation of a document. -/
inductive Format where
  | yaml
  | json
deriving DecidableEq, Repr, Inhabited

namespace Format

/-- The name of a notation, which is also the extension of its files. -/
def name : Format → String
  | .yaml => "yaml"
  | .json => "json"

/-- The notation with a given name, in any letter case. -/
def ofName? (name : String) : Option Format :=
  let lower := Text.asciiLower name
  if lower = "yaml" ∨ lower = "yml" then some .yaml
  else if lower = "json" then some .json
  else none

/-- The notation that the beginning of a text suggests. -/
def sniff (text : String) : Format :=
  if Text.startsWith (Text.trimStart text) "\x7b" then .json else .yaml

/-- Whether a record may be written as the bare sequence of its fields. -/
def positional : Format → Bool
  | .yaml => false
  | .json => true

/-- Read a text. -/
def read : Format → String → Except Fault Node
  | .yaml, text => Yaml.read text
  | .json, text => Json.read text

/-- Print a value. -/
def print : Format → Value → String
  | .yaml, value => Yaml.print value
  | .json, value => Json.pretty value ++ "\n"

end Format

end NfvCatalog
