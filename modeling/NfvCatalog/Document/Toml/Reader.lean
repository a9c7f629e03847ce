import NfvCatalog.Document.Toml.Token

/-! # Reading TOML

A document is a list of sections, each with a header and lines that give values to keys; the first
section has no header. A document is always a mapping.
-/

/-! ## Tables of TOML

A document fills its tables piece by piece: by headers, by dotted keys, and by the headers of inner
tables. Each table is defined once; what may still be added to it depends on how it came to be.
-/

namespace NfvCatalog.Toml

/-- How a table came to be: by a header of its own, by the header of an inner table, or by a dotted
key. -/
inductive Origin where
  | header
  | implied
  | dotted
deriving DecidableEq, Repr, Inhabited

/-- What a key of a table stands for. -/
inductive Item where
  | value (node : Node)
  | table (origin : Origin) (fields : List (String × Item))
  | tables (done : List (List (String × Item)))
deriving Inhabited

/-- The fields of a table, in order. -/
abbrev Fields := List (String × Item)

namespace Fields

/-- The item under a key. -/
def get? (fields : Fields) (name : String) : Option Item :=
  (fields.find? (·.1 = name)).map Prod.snd

/-- Put an item under a key. -/
def put (fields : Fields) (name : String) (item : Item) : Fields :=
  if (fields.get? name).isSome then fields.map fun f => if f.1 = name then (name, item) else f
  else fields ++ [(name, item)]

/-- Change the table at the end of a path of keys. Tables that are missing on the way come to be as
`made` says; a dotted key does not enter a table that has its own header. -/
def change (made : Origin) (step : Origin → Fields → Except Fault Fields) :
    List String → Origin → Fields → Except Fault Fields
  | [], origin, fields => step origin fields
  | name :: rest, _, fields =>
    match fields.get? name with
    | none => do return fields.put name (.table made (← change made step rest made []))
    | some (.value _) => .error (fault ("dotted key goes through the value of '" ++ name ++ "'"))
    | some (.table origin inner) => do
      if made = .dotted ∧ origin = .header then throw (fault ("duplicate key '" ++ name ++ "'"))
      return fields.put name (.table origin (← change made step rest origin inner))
    | some (.tables done) => do
      let last ← change made step rest .header (done.getLast?.getD [])
      return fields.put name (.tables (done.dropLast ++ [last]))

/-- Add a value under a new key. A dotted key adds only to tables made by dotted keys. -/
def addPair (fields : Fields) (path : List String) (name : String) (node : Node) :
    Except Fault Fields :=
  let add (origin : Origin) (inner : Fields) : Except Fault Fields :=
    if (origin == .dotted) == path.isEmpty ∨ (inner.get? name).isSome then
      .error (fault ("duplicate key '" ++ name ++ "'"))
    else .ok (inner.put name (.value node))
  change .dotted add path .header fields

/-- Add values in order. The last key of each path names the value. -/
def addPairs (fields : Fields) (pairs : List (List String × Node)) : Except Fault Fields :=
  pairs.foldlM (fun fields pair => fields.addPair pair.1.dropLast (pair.1.getLast?.getD "") pair.2)
    fields

end Fields

/-- A part of a document: a header and the values below it. -/
structure Section where
  path : List String := []
  repeated : Bool := false
  pairs : List (List String × Node) := []
deriving Inhabited

/-- Add a section to a document. A table that is only implied so far takes the section's values; a
repeated header adds a table to a list. -/
def Fields.addSection (root : Fields) (part : Section) : Except Fault Fields :=
  match part.path.getLast? with
  | none => root.addPairs part.pairs
  | some name =>
    let duplicate : Fault := fault ("duplicate key '" ++ name ++ "'")
    let add (_ : Origin) (fields : Fields) : Except Fault Fields :=
      match part.repeated, fields.get? name with
      | false, none => do return fields.put name (.table .header (← Fields.addPairs [] part.pairs))
      | false, some (.table .implied inner) => do
        return fields.put name (.table .header (← Fields.addPairs inner part.pairs))
      | true, none => do return fields.put name (.tables [← Fields.addPairs [] part.pairs])
      | true, some (.tables done) => do
        return fields.put name (.tables (done ++ [← Fields.addPairs [] part.pairs]))
      | _, _ => .error duplicate
    Fields.change .implied add part.path.dropLast .header root

mutual

/-- The node of an item. -/
def Item.node : Item → Node
  | .value node => node
  | .table _ fields => .mapping (fieldNodes fields)
  | .tables done => .sequence (tableNodes done)

/-- The entries of a table. -/
def fieldNodes : List (String × Item) → List (Node × Node)
  | [] => []
  | (name, item) :: rest => (.text name, item.node) :: fieldNodes rest

/-- The items of a list of tables. -/
def tableNodes : List (List (String × Item)) → List Node
  | [] => []
  | fields :: rest => .mapping (fieldNodes fields) :: tableNodes rest

end

/-! ## Documents -/

mutual

/-- A value. `fuel` bounds the values and separators read, `depth` the nesting. -/
def value : Nat → Nat → List Char → Except Fault (Node × List Char)
  | 0, _, _ => .error (fault "unexpected end of input")
  | fuel + 1, depth, cs =>
    match string? cs, cs with
    | some result, _ => do
      let (text, rest) ← result
      return (.text text, rest)
    | none, '[' :: rest => do
      if depth = 0 then throw (fault "recursion limit exceeded")
      let (items, rest) ← arrayItems fuel (depth - 1) (skipLines rest.length rest)
      return (.sequence items, rest)
    | none, '\x7b' :: rest => do
      if depth = 0 then throw (fault "recursion limit exceeded")
      match skipSpace rest with
      | '\x7d' :: rest => return (.mapping [], rest)
      | rest => do
        let (pairs, rest) ← inlinePairs fuel (depth - 1) rest
        let fields ← Fields.addPairs [] pairs
        return (.mapping (fieldNodes fields), rest)
    | none, _ => word cs

/-- The items of an array up to its closing bracket; a comma may follow the last. -/
def arrayItems : Nat → Nat → List Char → Except Fault (List Node × List Char)
  | 0, _, _ => .error (fault "invalid array")
  | fuel + 1, depth, cs =>
    match cs with
    | ']' :: rest => .ok ([], rest)
    | _ => do
      let (item, rest) ← value fuel depth cs
      match skipLines rest.length rest with
      | ',' :: rest => do
        let (items, rest) ← arrayItems fuel depth (skipLines rest.length rest)
        return (item :: items, rest)
      | ']' :: rest => return ([item], rest)
      | _ => throw (fault "invalid array")

/-- The pairs of an inline table up to its closing brace. -/
def inlinePairs : Nat → Nat → List Char → Except Fault ((List (List String × Node)) × List Char)
  | 0, _, _ => .error (fault "invalid inline table")
  | fuel + 1, depth, cs => do
    let (path, rest) ← dottedKey depthLimit cs
    match rest with
    | '=' :: rest => do
      let (node, rest) ← value fuel depth (skipSpace rest)
      match skipSpace rest with
      | ',' :: rest => do
        let (pairs, rest) ← inlinePairs fuel depth rest
        return ((path, node) :: pairs, rest)
      | '\x7d' :: rest => return ([(path, node)], rest)
      | _ => throw (fault "invalid inline table")
    | _ => throw (fault "expected '='")

end

/-- A line that gives a value to a key. -/
def pairLine (cs : List Char) : Except Fault ((List String × Node) × List Char) := do
  let (path, rest) ← dottedKey depthLimit cs
  match rest with
  | '=' :: rest => do
    let (node, rest) ← value (rest.length + 1) depthLimit (skipSpace rest)
    return ((path, node), ← lineEnd rest)
  | _ => throw (fault "expected '='")

/-- A header after its first bracket. -/
def headerLine (cs : List Char) : Except Fault (Section × List Char) := do
  match cs with
  | '[' :: rest => do
    let (path, rest) ← dottedKey depthLimit rest
    match rest with
    | ']' :: ']' :: rest => return ({ path := path, repeated := true }, ← lineEnd rest)
    | _ => throw (fault "invalid table header")
  | _ => do
    let (path, rest) ← dottedKey depthLimit cs
    match rest with
    | ']' :: rest => return ({ path := path }, ← lineEnd rest)
    | _ => throw (fault "invalid table header")

/-- The sections of a text from inside one of them; `fuel` bounds the lines. -/
def sections : Nat → Section → List Char → Except Fault (List Section)
  | 0, part, _ => .ok [part]
  | fuel + 1, part, cs =>
    match skipSpace cs with
    | [] => .ok [part]
    | '[' :: rest => do
      let (next, rest) ← headerLine rest
      return part :: (← sections fuel next rest)
    | c :: rest =>
      if c = '#' ∨ c = '\n' ∨ c = '\r' then do sections fuel part (← lineEnd (c :: rest))
      else do
        let (pair, rest) ← pairLine (c :: rest)
        sections fuel { part with pairs := part.pairs ++ [pair] } rest

/-- Read a document. -/
def read (text : String) : Except Fault Node := do
  let cs := match text.toList with
    | '\uFEFF' :: rest => rest
    | cs => cs
  let parts ← sections (cs.length + 1) { } cs
  let root ← parts.foldlM Fields.addSection []
  return .mapping (fieldNodes root)

end NfvCatalog.Toml
