import NfvCatalog.Document.Node
import NfvCatalog.Document.Yaml.Token

/-! # Documents from YAML tokens

The tokens of a text are put together into one tree, in which an alias still names its anchor. Then
aliases are replaced by references to the anchored trees. A text holds exactly one document; an
empty text is the empty scalar.
-/

namespace NfvCatalog.Yaml

/-- The deepest nesting that is read, aliases expanded. -/
def depthLimit : Nat := 128

/-- A document as it is written: an alias is the number of its anchor. -/
inductive Written where
  | plain (source : String)
  | text (value : String)
  | literal (value : String)
  | sequence (items : List Written)
  | mapping (entries : List (Written × Written))
  | tagged (tag : Tag) (content : Written)
  | alias (anchor : Nat)
deriving Inhabited

/-- The anchors of a text so far. -/
structure Anchors where
  /-- The names that have been given, each with the number it has now. -/
  numbers : List (String × Nat) := []
  /-- For each number the place of the tree that it was given to last, last first. -/
  places : List (Nat × Nat) := []
  /-- The count of anchored trees that have been started. -/
  started : Nat := 0
  /-- The anchored trees that have been put together, by their places. -/
  trees : List (Nat × Written) := []

namespace Anchors

/-- Start an anchored tree. Its number is the count of the names given before it, so a name that is
given again takes the number that the next new name will have too. -/
def start (anchors : Anchors) (name : String) : Nat × Anchors :=
  let number := anchors.numbers.length
  let others := anchors.numbers.filter (·.1 ≠ name)
  (anchors.started,
    { anchors with
      numbers := (name, number) :: others
      places := (number, anchors.started) :: anchors.places
      started := anchors.started + 1 })

/-- Keep an anchored tree that has been put together. -/
def keep (anchors : Anchors) (place : Nat) (tree : Written) : Anchors :=
  { anchors with trees := (place, tree) :: anchors.trees }

/-- The number that a name has now. -/
def number? (anchors : Anchors) (name : String) : Option Nat :=
  (anchors.numbers.find? (·.1 = name)).map Prod.snd

/-- The tree that a number was given to last. -/
def tree? (anchors : Anchors) (number : Nat) : Option Written := do
  let (_, place) ← anchors.places.find? (·.1 = number)
  let (_, tree) ← anchors.trees.find? (·.1 = place)
  return tree

end Anchors

/-- The node of a written tree, in which `depth` more levels of nesting can be read and at most
`limit` references are followed at once. An alias, a tag and a collection take a unit of `fuel`
each; neither of the first two stands directly in another of its kind, so three units a level are
enough. -/
def Written.toNode (anchors : Anchors) (limit : Nat) : Nat → Nat → Written → Node
  | 0, _, _ => .unreadable .tooDeep
  | fuel + 1, depth, tree =>
    match tree, depth with
    | .plain source, _ => .plain source
    | .text value, _ => .text value
    | .literal value, _ => .literal value
    | .tagged tag content, _ => .tagged tag (content.toNode anchors limit fuel depth)
    | .alias number, _ =>
      match anchors.tree? number with
      | some tree => .shared limit fun _ => tree.toNode anchors limit fuel depth
      | none => .unreadable (.other "unknown anchor")
    | .sequence _, 0 | .mapping _, 0 => .unreadable .tooDeep
    | .sequence items, depth + 1 => .sequence (items.map (toNode anchors limit fuel depth))
    | .mapping entries, depth + 1 =>
      .mapping (entries.map fun entry =>
        (entry.1.toNode anchors limit fuel depth, entry.2.toNode anchors limit fuel depth))

/-- The tokens still to be used and what is known so far. -/
structure Compose where
  tokens : List Token
  anchors : Anchors := { }
  /-- Handles of tags and what they expand to. -/
  handles : List (String × List UInt8) := []
  /-- The number of scalars, aliases and collection ends so far. -/
  events : Nat := 0

namespace Compose

/-- The next token. -/
def peek (state : Compose) : Option Token := state.tokens.head?

/-- Use up one token. -/
def next (state : Compose) : Compose := { state with tokens := state.tokens.tail }

/-- Whether the next token is one of the given ones; the end of the text counts as none. -/
def sees (state : Compose) (tokens : List Token) : Bool :=
  match state.peek with
  | some token => tokens.contains token
  | none => false

/-- Count what has been put together. -/
def count (state : Compose) (events : Nat) : Compose :=
  { state with events := state.events + events }

/-- A fault at the next token. -/
def fault {α : Type} (_state : Compose) (reason : String) : Except Fault α := .error (.other reason)

/-- The empty scalar, where a node was left out. -/
def empty (state : Compose) : Written × Compose := (.plain "", state.count 1)

/-- The anchor and the tag before a node. -/
structure Properties where
  anchor : Option String := none
  tag : Option (String × List UInt8) := none

/-- Read an anchor and a tag in either order, each at most once. -/
def properties (state : Compose) : Properties × Compose :=
  match state.tokens with
  | .anchor name :: .tag handle suffix :: rest =>
    (⟨some name, some (handle, suffix)⟩, { state with tokens := rest })
  | .tag handle suffix :: .anchor name :: rest =>
    (⟨some name, some (handle, suffix)⟩, { state with tokens := rest })
  | .anchor name :: rest => (⟨some name, none⟩, { state with tokens := rest })
  | .tag handle suffix :: rest => (⟨none, some (handle, suffix)⟩, { state with tokens := rest })
  | _ => ({ }, state)

/-- The tag of a handle and a suffix. -/
def expandTag (state : Compose) (handle : String) (suffix : List UInt8) : Except Fault Tag :=
  if handle.isEmpty then .ok (.ofBytes suffix)
  else
    match (state.handles.find? (·.1 = handle)).map Prod.snd with
    | some expansion => .ok (.ofBytes (expansion ++ suffix))
    | none =>
      if handle = "!" then .ok (.ofBytes (Tag.mark :: suffix))
      else if handle = "!!" then .ok (.ofBytes (Tag.coreStart ++ suffix))
      else state.fault "found undefined tag handle"

/-- The tree of an alias. Its anchor comes before it. -/
def follow (state : Compose) (name : String) : Except Fault (Written × Compose) :=
  match state.anchors.number? name with
  | some number => .ok (.alias number, state.count 1)
  | none => state.fault "unknown anchor"

mutual

/-- A node: an alias, or content with its properties. `block` allows block collections, `indentless`
a sequence at the indentation of the mapping around it. -/
def node : Nat → Bool → Bool → Compose → Except Fault (Written × Compose)
  | 0, _, _, state => state.fault "unexpected end"
  | fuel + 1, block, indentless, state =>
    match state.peek with
    | some (.alias name) => state.next.follow name
    | _ => do
      let (marks, state) := state.properties
      let tag ← match marks.tag with
        | some (handle, suffix) => do pure (some (← state.expandTag handle suffix))
        | none => pure none
      let marked := marks.anchor.isSome || marks.tag.isSome
      let withTag (tree : Written) : Written := match tag with
        | some tag => .tagged tag tree
        | none => tree
      match marks.anchor with
      | some name => do
        let (place, anchors) := state.anchors.start name
        let (tree, state) ← content fuel block indentless marked { state with anchors }
        let tree := withTag tree
        return (tree, { state with anchors := state.anchors.keep place tree })
      | none => do
        let (tree, state) ← content fuel block indentless marked state
        return (withTag tree, state)

/-- The content of a node. It may be left out after a property. -/
def content : Nat → Bool → Bool → Bool → Compose → Except Fault (Written × Compose)
  | 0, _, _, _, state => state.fault "unexpected end"
  | fuel + 1, block, indentless, marked, state =>
    match state.peek with
    | some (.scalar style text) =>
      let tree : Written := match style with
        | .plain => .plain text
        | .literal => .literal text
        | .quoted | .folded => .text text
      .ok (tree, state.next.count 1)
    | some .flowSequence => do
      let (items, state) ← flowItems fuel true state.next
      return (.sequence items, state.count 2)
    | some .flowMapping => do
      let (entries, state) ← flowEntries fuel true state.next
      return (.mapping entries, state.count 2)
    | other =>
      if indentless ∧ other = some .blockEntry then do
        let (items, state) ← indentlessItems fuel state
        return (.sequence items, state.count 2)
      else if block ∧ other = some .blockSequence then do
        let (items, state) ← blockItems fuel state.next
        return (.sequence items, state.count 2)
      else if block ∧ other = some .blockMapping then do
        let (entries, state) ← blockEntries fuel state.next
        return (.mapping entries, state.count 2)
      else if marked then .ok state.empty
      else state.fault "did not find expected node content"

/-- The items of a block sequence. -/
def blockItems : Nat → Compose → Except Fault (List Written × Compose)
  | 0, state => state.fault "unexpected end"
  | fuel + 1, state =>
    match state.peek with
    | some .blockEntry => do
      let state := state.next
      let (item, state) ←
        if state.sees [.blockEntry, .blockEnd] then pure state.empty
        else node fuel true false state
      let (items, state) ← blockItems fuel state
      return (item :: items, state)
    | some .blockEnd => .ok ([], state.next)
    | _ => state.fault "did not find expected '-' indicator"

/-- The items of a sequence at the indentation of the mapping around it. -/
def indentlessItems : Nat → Compose → Except Fault (List Written × Compose)
  | 0, state => state.fault "unexpected end"
  | fuel + 1, state =>
    match state.peek with
    | some .blockEntry => do
      let state := state.next
      let (item, state) ←
        if state.sees [.blockEntry, .key, .value, .blockEnd] then pure state.empty
        else node fuel true false state
      let (items, state) ← indentlessItems fuel state
      return (item :: items, state)
    | _ => .ok ([], state)

/-- The entries of a block mapping. -/
def blockEntries : Nat → Compose → Except Fault (List (Written × Written) × Compose)
  | 0, state => state.fault "unexpected end"
  | fuel + 1, state =>
    match state.peek with
    | some .key => do
      let state := state.next
      let (key, state) ←
        if state.sees [.key, .value, .blockEnd] then pure state.empty
        else node fuel true true state
      let (value, state) ←
        if state.sees [.value] then
          let state := state.next
          if state.sees [.key, .value, .blockEnd] then pure state.empty
          else node fuel true true state
        else pure state.empty
      let (entries, state) ← blockEntries fuel state
      return ((key, value) :: entries, state)
    | some .blockEnd => .ok ([], state.next)
    | _ => state.fault "did not find expected key"

/-- The items of a sequence in brackets. A key in it makes a mapping of one entry. -/
def flowItems : Nat → Bool → Compose → Except Fault (List Written × Compose)
  | 0, _, state => state.fault "unexpected end"
  | fuel + 1, first, state =>
    if state.sees [.flowSequenceEnd] then .ok ([], state.next)
    else do
      if !first && !state.sees [.flowEntry] then
        state.fault "did not find expected ',' or ']'"
      let state := if first then state else state.next
      if state.sees [.flowSequenceEnd] then return ([], state.next)
      let (item, state) ←
        if state.sees [.key] then flowPair fuel state.next
        else node fuel false false state
      let (items, state) ← flowItems fuel false state
      return (item :: items, state)

/-- A mapping of one entry in brackets, after its key mark. -/
def flowPair : Nat → Compose → Except Fault (Written × Compose)
  | 0, state => state.fault "unexpected end"
  | fuel + 1, state => do
    let (key, state) ←
      if state.sees [.value, .flowEntry, .flowSequenceEnd] then pure state.next.empty
      else node fuel false false state
    let (value, state) ←
      if state.sees [.value] then
        let state := state.next
        if state.sees [.flowEntry, .flowSequenceEnd] then pure state.empty
        else node fuel false false state
      else pure state.empty
    return (.mapping [(key, value)], state.count 2)

/-- The entries of a mapping in braces. -/
def flowEntries : Nat → Bool → Compose → Except Fault (List (Written × Written) × Compose)
  | 0, _, state => state.fault "unexpected end"
  | fuel + 1, first, state =>
    if state.sees [.flowMappingEnd] then .ok ([], state.next)
    else do
      if !first && !state.sees [.flowEntry] then
        state.fault "did not find expected ',' or a closing brace"
      let state := if first then state else state.next
      if state.sees [.flowMappingEnd] then return ([], state.next)
      let (entry, state) ← flowEntryPart fuel state
      let (entries, state) ← flowEntries fuel false state
      return (entry :: entries, state)

/-- One entry of a mapping in braces; without a key mark its value is left out. -/
def flowEntryPart : Nat → Compose → Except Fault ((Written × Written) × Compose)
  | 0, state => state.fault "unexpected end"
  | fuel + 1, state => do
    if !state.sees [.key] then
      let (key, state) ← node fuel false false state
      let (value, state) := state.empty
      return ((key, value), state)
    let state := state.next
    let (key, state) ←
      if state.sees [.value, .flowEntry, .flowMappingEnd] then pure state.empty
      else node fuel false false state
    let (value, state) ←
      if state.sees [.value] then
        let state := state.next
        if state.sees [.flowEntry, .flowMappingEnd] then pure state.empty
        else node fuel false false state
      else pure state.empty
    return ((key, value), state)

end

/-- Read the directives before a document: the version at most once, each handle at most once. -/
def directives : List Token → Bool → List (String × List UInt8) →
    Except Fault (List (String × List UInt8) × List Token)
  | .version :: rest, seen, handles =>
    if seen then .error (.other "found duplicate %YAML directive") else directives rest true handles
  | .tagDirective handle expansion :: rest, seen, handles =>
    if handles.any (·.1 = handle) then .error (.other "found duplicate %TAG directive")
    else directives rest seen ((handle, expansion) :: handles)
  | rest, _, handles => .ok (handles, rest)

/-- The content of a document whose start has been read. -/
def document (explicit : Bool) (state : Compose) : Except Fault (Written × Compose) :=
  let bare := match state.peek with
    | none | some .version | some (.tagDirective ..) | some .documentStart | some .documentEnd =>
      true
    | _ => false
  if explicit && bare then .ok state.empty
  else node (4 * state.tokens.length + 8) true false state

end Compose

/-- The one document of a list of tokens. As many references are followed at once as a hundred times
the scalars, aliases and collection ends of the text. -/
def ofTokens (tokens : List Token) : Except Fault Node := do
  if tokens.isEmpty then return .plain ""
  let (handles, rest) ← Compose.directives tokens false []
  let explicit := match rest with
    | .documentStart :: _ => true
    | _ => false
  if rest.length < tokens.length && !explicit then
    throw (.other "did not find expected <document start>")
  let state : Compose := { tokens := if explicit then rest.tail else rest, handles := handles }
  let (tree, state) ← Compose.document explicit state
  match state.tokens.dropWhile (· = .documentEnd) with
  | [] => return tree.toNode state.anchors (100 * state.events) (3 * depthLimit + 3) depthLimit
  | _ => throw (.other "more than one document")

/-- Read a YAML text. -/
def read (text : String) : Except Fault Node := do ofTokens (← Token.ofText text)

end NfvCatalog.Yaml
