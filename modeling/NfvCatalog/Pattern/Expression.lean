import NfvCatalog.Pattern.PropertyName
import NfvCatalog.Pattern.Regex
import NfvCatalog.Text.CaseFolding

/-! # Expressions as written

The tree of an expression in the order of its text, with the flags that it sets on the way, and what
it means: a regular expression over sets of characters.
-/

namespace NfvCatalog

open Text (CharSet)

/-- Why a text is no regular expression. -/
inductive RegexError where
  | nothingToRepeat
  | openGroup
  | openClass
  | openCount
  | openEscape
  | unopenedGroup
  | badCount
  | badEscape
  | badFlag
  | badGroupName
  | badRange
  | lookAround
  | unknownClass
  | notAscii
  | tooDeep
  | tooLarge
deriving DecidableEq, Repr, Inhabited

/-- The wording of an expression error. -/
def RegexError.message : RegexError → String
  | .nothingToRepeat => "repetition operator missing expression"
  | .openGroup => "unclosed group"
  | .openClass => "unclosed character class"
  | .openCount => "unclosed counted repetition"
  | .openEscape => "incomplete escape sequence"
  | .unopenedGroup => "unopened group"
  | .badCount => "invalid repetition count"
  | .badEscape => "unrecognized escape sequence"
  | .badFlag => "unrecognized flag"
  | .badGroupName => "invalid capture group name"
  | .badRange => "invalid character class range"
  | .lookAround => "look-around is not supported"
  | .unknownClass => "Unicode property not found"
  | .notAscii => "pattern can match invalid UTF-8"
  | .tooDeep => "exceeded the maximum nesting"
  | .tooLarge => "expression is too large"

namespace Pattern

/-! ## Flags -/

/-- A flag of an expression. -/
inductive Flag where
  | anyCase
  | multiLine
  | dotAll
  | lazily
  | unicode
  | anyLineEnd
  | verbose
deriving DecidableEq, Repr, Inhabited

/-- The flags in force at a place of an expression, apart from that of its layout. -/
structure Flags where
  anyCase : Bool := false
  multiLine : Bool := false
  dotAll : Bool := false
  lazily : Bool := false
  unicode : Bool := true
  anyLineEnd : Bool := false
deriving DecidableEq, Repr, Inhabited

/-- The flags after one is set or cleared. -/
def Flags.change (flags : Flags) (flag : Flag) (on : Bool) : Flags :=
  match flag with
  | .anyCase => { flags with anyCase := on }
  | .multiLine => { flags with multiLine := on }
  | .dotAll => { flags with dotAll := on }
  | .unicode => { flags with unicode := on }
  | .anyLineEnd => { flags with anyLineEnd := on }
  | .lazily => { flags with lazily := on }
  | .verbose => flags

/-- The flags after some are set or cleared. -/
def Flags.changeAll (flags : Flags) (changes : List (Flag × Bool)) : Flags :=
  changes.foldl (fun flags change => flags.change change.1 change.2) flags

/-! ## Trees -/

/-- A character as written. One written as a byte is no character by itself beyond ASCII. -/
structure WrittenChar where
  char : Char
  isByte : Bool := false
deriving DecidableEq, Repr, Inhabited

/-- A class named by a letter. -/
inductive LetterClass where
  | digit
  | blank
  | word
deriving DecidableEq, Repr, Inhabited

/-- A class named by a word between colons. -/
inductive ColonClass where
  | alnum
  | alpha
  | ascii
  | blank
  | cntrl
  | digit
  | graph
  | lower
  | print
  | punct
  | space
  | upper
  | word
  | xdigit
deriving DecidableEq, Repr, Inhabited

/-- An operation on classes. -/
inductive ClassOperation where
  | inter
  | diff
  | symmDiff
deriving DecidableEq, Repr, Inhabited

/-- A class in brackets, or an item of one. -/
inductive ClassTree where
  | char (c : WrittenChar)
  | range (low high : WrittenChar)
  | letter (kind : LetterClass) (negated : Bool)
  | property (name : PropertyName) (negated : Bool)
  | colon (kind : ColonClass) (negated : Bool)
  | union (items : List ClassTree)
  | bracketed (inner : ClassTree) (negated : Bool)
  | operation (kind : ClassOperation) (left right : ClassTree)
deriving Repr, Inhabited

/-- A condition on places as written. What it means depends on the flags. -/
inductive WrittenAnchor where
  | lineStart
  | lineStop
  | start
  | stop
  | word (kind : WordEdge)
deriving DecidableEq, Repr, Inhabited

/-- An expression as written. -/
inductive Expression where
  | empty
  | flags (changes : List (Flag × Bool))
  | char (c : WrittenChar)
  | dot
  | anchor (condition : WrittenAnchor)
  | members (tree : ClassTree)
  | repeated (inner : Expression) (least : Nat) (most : Option Nat) (greedy : Bool)
  | group (captures : Bool) (changes : List (Flag × Bool)) (inner : Expression)
  | sequence (parts : List Expression)
  | choice (branches : List Expression)
deriving Repr, Inhabited

namespace ClassTree

/-- The tree of some items; a single one stands for itself. -/
def ofItems : List ClassTree → ClassTree
  | [item] => item
  | items => .union items

mutual

/-- How deep a class is nested. -/
def height : ClassTree → Nat
  | .union [] => 0
  | .union items => heights items + 1
  | .bracketed inner _ => inner.height + 1
  | .operation _ left right => max left.height right.height + 1
  | _ => 0

/-- The greatest height of some classes. -/
def heights : List ClassTree → Nat
  | [] => 0
  | first :: rest => max first.height (heights rest)

end

end ClassTree

namespace Expression

/-- The expression of some parts; a single one stands for itself. -/
def ofParts : List Expression → Expression
  | [] => .empty
  | [part] => part
  | parts => .sequence parts

/-- The expression of some branches; a single one stands for itself. -/
def ofBranches : List Expression → Expression
  | [branch] => branch
  | branches => .choice branches

mutual

/-- How deep an expression is nested. -/
def height : Expression → Nat
  | .members tree => tree.height
  | .repeated inner _ _ _ => inner.height + 1
  | .group _ _ inner => inner.height + 1
  | .sequence parts => heights parts + 1
  | .choice branches => heights branches + 1
  | _ => 0

/-- The greatest height of some expressions. -/
def heights : List Expression → Nat
  | [] => 0
  | first :: rest => max first.height (heights rest)

end

/-- The deepest nesting of an expression. -/
def heightLimit : Nat := 250

end Expression

/-! ## The meaning of characters and classes -/

/-- The characters of ASCII. -/
def ascii : CharSet := .range 0 0x7F

namespace Flags

/-- A set with the other cases of its members, if case is not told apart. -/
def folded (flags : Flags) (set : CharSet) : CharSet :=
  if !flags.anyCase then set
  else if flags.unicode then Text.CaseFolding.closure set
  else Text.CaseFolding.asciiClosure set

/-- A set or its complement. Read by bytes, a complement is no set of characters. -/
def negated (flags : Flags) (negate : Bool) (set : CharSet) : Except RegexError CharSet :=
  if !negate then .ok set
  else if flags.unicode then .ok set.compl
  else .error .notAscii

/-- A set with the other cases of its members, or the complement of that. -/
def closed (flags : Flags) (negate : Bool) (set : CharSet) : Except RegexError CharSet :=
  flags.negated negate (flags.folded set)

/-- A set, or its part in ASCII if characters are read by bytes. -/
def inScope (flags : Flags) (set : CharSet) : CharSet :=
  if flags.unicode then set else set.inter ascii

end Flags

/-- The code of a character outside a class. -/
def WrittenChar.code (flags : Flags) (c : WrittenChar) : Except RegexError Nat :=
  if !flags.unicode && c.isByte && 0x80 ≤ c.char.toNat then .error .notAscii else .ok c.char.toNat

/-- The code of a character in a class. -/
def WrittenChar.classCode (flags : Flags) (c : WrittenChar) : Except RegexError Nat :=
  if !flags.unicode && 0x80 ≤ c.char.toNat then .error .notAscii else .ok c.char.toNat

/-- The members of a class named by a letter. Case does not matter in them. -/
def LetterClass.members (flags : Flags) (negate : Bool) (kind : LetterClass) :
    Except RegexError CharSet :=
  flags.negated negate (flags.inScope (match kind with
    | .digit => Text.Category.decimalNumber
    | .blank => Text.Property.whiteSpace
    | .word => Text.Property.word))

/-- The members of a named class. Read by bytes, there are none. -/
def PropertyName.members (flags : Flags) (negate : Bool) (name : PropertyName) :
    Except RegexError CharSet :=
  match flags.unicode, name.members? with
  | true, some set => flags.closed negate set
  | _, _ => .error .unknownClass

/-- The ranges of a class named between colons. -/
def ColonClass.set : ColonClass → CharSet
  | .alnum => .ofTable "30-39 41-5A 61-7A"
  | .alpha => .ofTable "41-5A 61-7A"
  | .ascii => Pattern.ascii
  | .blank => .ofTable "9 20"
  | .cntrl => .ofTable "0-1F 7F"
  | .digit => .ofTable "30-39"
  | .graph => .ofTable "21-7E"
  | .lower => .ofTable "61-7A"
  | .print => .ofTable "20-7E"
  | .punct => .ofTable "21-2F 3A-40 5B-60 7B-7E"
  | .space => .ofTable "9-D 20"
  | .upper => .ofTable "41-5A"
  | .word => .ofTable "30-39 41-5A 5F 61-7A"
  | .xdigit => .ofTable "30-39 41-46 61-66"

/-- The result of an operation on sets. -/
def ClassOperation.apply : ClassOperation → CharSet → CharSet → CharSet
  | .inter => .inter
  | .diff => .diff
  | .symmDiff => .symmDiff

namespace ClassTree

mutual

/-- The members of a class. Case is closed under at brackets, names and operations. -/
def members (flags : Flags) : ClassTree → Except RegexError CharSet
  | .char c => do
    let code ← c.classCode flags
    return .range code code
  | .range low high => return .range (← low.classCode flags) (← high.classCode flags)
  | .letter kind negate => kind.members flags negate
  | .property name negate => name.members flags negate
  | .colon kind negate => flags.closed negate kind.set
  | .union items => do return .unions (← membersOf flags items)
  | .bracketed inner negate => do flags.closed negate (← inner.members flags)
  | .operation kind left right => do
    let left ← left.members flags
    let right ← right.members flags
    return kind.apply (flags.folded left) (flags.folded right)

/-- The members of some classes. -/
def membersOf (flags : Flags) : List ClassTree → Except RegexError (List CharSet)
  | [] => .ok []
  | first :: rest => do
    let set ← first.members flags
    return set :: (← membersOf flags rest)

end

end ClassTree

/-! ## The meaning of expressions -/

/-- The set of a dot: what does not end a line, or everything. -/
def dotMembers (flags : Flags) : Except RegexError CharSet :=
  if !flags.unicode then .error .notAscii
  else if flags.dotAll then .ok .all
  else .ok (CharSet.ofTable (if flags.anyLineEnd then "A D" else "A")).compl

/-- The condition that a written one stands for. -/
def WrittenAnchor.meaning (flags : Flags) : WrittenAnchor → Anchor
  | .lineStart => if flags.multiLine then .lineStart flags.anyLineEnd else .start
  | .lineStop => if flags.multiLine then .lineStop flags.anyLineEnd else .stop
  | .start => .start
  | .stop => .stop
  | .word kind => .word kind (!flags.unicode)

namespace Expression

mutual

/-- What an expression means where some flags are in force, and the flags in force after it. -/
def meaning (flags : Flags) : Expression → Except RegexError (Regex × Flags)
  | .empty => .ok (.empty, flags)
  | .flags changes => .ok (.empty, flags.changeAll changes)
  | .char c => do
    let code ← c.code flags
    return (.ofSet (flags.folded (.range code code)) !flags.unicode, flags)
  | .dot => do return (.ofSet (← dotMembers flags) false, flags)
  | .anchor condition => .ok (.anchor (condition.meaning flags), flags)
  | .members tree => do return (.ofSet (← tree.members flags) !flags.unicode, flags)
  | .repeated inner least most greedy => do
    let (inner, flags) ← inner.meaning flags
    return (inner.times least most (greedy != flags.lazily), flags)
  | .group captures changes inner => do
    let (body, _) ← inner.meaning (flags.changeAll changes)
    return (if captures then .group body else body, flags)
  | .sequence parts => sequenceMeaning flags parts
  | .choice branches => do
    let (branches, flags) ← branchMeanings flags branches
    return (.choice branches, flags)

/-- What expressions one after another mean. -/
def sequenceMeaning (flags : Flags) : List Expression → Except RegexError (Regex × Flags)
  | [] => .ok (.empty, flags)
  | first :: rest => do
    let (first, flags) ← first.meaning flags
    let (rest, flags) ← sequenceMeaning flags rest
    return (first.before rest, flags)

/-- What each of some alternatives means. Flags set in one of them hold in those after it. -/
def branchMeanings (flags : Flags) : List Expression → Except RegexError (List Regex × Flags)
  | [] => .ok ([], flags)
  | first :: rest => do
    let (first, flags) ← first.meaning flags
    let (rest, flags) ← branchMeanings flags rest
    return (first :: rest, flags)

end

end Expression

end Pattern

end NfvCatalog
