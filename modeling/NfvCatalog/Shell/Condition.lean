import NfvCatalog.Shell.Machine

/-! # Tests of scripts

The expressions of `test`: files, texts and numbers are tested, and tests are joined. A word is
taken as an operator only where it can be one.
-/

namespace NfvCatalog.Shell.Condition

/-- What a word can be to a test. -/
inductive Role where
  | one
  | two
  | negation
  | both
  | either
  | opening
  | closing
deriving DecidableEq, Repr, Inhabited

/-- The operators of one operand. -/
def unary : List String :=
  ["-r", "-w", "-x", "-e", "-f", "-d", "-c", "-b", "-p", "-u", "-g", "-k", "-s", "-t", "-z", "-n",
    "-h", "-O", "-G", "-L", "-S"]

/-- The operators of two operands. -/
def binary : List String :=
  ["=", "!=", "<", ">", "-eq", "-ne", "-ge", "-gt", "-le", "-lt", "-nt", "-ot", "-ef"]

/-- What a word is to a test, if it is no operand. -/
def role? (word : String) : Option Role :=
  if unary.contains word then some .one
  else if binary.contains word then some .two
  else match word with
    | "!" => some .negation
    | "-a" => some .both
    | "-o" => some .either
    | "(" => some .opening
    | ")" => some .closing
    | _ => none

/-- What the first of some words is to a test. An operator of one operand that is all there is, or
that an operator of two follows, is an operand; so is a parenthesis that is all there is. -/
def roleOf (words : List String) : Option Role :=
  match words with
  | [] => none
  | word :: rest =>
    match role? word, rest with
    | some .one, [] | some .opening, [] => none
    | some .one, [_] => some .one
    | some .one, next :: _ :: _ => if role? next = some .two then none else some .one
    | role, _ => role

/-- Why words are no test. -/
inductive Fault where
  | unexpected (word : String)
  | missingOperand (operator : String)
  | missingClosing
  | illegalNumber (word : String)
  | missingBracket
deriving DecidableEq, Repr, Inhabited

/-- The wording of a fault of a test. -/
def Fault.message : Fault → String
  | .unexpected word => word ++ ": unexpected operator"
  | .missingOperand operator => operator ++ ": argument expected"
  | .missingClosing => "closing paren expected"
  | .illegalNumber word => "Illegal number: " ++ word
  | .missingBracket => "missing ]"

/-- The number that a word spells. -/
def number (word : String) : Except Fault Int :=
  match Spelled.all? 10 word with
  | some n => .ok n
  | none => .error (.illegalNumber word)

/-- A test with one operand. -/
def one (m : Machine) (operator operand : String) : Except Fault Bool :=
  let found := m.entryAt operand
  let isThere := found.toOption.isSome
  match operator with
  | "-n" => .ok (!operand.isEmpty)
  | "-z" => .ok operand.isEmpty
  | "-t" => (number operand).map fun _ => false
  | "-e" | "-r" | "-w" | "-O" | "-G" => .ok (isThere || m.isDevice operand)
  | "-c" => .ok (m.isDevice operand)
  | "-d" => .ok (match found with
    | .ok .directory => true
    | _ => false)
  | "-f" => .ok (match found with
    | .ok (.file ..) => true
    | _ => false)
  | "-s" => .ok (match found with
    | .ok (.file (.bytes bytes) _) => !bytes.isEmpty || (Launch.utilityAt? (m.place operand)).isSome
    | found => found.toOption.isSome)
  | "-x" => .ok (match found with
    | .ok (.file _ executable) => executable
    | .ok .directory => true
    | .error _ => false)
  | _ => .ok false

/-- A test with two operands. -/
def two (m : Machine) (left operator right : String) : Except Fault Bool := do
  let numbers (test : Int → Int → Bool) : Except Fault Bool := do
    let a ← number left
    let b ← number right
    return test a b
  match operator with
  | "=" => return left = right
  | "!=" => return left ≠ right
  | "<" => return decide (left < right)
  | ">" => return decide (right < left)
  | "-eq" => numbers fun a b => a = b
  | "-ne" => numbers fun a b => a ≠ b
  | "-ge" => numbers fun a b => b ≤ a
  | "-gt" => numbers fun a b => b < a
  | "-le" => numbers fun a b => a ≤ b
  | "-lt" => numbers fun a b => a < b
  | "-ef" =>
    return match m.tree.locate (m.place left), m.tree.locate (m.place right) with
      | .ok a, .ok b => a = b && (m.tree.entryAt? a).isSome
      | _, _ => false
  | _ => return false

mutual

/-- Tests of which one must hold, and the words from the last one on. `fuel` bounds the nesting. -/
def either (m : Machine) : Nat → List String → Except Fault (Bool × List String)
  | 0, words => .ok (false, words)
  | fuel + 1, words => do
    let (first, words) ← both m fuel words
    if roleOf (words.drop 1) = some .either then
      let (others, words) ← either m fuel (words.drop 2)
      return (first || others, words)
    else return (first, words)

/-- Tests that must all hold. -/
def both (m : Machine) : Nat → List String → Except Fault (Bool × List String)
  | 0, words => .ok (false, words)
  | fuel + 1, words => do
    let (first, words) ← negated m fuel words
    if roleOf (words.drop 1) = some .both then
      let (others, words) ← both m fuel (words.drop 2)
      return (first && others, words)
    else return (first, words)

/-- A test, or one that must not hold. -/
def negated (m : Machine) : Nat → List String → Except Fault (Bool × List String)
  | 0, words => .ok (false, words)
  | fuel + 1, words => do
    if roleOf words = some .negation then
      let rest := words.drop 1
      let (inner, words) ← negated m fuel (if rest.isEmpty then words.drop 1 else rest)
      return (!inner, words)
    else primary m fuel words

/-- A test in parentheses, with one or two operands, or of a text alone. -/
def primary (m : Machine) : Nat → List String → Except Fault (Bool × List String)
  | 0, words => .ok (false, words)
  | fuel + 1, words => do
    match roleOf words, words with
    | _, [] => return (false, [])
    | some .opening, _ :: rest =>
      if roleOf rest = some .closing then return (false, rest)
      else
        let (inner, words) ← either m fuel rest
        if roleOf (words.drop 1) = some .closing then return (inner, words.drop 1)
        else throw .missingClosing
    | some .one, operator :: rest =>
      match rest with
      | [] => throw (.missingOperand operator)
      | operand :: _ => return (← one m operator operand, rest)
    | _, text :: rest =>
      if roleOf rest = some .two then
        match rest with
        | operator :: operands =>
          match operands with
          | [] => throw (.missingOperand operator)
          | right :: _ => return (← two m text operator right, operands)
        | [] => return (!text.isEmpty, words)
      else return (!text.isEmpty, words)

end

/-- The outcome of the words of a test. Three or four words are read by their number first. -/
def whole (m : Machine) : Nat → List String → Except Fault Bool
  | 0, _ => .ok false
  | fuel + 1, words => do
    let isPlainPair := words.length = 3 && (words[1]?.bind role?) = some .two
    let isSmall := words.length = 3 || words.length = 4
    let isWrapped := words.head? = some "(" && words.getLast? = some ")"
    if words.isEmpty then return false
    else if isSmall && !isPlainPair && !isWrapped && words.head? = some "!" then
      return !(← whole m fuel (words.drop 1))
    else
      let words := if isSmall && !isPlainPair && isWrapped then (words.drop 1).dropLast else words
      match words with
      | [left, operator, right] =>
        if isPlainPair then two m left operator right
        else
          let (outcome, rest) ← either m (4 * words.length + 8) words
          if 1 < rest.length then throw (.unexpected (rest.headD "")) else return outcome
      | _ =>
        let (outcome, rest) ← either m (4 * words.length + 8) words
        if 1 < rest.length then throw (.unexpected (rest.headD "")) else return outcome

/-- The outcome of a test, by the name that it is called by. -/
def outcome (m : Machine) (name : String) (words : List String) : Except Fault Bool :=
  if name = "[" then
    if words.getLast?.any (Text.startsWith · "]") then whole m (words.length + 1) words.dropLast
    else .error .missingBracket
  else whole m (words.length + 1) words

end NfvCatalog.Shell.Condition
