import NfvCatalog.Shell.Condition
import NfvCatalog.Shell.Utility.Options

/-! # Tests as a program

The program `test` reads its words by their number first. Its faults are said in its own words.
-/

namespace NfvCatalog.Shell.Utility.Judge

/-- Why words are no test. -/
inductive Fault where
  | missingArgument (word : String)
  | notUnary (word : String)
  | notBinary (word : String)
  | notInteger (word : String)
  | extraArgument (word : String)
  | missing (wanted : String)
  | missingBefore (wanted found : String)
deriving DecidableEq, Repr, Inhabited

/-- The wording of a fault. -/
def Fault.message : Fault → String
  | .missingArgument word => "missing argument after " ++ inQuotes word
  | .notUnary word => inQuotes word ++ ": unary operator expected"
  | .notBinary word => inQuotes word ++ ": binary operator expected"
  | .notInteger word => "invalid integer " ++ inQuotes word
  | .extraArgument word => "extra argument " ++ inQuotes word
  | .missing wanted => inQuotes wanted ++ " expected"
  | .missingBefore wanted found => inQuotes wanted ++ " expected, found " ++ found

/-- The operators of one operand. -/
def unary : List String :=
  ["-e", "-r", "-w", "-x", "-N", "-O", "-G", "-f", "-d", "-s", "-S", "-c", "-b", "-p", "-L", "-h",
    "-u", "-g", "-k", "-t", "-z", "-n"]

/-- The operators of two operands. -/
def binary : List String :=
  ["=", "==", "!=", "-nt", "-ot", "-ef", "-eq", "-ne", "-lt", "-le", "-gt", "-ge"]

/-- The number that a word spells. -/
def integer (word : String) : Except Fault Int :=
  let cs := word.toList.dropWhile Spelled.isSpace
  let (isNegative, body) := match cs with
    | '-' :: rest => (true, rest)
    | '+' :: rest => (false, rest)
    | _ => (false, cs)
  let digits := body.takeWhile Char.isDigit
  if digits.isEmpty || !(body.drop digits.length).all Spelled.isSpace then .error (.notInteger word)
  else
    let n : Int := Spelled.numeral 10 digits
    .ok (if isNegative then -n else n)

/-- A test with one operand. -/
def one (m : Machine) (operator operand : String) : Except Fault Bool :=
  if !unary.contains operator then .error (.notUnary operator)
  else if operator = "-t" then (integer operand).map fun _ => false
  else match Condition.one m operator operand with
    | .ok outcome => .ok outcome
    | .error _ => .error (.notInteger operand)

/-- A test with two operands. -/
def two (m : Machine) (left operator right : String) : Except Fault Bool :=
  if ["-eq", "-ne", "-lt", "-le", "-gt", "-ge"].contains operator then do
    let a ← integer left
    let b ← integer right
    match operator with
    | "-eq" => return a = b
    | "-ne" => return a ≠ b
    | "-lt" => return a < b
    | "-le" => return a ≤ b
    | "-gt" => return b < a
    | _ => return b ≤ a
  else
    let operator := if operator = "==" then "=" else operator
    match Condition.two m left operator right with
    | .ok outcome => .ok outcome
    | .error _ => .error (.notInteger left)

/-- What words are read as, and the words behind it. -/
abbrev Read := Except Fault (Bool × List String)

section

variable (m : Machine) (final : String)

mutual

/-- So many of some words. `fuel` bounds the nesting. -/
def counted : Nat → Nat → List String → Read
  | 0, _, words => .ok (false, words)
  | fuel + 1, count, words =>
    match count, words with
    | 1, word :: rest => .ok (!word.isEmpty, rest)
    | 2, first :: second :: rest =>
      if first = "!" then .ok (second.isEmpty, rest)
      else if first.length = 2 && first.toList.head? = some '-' then
        (one m first second).map fun outcome => (outcome, rest)
      else .error (.missingArgument final)
    | 3, first :: second :: third :: rest =>
      if binary.contains second then (two m first second third).map fun outcome => (outcome, rest)
      else if first = "!" then
        (counted fuel 2 (second :: third :: rest)).map fun (outcome, rest) => (!outcome, rest)
      else if first = "(" && third = ")" then .ok (!second.isEmpty, rest)
      else if second = "-a" || second = "-o" then either fuel words
      else .error (.notBinary second)
    | 4, first :: second :: third :: fourth :: rest =>
      if first = "!" then
        (counted fuel 3 (second :: third :: fourth :: rest)).map fun (outcome, rest) =>
          (!outcome, rest)
      else if first = "(" && fourth = ")" then
        (counted fuel 2 [second, third]).map fun (outcome, _) => (outcome, rest)
      else either fuel words
    | _, _ => either fuel words

/-- Tests of which one must hold. -/
def either : Nat → List String → Read
  | 0, words => .ok (false, words)
  | fuel + 1, words => do
    let (first, words) ← both fuel words
    match words with
    | "-o" :: rest =>
      let (others, words) ← either fuel rest
      return (first || others, words)
    | _ => return (first, words)

/-- Tests that must all hold. -/
def both : Nat → List String → Read
  | 0, words => .ok (false, words)
  | fuel + 1, words => do
    let (first, words) ← term fuel words
    match words with
    | "-a" :: rest =>
      let (others, words) ← both fuel rest
      return (first && others, words)
    | _ => return (first, words)

/-- A single test. -/
def term : Nat → List String → Read
  | 0, words => .ok (false, words)
  | fuel + 1, words =>
    match words with
    | [] => .error (.missingArgument final)
    | "!" :: rest => (term fuel rest).map fun (outcome, rest) => (!outcome, rest)
    | "(" :: rest => do
      if rest.isEmpty then throw (.missingArgument final)
      let inside := (rest.drop 1).takeWhile (· ≠ ")")
      let count := if inside.length < 3 || (inside.length = 3 && 4 < rest.length &&
        rest[4]? = some ")") then inside.length + 1 else rest.length
      let (outcome, rest) ← counted fuel count rest
      match rest with
      | ")" :: rest => return (outcome, rest)
      | found :: _ => throw (.missingBefore ")" found)
      | [] => throw (.missing ")")
    | word :: rest =>
      match rest with
      | operator :: right :: behind =>
        if word = "-l" && binary.contains (behind.headD "") && !(behind.drop 1).isEmpty then
          (two m (toString operator.length) right (behind.headD "")).map fun outcome =>
            (outcome, behind.drop 1)
        else if binary.contains operator then
          (two m word operator right).map fun outcome => (outcome, behind)
        else single word rest
      | _ => single word rest

/-- A test with one operand, or of a word alone. -/
def single (word : String) (rest : List String) : Read :=
  if word.length = 2 && word.toList.head? = some '-' then
    if !unary.contains word then .error (.notUnary word)
    else match rest with
      | [] => .error (.missingArgument word)
      | operand :: rest => (one m word operand).map fun outcome => (outcome, rest)
  else .ok (!word.isEmpty, rest)

end

end

/-- The outcome of the words of a test. -/
def outcome (m : Machine) (words : List String) : Except Fault Bool :=
  match words with
  | [] => .ok false
  | _ =>
    match counted m (words.getLast?.getD "") (8 * words.length + 16) words.length words with
    | .error fault => .error fault
    | .ok (outcome, []) => .ok outcome
    | .ok (_, extra :: _) => .error (.extraArgument extra)

end Judge

/-- Run a test as a program. -/
def judge (m : Machine) (isBracket : Bool) (words : List String) : Machine :=
  if isBracket && words.getLast? ≠ some "]" then fault m 2 "missing ']'"
  else match Judge.outcome m (if isBracket then words.dropLast else words) with
    | .ok outcome => m.finish (if outcome then 0 else 1)
    | .error reason => fault m 2 reason.message

end NfvCatalog.Shell.Utility
