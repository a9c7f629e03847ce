import NfvCatalog.Shell.Script
import NfvCatalog.Shell.Spelled

/-! # Arithmetic of scripts

Whole numbers of 64 bits with the usual operators, their ranks and parentheses. A name stands for
the number that its variable spells, and can be given a number. What a condition leaves out is read
but not computed.
-/

namespace NfvCatalog.Shell.Sum

/-! ## Signs -/

/-- A symbol of an expression. -/
inductive Symbol where
  | number (n : Int)
  | name (text : String)
  | sign (text : String)
  | strange
  | finish
deriving DecidableEq, Repr, Inhabited

/-- The signs of expressions. Longer ones come before their beginnings. -/
def signs : List String :=
  ["<<=", ">>=", "||", "&&", "==", "!=", "<=", ">=", "<<", ">>", "|=", "&=", "*=", "/=", "%=", "+=",
    "-=", "^=", "=", "<", ">", "|", "&", "!", "(", ")", "*", "/", "%", "+", "-", "^", "~", "?", ":"]

/-- The symbol that a text starts with, and the text behind it. -/
def symbol (cs : List Char) : Symbol × List Char :=
  let cs := cs.dropWhile fun c => c = ' ' || c = '\t' || c = '\n'
  match cs with
  | [] => (.finish, [])
  | c :: rest =>
    if c.isDigit then
      let found := Spelled.ofText false 0 cs
      (.number found.value, found.rest)
    else if startsName c then
      let name := cs.takeWhile isNameChar
      (.name (String.ofList name), cs.drop name.length)
    else match signs.find? (·.toList.isPrefixOf cs) with
      | some sign => (.sign sign, cs.drop sign.length)
      | none => (.strange, rest)

/-! ## Numbers -/

/-- Why an expression has no value. -/
inductive Fault where
  | expecting (what : String)
  | divisionByZero
  | tooLarge
  | illegalNumber (text : String)
  | readOnly (name : String)
deriving DecidableEq, Repr, Inhabited

/-- The wording of a fault of an expression. -/
def Fault.message (expression : String) : Fault → String
  | .expecting what => "arithmetic expression: expecting " ++ what ++ ": \"" ++ expression ++ "\""
  | .divisionByZero => "arithmetic expression: division by zero: \"" ++ expression ++ "\""
  | .tooLarge => "arithmetic expression: too large"
  | .illegalNumber text => "Illegal number: " ++ text
  | .readOnly name => name ++ ": is read only"

/-- A number as it is kept in 64 bits. -/
def wrap (n : Int) : Int := Int.bmod n UInt64.size

/-- The number of a truth value. -/
def ofBool (b : Bool) : Int := if b then 1 else 0

/-- The bits of a number. -/
def bits (n : Int) : Nat := (n % UInt64.size).toNat

/-- The operators of two numbers by rank, the loosest first. -/
def ranks : List (List String) :=
  [["|"], ["^"], ["&"], ["==", "!="], ["<", "<=", ">", ">="], ["<<", ">>"], ["+", "-"],
    ["*", "/", "%"]]

/-- The value of an operator. -/
def apply (sign : String) (a b : Int) : Except Fault Int :=
  match sign with
  | "|" => .ok (wrap (bits a ||| bits b))
  | "^" => .ok (wrap (Nat.xor (bits a) (bits b)))
  | "&" => .ok (wrap (bits a &&& bits b))
  | "==" => .ok (ofBool (a = b))
  | "!=" => .ok (ofBool (a ≠ b))
  | "<" => .ok (ofBool (a < b))
  | "<=" => .ok (ofBool (a ≤ b))
  | ">" => .ok (ofBool (b < a))
  | ">=" => .ok (ofBool (b ≤ a))
  | "<<" => .ok (wrap (a * Nat.pow 2 (b % 64).toNat))
  | ">>" => .ok (a / Nat.pow 2 (b % 64).toNat)
  | "+" => .ok (wrap (a + b))
  | "-" => .ok (wrap (a - b))
  | "*" => .ok (wrap (a * b))
  | _ =>
    if b = 0 then .error .divisionByZero
    else if b = -1 ∧ a = -Spelled.greatest - 1 then .error .tooLarge
    else .ok (if sign = "/" then Int.tdiv a b else Int.tmod a b)

/-! ## Expressions -/

/-- An expression while it is read: the next symbol, the text behind it, and the numbers that names
were given, the last first. -/
structure State where
  next : Symbol
  rest : List Char
  given : List (String × Int) := []
deriving Inhabited

/-- Go on behind the next symbol. -/
def State.tail (state : State) : State :=
  let (next, rest) := symbol state.rest
  { state with next, rest }

/-- What variables are to an expression: their texts, and those that cannot be given a value. -/
structure Scope where
  lookup : String → String
  isReadOnly : String → Bool

/-- The number that a name stands for. -/
def Scope.value (scope : Scope) (given : List (String × Int)) (name : String) : Except Fault Int :=
  match given.find? (·.1 = name) with
  | some (_, n) => .ok n
  | none =>
    let text := scope.lookup name
    match Spelled.all? 0 text with
    | some n => .ok n
    | none => .error (.illegalNumber text)

/-- The operator of a sign that gives a name a value: no operator for the plain one. -/
def givingSign? : Symbol → Option String
  | .sign text =>
    if text = "=" then some ""
    else if ["|=", "^=", "&=", "<<=", ">>=", "+=", "-=", "*=", "/=", "%="].contains text then
      some (String.ofList text.toList.dropLast)
    else none
  | _ => none

mutual

/-- An expression that may give a name a value. `isLive` says whether it is computed. -/
def giving (scope : Scope) : Nat → Bool → State → Except Fault (Int × State)
  | 0, _, _ => .error (.expecting "primary")
  | fuel + 1, isLive, state =>
    let behind := state.tail
    match state.next, givingSign? behind.next with
    | .name name, some sign => do
      let (n, state) ← giving scope fuel isLive behind.tail
      if !isLive then return (n, state)
      let n ← if sign.isEmpty then pure n else apply sign (← scope.value state.given name) n
      if scope.isReadOnly name then throw (.readOnly name)
      return (n, { state with given := (name, n) :: state.given })
    | _, _ => choice scope fuel isLive state

/-- A condition with its two outcomes, or an expression without one. -/
def choice (scope : Scope) : Nat → Bool → State → Except Fault (Int × State)
  | 0, _, _ => .error (.expecting "primary")
  | fuel + 1, isLive, state => do
    let (a, state) ← either scope fuel isLive state
    if state.next ≠ .sign "?" then return (a, state)
    let (b, state) ← giving scope fuel (isLive && a ≠ 0) state.tail
    if state.next ≠ .sign ":" then throw (.expecting "':'")
    let (c, state) ← choice scope fuel (isLive && a = 0) state.tail
    return (if a ≠ 0 then b else c, state)

/-- Expressions of which one must be true. -/
def either (scope : Scope) : Nat → Bool → State → Except Fault (Int × State)
  | 0, _, _ => .error (.expecting "primary")
  | fuel + 1, isLive, state => do
    let (a, state) ← both scope fuel isLive state
    if state.next ≠ .sign "||" then return (a, state)
    let (b, state) ← either scope fuel (isLive && a = 0) state.tail
    return (ofBool (a ≠ 0 || b ≠ 0), state)

/-- Expressions that must all be true. -/
def both (scope : Scope) : Nat → Bool → State → Except Fault (Int × State)
  | 0, _, _ => .error (.expecting "primary")
  | fuel + 1, isLive, state => do
    let (a, state) ← ranked scope fuel isLive ranks state
    if state.next ≠ .sign "&&" then return (a, state)
    let (b, state) ← both scope fuel (isLive && a ≠ 0) state.tail
    return (ofBool (a ≠ 0 && b ≠ 0), state)

/-- An expression of operators no looser than the given ranks. -/
def ranked (scope : Scope) : Nat → Bool → List (List String) → State → Except Fault (Int × State)
  | 0, _, _, _ => .error (.expecting "primary")
  | fuel + 1, isLive, [], state => primary scope fuel isLive state
  | fuel + 1, isLive, rank :: tighter, state => do
    let (a, state) ← ranked scope fuel isLive tighter state
    operands scope fuel isLive rank tighter a state

/-- The operands that follow one, from the left. -/
def operands (scope : Scope) : Nat → Bool → List String → List (List String) → Int → State →
    Except Fault (Int × State)
  | 0, _, _, _, _, _ => .error (.expecting "primary")
  | fuel + 1, isLive, rank, tighter, a, state =>
    match state.next with
    | .sign sign =>
      if rank.contains sign then do
        let (b, state) ← ranked scope fuel isLive tighter state.tail
        let a ← if isLive then apply sign a b else pure b
        operands scope fuel isLive rank tighter a state
      else .ok (a, state)
    | _ => .ok (a, state)

/-- A number, a name, an expression in parentheses, or one of these with a sign before it. -/
def primary (scope : Scope) : Nat → Bool → State → Except Fault (Int × State)
  | 0, _, _ => .error (.expecting "primary")
  | fuel + 1, isLive, state =>
    match state.next with
    | .number n => .ok (n, state.tail)
    | .name name =>
      if isLive then (scope.value state.given name).map fun n => (n, state.tail)
      else .ok (0, state.tail)
    | .sign "(" => do
      let (a, state) ← giving scope fuel isLive state.tail
      if state.next ≠ .sign ")" then throw (.expecting "')'")
      return (a, state.tail)
    | .sign "+" => primary scope fuel isLive state.tail
    | .sign "-" => (primary scope fuel isLive state.tail).map fun (a, state) => (wrap (-a), state)
    | .sign "!" =>
      (primary scope fuel isLive state.tail).map fun (a, state) => (ofBool (a = 0), state)
    | .sign "~" => (primary scope fuel isLive state.tail).map fun (a, state) => (-a - 1, state)
    | _ => .error (.expecting "primary")

end

/-- The value of an expression, and the values that it gives to names, the first first. -/
def value (scope : Scope) (text : String) : Except Fault (Int × List (String × Int)) := do
  let start : State := { next := .finish, rest := text.toList }
  let (n, state) ← giving scope (16 * text.length + 32) true start.tail
  if state.next ≠ .finish then throw (.expecting "EOF")
  return (n, state.given.reverse)

end NfvCatalog.Shell.Sum
