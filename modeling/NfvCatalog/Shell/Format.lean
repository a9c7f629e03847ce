import NfvCatalog.Number.Places
import NfvCatalog.Shell.Spelled

/-! # Printing of scripts

What `echo` and `printf` print. Texts are texts of bytes. Arguments that are no numbers are taken as
far as they go, and complained about.
-/

namespace NfvCatalog.Shell

/-! ## Escapes -/

/-- Whether a character is an octal digit. -/
def isOctal (c : Char) : Bool := '0' ≤ c && c ≤ '7'

/-- The character that an escaped letter stands for. -/
def escapeLetter? : Char → Option Char
  | 'a' => some '\x07'
  | 'b' => some '\x08'
  | 'e' => some '\x1b'
  | 'f' => some '\x0c'
  | 'n' => some '\n'
  | 'r' => some '\r'
  | 't' => some '\t'
  | 'v' => some '\x0b'
  | '\\' => some '\\'
  | _ => none

/-- The character of an escape, and the text behind it. A backslash that starts none stands for
itself. -/
def escape (cs : List Char) : Char × List Char :=
  match cs with
  | [] => ('\\', [])
  | c :: rest =>
    match escapeLetter? c with
    | some letter => (letter, rest)
    | none =>
      let digits := (cs.take 3).takeWhile isOctal
      if digits.isEmpty then ('\\', cs)
      else (Char.ofNat (Spelled.numeral 8 digits % 256), cs.drop digits.length)

/-- A text with its escapes replaced, and whether printing ends with it. `fuel` bounds the
characters. -/
def unescaped : Nat → List Char → List Char × Bool
  | 0, _ => ([], false)
  | fuel + 1, cs =>
    match cs with
    | [] => ([], false)
    | '\\' :: 'c' :: _ => ([], true)
    | '\\' :: rest =>
      let start := match rest with
        | '0' :: d :: tail => if isOctal d then d :: tail else rest
        | _ => rest
      let (c, rest) := escape start
      let (others, stops) := unescaped fuel rest
      (c :: others, stops)
    | c :: rest =>
      let (others, stops) := unescaped fuel rest
      (c :: others, stops)

/-- The text that `echo` prints. -/
def echo (words : List String) : String :=
  let (isOpen, words) := match words with
    | "-n" :: rest => (true, rest)
    | _ => (false, words)
  let text := Text.join " " words
  let (shown, stops) := unescaped (text.length + 1) text.toList
  String.ofList (shown ++ (if isOpen ∨ stops then [] else ['\n']))

/-! ## Directives -/

/-- How an argument is written: flags, width and precision. -/
structure Directive where
  flags : List Char := []
  width : Nat := 0
  precision : Option Nat := none
deriving DecidableEq, Repr, Inhabited

namespace Directive

/-- A text filled up to the width, with blanks or with zeros behind its sign. -/
def fill (directive : Directive) (takesZeros : Bool) (sign body : List Char) : List Char :=
  let missing := directive.width - (sign.length + body.length)
  if directive.flags.contains '-' then sign ++ body ++ List.replicate missing ' '
  else if takesZeros && directive.flags.contains '0' then sign ++ List.replicate missing '0' ++ body
  else List.replicate missing ' ' ++ sign ++ body

/-- A text cut to the precision and filled up. -/
def text (directive : Directive) (body : List Char) : List Char :=
  directive.fill false [] (match directive.precision with
    | some count => body.take count
    | none => body)

/-- The sign of a number. -/
def sign (directive : Directive) (isNegative : Bool) : List Char :=
  if isNegative then ['-']
  else if directive.flags.contains '+' then ['+']
  else if directive.flags.contains ' ' then [' ']
  else []

/-- Digits filled up to the precision; zero has none of a precision of zero. -/
def digits (directive : Directive) (radix n : Nat) : List Char :=
  let digits := Nat.toDigits radix n
  match directive.precision with
  | none => digits
  | some 0 => if n = 0 then [] else digits
  | some count => List.replicate (count - digits.length) '0' ++ digits

/-- A whole number with a sign. -/
def whole (directive : Directive) (n : Int) : List Char :=
  directive.fill directive.precision.isNone (directive.sign (n < 0))
    (directive.digits 10 n.natAbs)

/-- A whole number without a sign, in a radix; a flag puts the mark of the radix before it. -/
def unsigned (directive : Directive) (letter : Char) (n : Nat) : List Char :=
  let isMarked := directive.flags.contains '#'
  let radix := if letter = 'u' then 10 else if letter = 'o' then 8 else 16
  let digits := directive.digits radix n
  let upper (cs : List Char) : List Char := if letter = 'X' then cs.map Char.toUpper else cs
  if radix = 8 ∧ isMarked ∧ digits.head? ≠ some '0' then
    directive.fill directive.precision.isNone [] ('0' :: digits)
  else
    let mark := if radix = 16 ∧ isMarked ∧ n ≠ 0 then ['0', letter] else []
    directive.fill directive.precision.isNone mark (upper digits)

/-- A real number. -/
def real (directive : Directive) (letter : Char) (x : Binary64) : List Char :=
  let lower := letter.toLower
  let isMarked := directive.flags.contains '#'
  let cased (cs : List Char) : List Char := if letter = lower then cs else cs.map Char.toUpper
  match x with
  | .nan => directive.fill false [] (cased ['n', 'a', 'n'])
  | .infinite isNegative =>
    directive.fill false (directive.sign isNegative) (cased ['i', 'n', 'f'])
  | .finite isNegative significand exponent =>
    let value := Places.ratio significand exponent
    let places := directive.precision.getD 6
    let body :=
      if lower = 'a' then
        Places.hexadecimal isMarked directive.precision significand exponent
      else if lower = 'e' then Places.scientific isMarked places value
      else if lower = 'f' then Places.fixed isMarked places value
      else Places.general isMarked places value
    if lower = 'a' then
      directive.fill true (directive.sign isNegative ++ cased (body.take 2)) (cased (body.drop 2))
    else directive.fill true (directive.sign isNegative) (cased body)

end Directive

/-! ## Arguments -/

/-- What an argument is missing as a number. -/
inductive ArgumentFault where
  | notNumber
  | notWhole
  | outOfRange
deriving DecidableEq, Repr, Inhabited

/-- The wording of a fault of an argument. -/
def ArgumentFault.message : ArgumentFault → String
  | .notNumber => "expected numeric value"
  | .notWhole => "not completely converted"
  | .outOfRange => "Numerical result out of range"

/-- The fault of an argument that was read up to some text. -/
def argumentFault? (isFound isCut : Bool) (rest : List Char) : Option ArgumentFault :=
  if rest.isEmpty then (if isCut then some .outOfRange else none)
  else if isFound then some .notWhole else some .notNumber

/-- The whole number that an argument spells; a quote stands for the number of what follows it. -/
def wholeArgument (isWide : Bool) (argument : String) : Int × Option ArgumentFault :=
  match argument.toList with
  | '"' :: rest | '\'' :: rest => (((rest.head?).getD '\x00').toNat, none)
  | cs =>
    let found := Spelled.ofText isWide 0 cs
    (found.value, argumentFault? found.isFound found.isCut found.rest)

/-- The decimal number that a text starts with, and the text behind it. -/
def decimalPrefix? (isNegative : Bool) (cs : List Char) : Option (Binary64 × List Char) :=
  let whole := cs.takeWhile Char.isDigit
  let rest := cs.drop whole.length
  let (places, rest) := match rest with
    | '.' :: tail => (tail.takeWhile Char.isDigit, tail.dropWhile Char.isDigit)
    | _ => ([], rest)
  if whole.isEmpty && places.isEmpty then none
  else
    let (exponent, rest) := match rest with
      | e :: tail =>
        if e = 'e' ∨ e = 'E' then
          let found := Spelled.ofText false 10 tail
          if found.isFound && !(tail.head?.any Spelled.isSpace) then (found.value, found.rest)
          else (0, rest)
        else (0, rest)
      | [] => (0, rest)
    some (Binary64.ofDecimal isNegative (Spelled.numeral 10 (whole ++ places))
      (exponent - places.length), rest)

/-- The hexadecimal number that a text starts with behind its mark, and the text behind it. -/
def hexadecimalPrefix? (isNegative : Bool) (cs : List Char) : Option (Binary64 × List Char) :=
  let isDigit := Spelled.isDigit 16
  let whole := cs.takeWhile isDigit
  let rest := cs.drop whole.length
  let (places, rest) := match rest with
    | '.' :: tail => (tail.takeWhile isDigit, tail.dropWhile isDigit)
    | _ => ([], rest)
  if whole.isEmpty && places.isEmpty then none
  else
    let (exponent, rest) := match rest with
      | p :: tail =>
        if p = 'p' ∨ p = 'P' then
          let found := Spelled.ofText false 10 tail
          if found.isFound && !(tail.head?.any Spelled.isSpace) then (found.value, found.rest)
          else (0, rest)
        else (0, rest)
      | [] => (0, rest)
    let exponent := max (-5000) (min exponent 5000)
    some (Binary64.ofScaled isNegative (Spelled.numeral 16 (whole ++ places))
      (exponent - 4 * places.length), rest)

/-- The text behind a word in any case. -/
def afterWord? (word : String) (cs : List Char) : Option (List Char) :=
  if (cs.take word.length).map Char.toLower = word.toList then some (cs.drop word.length) else none

/-- The real number that an argument spells. -/
def realArgument (argument : String) : Binary64 × Option ArgumentFault :=
  match argument.toList with
  | '"' :: rest | '\'' :: rest => (Binary64.ofNat ((rest.head?).getD '\x00').toNat, none)
  | cs =>
    let start := cs.dropWhile Spelled.isSpace
    let (isNegative, body) := match start with
      | '-' :: rest => (true, rest)
      | '+' :: rest => (false, rest)
      | _ => (false, start)
    let found : Option (Binary64 × List Char) :=
      match (afterWord? "infinity" body).orElse fun _ => afterWord? "inf" body with
      | some rest => some (.infinite isNegative, rest)
      | none =>
        match afterWord? "nan" body with
        | some rest => some (.nan, rest)
        | none =>
          match (afterWord? "0x" body).bind (hexadecimalPrefix? isNegative) with
          | some found => some found
          | none => decimalPrefix? isNegative body
    match found with
    | none => (Binary64.zero false, argumentFault? false false cs)
    | some (x, rest) =>
      let isCut := x = .infinite isNegative && !(body.head?.any Char.isAlpha)
      (x, argumentFault? true isCut rest)

/-! ## Formats -/

/-- Why a format cannot be used. -/
inductive FormatFault where
  | missingLetter
  | badDirective (text : String)
deriving DecidableEq, Repr, Inhabited

/-- The wording of a fault of a format. -/
def FormatFault.message : FormatFault → String
  | .missingLetter => "missing format character"
  | .badDirective text => text ++ ": invalid directive"

/-- A print under way: what is printed, the last first, the arguments that are left, the arguments
that were complained about, and why it ends, if it does. -/
structure Printing where
  shown : List Char := []
  arguments : List String
  complaints : List (String × ArgumentFault) := []
  stops : Bool := false
  fault : Option FormatFault := none
deriving Inhabited

namespace Printing

/-- Print characters. -/
def add (printing : Printing) (text : List Char) : Printing :=
  { printing with shown := text.reverse ++ printing.shown }

/-- Take the next argument; behind the last one they are empty. -/
def argument (printing : Printing) : String × Printing :=
  ((printing.arguments.head?).getD "", { printing with arguments := printing.arguments.tail })

/-- Note the fault of an argument. -/
def noting (printing : Printing) (argument : String) (fault : Option ArgumentFault) : Printing :=
  { printing with
    complaints := printing.complaints ++ (fault.map fun fault => (argument, fault)).toList }

/-- Take the next argument as a whole number. -/
def wholeNumber (printing : Printing) (isWide : Bool) : Int × Printing :=
  let (argument, printing) := printing.argument
  let (n, fault) := wholeArgument isWide argument
  (n, printing.noting argument fault)

/-- The width or precision at the start of a text: digits, or an argument for an asterisk. -/
def size (printing : Printing) (cs : List Char) : Option Int × List Char × Printing :=
  match cs with
  | '*' :: rest =>
    let (n, printing) := printing.wholeNumber false
    (some n, rest, printing)
  | _ =>
    let digits := cs.takeWhile Char.isDigit
    (if digits.isEmpty then none else some (Spelled.numeral 10 digits : Nat), cs.drop digits.length,
      printing)

/-- The directive behind its sign, and the text behind it. -/
def directive (printing : Printing) (cs : List Char) : Directive × List Char × Printing :=
  let flags := cs.takeWhile fun c => "#-+ 0".toList.contains c
  let (width, rest, printing) := printing.size (cs.drop flags.length)
  let flags := if width.any (· < 0) then '-' :: flags else flags
  let width := (width.getD 0).natAbs
  match rest with
  | '.' :: rest =>
    let (precision, rest, printing) := printing.size rest
    let precision := precision.getD 0
    ({ flags, width, precision := if precision < 0 then none else some precision.toNat }, rest,
      printing)
  | _ => ({ flags, width, precision := none }, rest, printing)

/-- Print an argument under a directive's letter. -/
def argumentAs (printing : Printing) (form : Directive) (letter : Char) : Option Printing :=
  if "di".toList.contains letter then
    let (n, printing) := printing.wholeNumber false
    some (printing.add (form.whole n))
  else if "ouxX".toList.contains letter then
    let (n, printing) := printing.wholeNumber true
    some (printing.add (form.unsigned letter n.toNat))
  else if "aAeEfFgG".toList.contains letter then
    let (argument, printing) := printing.argument
    let (x, fault) := realArgument argument
    some ((printing.noting argument fault).add (form.real letter x))
  else
    let (argument, printing) := printing.argument
    match letter with
    | 's' => some (printing.add (form.text argument.toList))
    | 'c' => some (printing.add (form.fill false [] [(argument.toList.head?).getD '\x00']))
    | 'b' =>
      let (text, stops) := unescaped (argument.length + 1) argument.toList
      some { printing.add (form.text text) with stops }
    | _ => none

/-- Print by a format once. `fuel` bounds the characters. -/
def once : Nat → List Char → Printing → Printing
  | 0, _, printing => printing
  | fuel + 1, cs, printing =>
    match cs with
    | [] => printing
    | '\\' :: rest =>
      let (c, rest) := escape rest
      once fuel rest (printing.add [c])
    | '%' :: '%' :: rest => once fuel rest (printing.add ['%'])
    | '%' :: rest =>
      match printing.directive rest with
      | (_, [], printing) => { printing with fault := some .missingLetter }
      | (form, letter :: behind, printing) =>
        match printing.argumentAs form letter with
        | some printing => if printing.stops then printing else once fuel behind printing
        | none =>
          let text := '%' :: rest.take (rest.length - behind.length)
          { printing with fault := some (.badDirective (String.ofList text)) }
    | c :: rest => once fuel rest (printing.add [c])

/-- Print by a format, again while arguments are left and it takes any. `fuel` bounds the rounds. -/
def rounds : Nat → String → Printing → Printing
  | 0, _, printing => printing
  | fuel + 1, format, printing =>
    let done := once (format.length + 1) format.toList printing
    let isDone := done.stops || done.fault.isSome || done.arguments.isEmpty ||
      done.arguments.length = printing.arguments.length
    if isDone then done else rounds fuel format done

end Printing

/-- Print arguments by a format. -/
def printf (format : String) (arguments : List String) : Printing :=
  Printing.rounds (arguments.length + 1) format { arguments }

end NfvCatalog.Shell
