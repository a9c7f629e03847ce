import NfvCatalog.Shell.Format
import NfvCatalog.Shell.Utility.Options

/-! # Programs on words

The programs that print words, paths and numbers that they are given, and those that only end or
wait.
-/

namespace NfvCatalog.Shell.Utility

/-! ## Printing words -/

/-- The characters of an escape in so many digits at most. -/
def digitsEscape (radix most : Nat) (cs : List Char) : Option (Char × List Char) :=
  let digits := (cs.take most).takeWhile (Spelled.isDigit radix)
  if digits.isEmpty then none
  else some (Char.ofNat (Spelled.numeral radix digits % 256), cs.drop digits.length)

/-- A text with its escapes replaced, and whether printing ends with it. `fuel` bounds the
characters. -/
def echoed : Nat → List Char → List Char × Bool
  | 0, _ => ([], false)
  | fuel + 1, cs =>
    let one (c : Char) (rest : List Char) : List Char × Bool :=
      let (others, stops) := echoed fuel rest
      (c :: others, stops)
    match cs with
    | [] => ([], false)
    | '\\' :: 'c' :: _ => ([], true)
    | '\\' :: '0' :: rest =>
      match digitsEscape 8 3 rest with
      | some (c, rest) => one c rest
      | none => one '\x00' rest
    | '\\' :: 'x' :: rest =>
      match digitsEscape 16 2 rest with
      | some (c, rest) => one c rest
      | none =>
        let (others, stops) := one 'x' rest
        ('\\' :: others, stops)
    | '\\' :: c :: rest =>
      match escapeLetter? c, digitsEscape 8 3 (c :: rest) with
      | some letter, _ => one letter rest
      | none, some (d, rest) => one d rest
      | none, none =>
        let (others, stops) := one c rest
        ('\\' :: others, stops)
    | c :: rest => one c rest

/-- Print words; the options are those that stand at the start. -/
def printWords (m : Machine) (words : List String) : Machine :=
  let isOption (word : String) : Bool :=
    match word.toList with
    | '-' :: c :: letters => (c :: letters).all fun c => c = 'n' || c = 'e' || c = 'E'
    | _ => false
  let options := words.takeWhile isOption
  let letters := options.flatMap fun word => word.toList.drop 1
  let text := (Text.join " " (words.drop options.length)).toList
  let escapes := (letters.filter (· ≠ 'n')).getLast? = some 'e'
  let (shown, stops) := if escapes then echoed (text.length + 1) text else (text, false)
  let ending := if stops || letters.contains 'n' then [] else ['\n']
  (m.printText (String.ofList (shown ++ ending))).finish 0

/-- The fault of a word that is wanted as a number. -/
def numberFault (word : String) : ArgumentFault → String
  | .notNumber => inQuotes word ++ ": expected a numeric value"
  | .notWhole => inQuotes word ++ ": value not completely converted"
  | .outOfRange => inQuotes word ++ ": " ++ ArgumentFault.outOfRange.message

/-- A printing by a format, and the complaint that ends it. -/
structure Formatted where
  printing : Printing
  complaint : Option String := none
deriving Inhabited

/-- The text that a word is in quotes of its own, if it needs any. -/
def requoted (word : String) : String :=
  let isSafe (c : Char) : Bool := c.isAlphanum || "%+,-./:=@_^]".toList.contains c
  let isPrintable (c : Char) : Bool := ' ' ≤ c && c ≤ '~'
  if word.isEmpty then "''"
  else if word.toList.all isSafe then word
  else if word.toList.all isPrintable then
    if !word.toList.contains '\'' then inQuotes word
    else if word.toList.all fun c => c ≠ '"' && c ≠ '$' && c ≠ '\\' && c ≠ '\x60' then
      "\"" ++ word ++ "\""
    else "'" ++ String.join (word.toList.map fun c =>
      if c = '\'' then "'\\''" else String.singleton c) ++ "'"
  else
    let escaped (c : Char) : String :=
      match "abtnvfr".toList.idxOf? c with
      | some _ => String.singleton c
      | none =>
        let named := [('\x07', "\\a"), ('\x08', "\\b"), ('\t', "\\t"), ('\n', "\\n"),
          ('\x0b', "\\v"), ('\x0c', "\\f"), ('\r', "\\r")]
        match named.find? (·.1 = c) with
        | some (_, text) => text
        | none =>
          let digits := Nat.toDigits 8 c.toNat
          "\\" ++ String.ofList (List.replicate (3 - digits.length) '0' ++ digits)
    let step (state : String × Bool) (c : Char) : String × Bool :=
      if isPrintable c then
        let text := if c = '\'' then "\\'" else String.singleton c
        if state.2 then (state.1 ++ "''" ++ text, false) else (state.1 ++ text, false)
      else if state.2 then (state.1 ++ escaped c, true)
      else (state.1 ++ "'$'" ++ escaped c, true)
    (word.toList.foldl step ("'", false)).1 ++ "'"

/-- The escape of a format behind its backslash: its character, or why there is none. -/
def formatEscape (cs : List Char) : Except String (List Char × List Char) :=
  match cs with
  | 'x' :: rest =>
    match digitsEscape 16 2 rest with
    | some (c, rest) => .ok ([c], rest)
    | none => .error "missing hexadecimal number in escape"
  | u :: rest =>
    if u = 'u' ∨ u = 'U' then
      let count := if u = 'u' then 4 else 8
      let digits := (rest.take count).takeWhile (Spelled.isDigit 16)
      let n := Spelled.numeral 16 digits
      if digits.length < count then .error "missing hexadecimal number in escape"
      else
        let shown := if n < 128 then [Char.ofNat n]
          else (if n < 0x10000 then "\\u" else "\\U").toList ++
            (Digits.hexPadded (if n < 0x10000 then 4 else 8) n).toList.map Char.toUpper
        .ok (shown, rest.drop count)
    else if u = '"' then .ok (['"'], rest)
    else match escapeLetter? u, digitsEscape 8 3 cs with
      | some letter, _ => .ok ([letter], rest)
      | none, some (c, rest) => .ok ([c], rest)
      | none, none => .ok (['\\', u], rest)
  | [] => .ok (['\\'], [])

/-- Print an argument under a directive's letter. -/
def formattedArgument (printing : Printing) (form : Directive) (letter : Char) : Option Printing :=
  let taken := printing.argument
  let isMissing := printing.arguments.isEmpty
  if letter = 'q' then some (taken.2.add (form.text (requoted taken.1).toList))
  else if letter = 'b' then
    let (text, stops) := echoed (taken.1.length + 1) taken.1.toList
    some { taken.2.add (form.text text) with stops }
  else if letter = 'c' then
    some (taken.2.add (form.fill false [] (taken.1.toList.take 1)))
  else if "diouxXaAeEfFgGs".toList.contains letter then
    (printing.argumentAs form letter).map fun done =>
      if isMissing then { done with complaints := printing.complaints } else done
  else none

/-- Print by a format once. `fuel` bounds the characters. -/
def formattedOnce : Nat → List Char → Printing → Formatted
  | 0, _, printing => ⟨printing, none⟩
  | fuel + 1, cs, printing =>
    match cs with
    | [] => ⟨printing, none⟩
    | '\\' :: 'c' :: _ => ⟨{ printing with stops := true }, none⟩
    | '\\' :: rest =>
      match formatEscape rest with
      | .ok (shown, rest) => formattedOnce fuel rest (printing.add shown)
      | .error text => ⟨printing, some text⟩
    | '%' :: '%' :: rest => formattedOnce fuel rest (printing.add ['%'])
    | '%' :: rest =>
      let flagCount := (rest.takeWhile (· = '\'')).length
      let (form, behind, next) := printing.directive (rest.drop flagCount)
      let behind := behind.dropWhile fun c => "hlLjzt".toList.contains c
      let bad (count : Nat) : Formatted :=
        ⟨printing, some ("%" ++ String.ofList (rest.take count) ++
          ": invalid conversion specification")⟩
      match behind with
      | [] => bad rest.length
      | letter :: behind =>
        match formattedArgument next form letter with
        | some printing =>
          if printing.stops then ⟨printing, none⟩ else formattedOnce fuel behind printing
        | none => bad (rest.length - behind.length)
    | c :: rest => formattedOnce fuel rest (printing.add [c])

/-- Print by a format, again while arguments are left and it takes any. `fuel` bounds the rounds. -/
def formatted : Nat → String → Printing → Formatted
  | 0, _, printing => ⟨printing, none⟩
  | fuel + 1, format, printing =>
    let done := formattedOnce (format.length + 1) format.toList printing
    let left := done.printing.arguments
    let isDone := done.printing.stops || done.complaint.isSome || left.isEmpty ||
      left.length = printing.arguments.length
    if isDone then done else formatted fuel format done.printing

/-- Print arguments by a format. -/
def printFormatted (m : Machine) (words : List String) : Machine :=
  let words := if words.head? = some "--" then words.drop 1 else words
  match words with
  | [] => misuse m 1 "missing operand"
  | format :: arguments =>
    let done := formatted (arguments.length + 1) format { arguments }
    let m := m.printText (String.ofList done.printing.shown.reverse)
    let complaints := done.printing.complaints.map fun entry => numberFault entry.1 entry.2
    let m := (complaints ++ done.complaint.toList).foldl (fun m text => fault m 1 text)
      (m.finish 0)
    let left := done.printing.arguments
    if done.complaint.isSome || done.printing.stops || left.length ≠ arguments.length then m
    else match left with
      | next :: _ =>
        m.complain
          (m.name ++ ": warning: ignoring excess arguments, starting with " ++ inQuotes next)
      | [] => m

/-! ## Paths -/

/-- A path without slashes at its end. -/
def withoutEndSlashes (path : String) : String :=
  let kept := (path.toList.reverse.dropWhile (· = '/')).reverse
  if kept.isEmpty && !path.isEmpty then "/" else String.ofList kept

/-- The last name of a path. -/
def lastName (path : String) : String :=
  let path := withoutEndSlashes path
  if path = "/" then path
  else String.ofList (path.toList.reverse.takeWhile (· ≠ '/')).reverse

/-- A name without an end, unless it is all of it. -/
def withoutSuffix (name suffix : String) : String :=
  if Text.endsWith name suffix && name ≠ suffix && name ≠ "/" then
    String.ofList (name.toList.take (name.length - suffix.length))
  else name

/-- Print the last names of paths. -/
def basename (m : Machine) (words : List String) : Machine :=
  withGiven m ⟨Usage.ofLetters "as:z" [('a', "multiple"), ('s', "suffix"), ('z', "zero")], false, 1⟩
    words fun given =>
      let isMany := given.has 'a' || given.has 's'
      let ending := if given.has 'z' then "\x00" else "\n"
      match given.operands with
      | [] => misuse m 1 "missing operand"
      | first :: rest =>
        if isMany then
          let suffix := (given.value? 's').getD ""
          let lines := (first :: rest).map fun path =>
            withoutSuffix (lastName path) suffix ++ ending
          (m.printText (String.join lines)).finish 0
        else match rest with
          | _ :: extra :: _ => misuse m 1 ("extra operand " ++ inQuotes extra)
          | [suffix] => (m.printText (withoutSuffix (lastName first) suffix ++ ending)).finish 0
          | [] => (m.printText (lastName first ++ ending)).finish 0

/-- The directory of a path. -/
def directoryOf (path : String) : String :=
  let name := lastName path
  let path := withoutEndSlashes path
  if path = "/" then path
  else
    let front := String.ofList (path.toList.take (path.length - name.length))
    if front.isEmpty then "." else withoutEndSlashes front

/-- Print the directories of paths. -/
def dirname (m : Machine) (words : List String) : Machine :=
  withGiven m ⟨Usage.ofLetters "z" [('z', "zero")], true, 1⟩ words fun given =>
    let ending := if given.has 'z' then "\x00" else "\n"
    if given.operands.isEmpty then misuse m 1 "missing operand"
    else (m.printText (String.join (given.operands.map (directoryOf · ++ ending)))).finish 0

/-! ## Numbers -/

/-- A decimal number: how it is signed, its digits as a number, and the digits behind the point. -/
structure Decimal where
  digits : Int
  places : Nat
  width : Nat
deriving DecidableEq, Repr, Inhabited

/-- The decimal number that a text spells. -/
def decimal? (text : String) : Option Decimal :=
  let cs := text.toList.dropWhile Spelled.isSpace
  let (isNegative, body) := match cs with
    | '-' :: rest => (true, rest)
    | '+' :: rest => (false, rest)
    | _ => (false, cs)
  let whole := body.takeWhile Char.isDigit
  let rest := body.drop whole.length
  let (places, rest) := match rest with
    | '.' :: tail => (tail.takeWhile Char.isDigit, tail.dropWhile Char.isDigit)
    | _ => ([], rest)
  let sign (n : Nat) : Int := if isNegative then -(n : Int) else n
  match body with
  | '0' :: x :: hex =>
    if (x = 'x' || x = 'X') && !hex.isEmpty && hex.all (Spelled.isDigit 16) then
      some ⟨sign (Spelled.numeral 16 hex), 0, text.length⟩
    else decimalOf sign whole places rest
  | _ => decimalOf sign whole places rest
where
  /-- The number of digits, places and what is behind them. -/
  decimalOf (sign : Nat → Int) (whole places rest : List Char) : Option Decimal :=
    let n := Spelled.numeral 10 (whole ++ places)
    let width := whole.length + (if places.isEmpty then 0 else places.length + 1)
    if whole.isEmpty && places.isEmpty then none
    else match rest with
      | [] => some ⟨sign n, places.length, width⟩
      | e :: power =>
        let found := Spelled.ofText false 10 power
        if (e = 'e' || e = 'E') && found.isFound && found.rest.isEmpty then
          let power := max (-400) (min found.value 400)
          if power < places.length then
            some ⟨sign n, ((places.length : Int) - power).toNat, width⟩
          else some ⟨sign (n * Nat.pow 10 (power - places.length).toNat), 0, width⟩
        else none

/-- The digits of a number with another count of places. -/
def Decimal.scaled (d : Decimal) (places : Nat) : Int := d.digits * Nat.pow 10 (places - d.places)

/-- A number of so many places as a text. -/
def placesText (places : Nat) (n : Int) : String :=
  let digits := Nat.toDigits 10 n.natAbs
  let digits := List.replicate (places + 1 - digits.length) '0' ++ digits
  let whole := digits.take (digits.length - places)
  String.ofList ((if n < 0 then ['-'] else []) ++ whole ++
    (if places = 0 then [] else '.' :: digits.drop whole.length))

/-- The one directive of a format for numbers: the text before it, the directive, its letter and the
text behind it; or why the format is none. -/
def numberFormat (format : String) : Except String (List Char × Directive × Char × List Char) :=
  let rec before : List Char → List Char × List Char
    | '%' :: '%' :: rest => let (front, rest) := before rest; ('%' :: front, rest)
    | '%' :: rest => ([], '%' :: rest)
    | c :: rest => let (front, rest) := before rest; (c :: front, rest)
    | [] => ([], [])
  let named := "format " ++ inQuotes format
  match before format.toList with
  | (_, []) => .error (named ++ " has no % directive")
  | (front, _ :: rest) =>
    let (form, behind, _) := ({ arguments := [] } : Printing).directive rest
    match behind with
    | [] => .error (named ++ " ends in %")
    | letter :: behind =>
      if !"efgaEFGA".toList.contains letter then
        .error (named ++ " has unknown %" ++ String.singleton letter ++ " directive")
      else match before behind with
        | (tail, []) => .ok (front, form, letter, tail)
        | _ => .error (named ++ " has too many % directives")

/-- The most numbers that are printed; more take all time. -/
def countLimit : Nat := 100000

/-- Print numbers from a first to a last one. -/
def seq (m : Machine) (words : List String) : Machine :=
  let isNumber (word : String) : Bool :=
    match word.toList with
    | '-' :: c :: _ => c.isDigit || c = '.'
    | _ => false
  let rules := Usage.ofLetters "f:s:w" [('f', "format"), ('s', "separator"), ('w', "equal-width")]
  let takesValue (word : String) : Bool :=
    ["-s", "-f", "--separator", "--format"].contains word
  let rec cut : Bool → List String → List String
    | _, [] => []
    | isValue, word :: rest =>
      if !isValue && isNumber word then "--" :: word :: rest
      else if !isValue && (word = "--" || word.toList.head? ≠ some '-') then word :: rest
      else word :: cut (!isValue && takesValue word) rest
  withGiven m ⟨rules, false, 1⟩ (cut false words) fun given =>
    let invalid (text : String) : Machine :=
      misuse m 1 (if (Text.asciiLower text) = "nan" then
        "invalid 'not-a-number' argument: " ++ inQuotes text
        else "invalid floating point argument: " ++ inQuotes text)
    let isEndless (text : String) : Bool := ["inf", "infinity"].contains (Text.asciiLower text)
    let known (text : String) : Bool := (decimal? text).isSome || isEndless text
    match given.operands with
    | [] => misuse m 1 "missing operand"
    | _ :: _ :: _ :: extra :: _ => misuse m 1 ("extra operand " ++ inQuotes extra)
    | operands =>
      match operands.find? (!known ·) with
      | some text => invalid text
      | none =>
        let one : Decimal := ⟨1, 0, 1⟩
        let number (text : String) : Decimal :=
          (decimal? text).getD ⟨Nat.pow 10 30, 0, 1⟩
        let (first, step, last, stepText) := match operands with
          | [last] => (one, one, number last, "1")
          | [first, last] => (number first, one, number last, "1")
          | first :: step :: last :: _ => (number first, number step, number last, step)
          | [] => (one, one, one, "1")
        if step.digits = 0 then
          misuse m 1 ("invalid Zero increment value: " ++ inQuotes stepText)
        else
          let shownPlaces := max first.places step.places
          let places := max shownPlaces last.places
          let a := first.scaled places
          let b := step.scaled places
          let z := last.scaled places
          let count := if 0 < b then (if z < a then 0 else ((z - a) / b).toNat + 1)
            else (if a < z then 0 else ((a - z) / (-b)).toNat + 1)
          let form? := (given.value? 'f').map numberFormat
          let fixed (n : Int) : String :=
            placesText shownPlaces (Int.tdiv n (Nat.pow 10 (places - shownPlaces)))
          let greatest := a + b * ((count : Int) - 1)
          let width := if given.has 'w' then
              max (fixed a).length (max (fixed greatest).length (fixed z).length)
            else 0
          let widened (text : String) : String :=
            let (sign, digits) := match text.toList with
              | '-' :: digits => (['-'], digits)
              | digits => ([], digits)
            String.ofList (sign ++ List.replicate (width - text.length) '0' ++ digits)
          let shown (n : Int) : String := match form? with
            | some (.ok (front, form, letter, tail)) =>
              let x := Binary64.ofDecimal (n < 0) n.natAbs (-(places : Int))
              String.ofList (front ++ form.real letter x ++ tail)
            | _ => widened (fixed n)
          match form? with
          | some (.error text) => fault m 1 text
          | _ =>
            let lines := (List.range (min count countLimit)).map fun (i : Nat) => shown (a + b * i)
            let text := Text.join ((given.value? 's').getD "\n") lines
            let m := (m.printText (if lines.isEmpty then "" else text ++ "\n")).finish 0
            if countLimit < count then m.stop .outOfTime else m

/-! ## Waiting -/

/-- The milliseconds of a time such as `0.5m`; nothing if it never ends. -/
def milliseconds? (text : String) : Option (Option Nat) :=
  let cs := text.toList
  let units : List (Char × Nat) := [('s', 1), ('m', 60), ('h', 3600), ('d', 86400)]
  let (body, unit) := match cs.reverse with
    | c :: front =>
      match units.find? (·.1 = c) with
      | some (_, unit) => (String.ofList front.reverse, unit)
      | none => (text, 1)
    | [] => (text, 1)
  if ["inf", "infinity"].contains (Text.asciiLower body) then some none
  else match decimal? body with
    | some d =>
      if d.digits < 0 then none
      else some (some (d.digits.toNat * 1000 * unit / Nat.pow 10 d.places))
    | none => none

/-- Wait for the sum of some times. -/
def sleep (m : Machine) (words : List String) : Machine :=
  withGiven m ⟨[], true, 1⟩ words fun given =>
    let times := given.operands.map fun text => (text, milliseconds? text)
    let bad := times.filter (·.2.isNone)
    match given.operands, bad.getLast? with
    | [], _ => misuse m 1 "missing operand"
    | _, some (last, _) =>
      let m := bad.dropLast.foldl
        (fun m entry => m.complain (m.name ++ ": invalid time interval " ++ inQuotes entry.1)) m
      misuse m 1 ("invalid time interval " ++ inQuotes last)
    | _, none =>
      if times.any (·.2 = some none) then m.stop .outOfTime
      else (m.wait (times.foldl (fun total entry => total + entry.2.join.getD 0) 0)).finish 0

/-- Print words without end. -/
def yes (m : Machine) (words : List String) : Machine :=
  withGiven m ⟨[], true, 1⟩ words fun given =>
    let line := (if given.operands.isEmpty then "y" else Text.join " " given.operands) ++ "\n"
    (m.printText (String.join (List.replicate 20000 line))).stop .outOfTime

/-! ## What the machine is -/

/-- Print the variables of a program, or the values of some. -/
def printenv (m : Machine) (words : List String) : Machine :=
  withGiven m ⟨Usage.ofLetters "0" [('0', "null")], false, 2⟩ words fun given =>
    let ending := if given.has '0' then "\x00" else "\n"
    if given.operands.isEmpty then
      let lines := m.bindings.map fun entry => entry.1 ++ "=" ++ entry.2.value.getD "" ++ ending
      (m.printText (String.join lines)).finish 0
    else
      let values := given.operands.map m.valueOf?
      let lines := values.filterMap fun value => value.map (· ++ ending)
      (m.printText (String.join lines)).finish (if values.all Option.isSome then 0 else 1)

/-- Print a fixed text; operands are not allowed. -/
def fixedText (m : Machine) (text : String) (words : List String) : Machine :=
  withGiven m ⟨[], true, 1⟩ words fun given =>
    match given.operands with
    | extra :: _ => misuse m 1 ("extra operand " ++ inQuotes extra)
    | [] => (m.printText (text ++ "\n")).finish 0

/-- Print who runs the program. -/
def id (m : Machine) (words : List String) : Machine :=
  withGiven m ⟨Usage.ofLetters "agGnruz" [('u', "user"), ('g', "group"), ('G', "groups"),
    ('n', "name"), ('r', "real"), ('z', "zero")], true, 1⟩ words fun given =>
    let isOne := given.has 'u' || given.has 'g' || given.has 'G'
    match given.operands.find? (· ≠ "root") with
    | some user => fault m 1 (inQuotes user ++ ": no such user")
    | none =>
      let text := if !isOne then "uid=0(root) gid=0(root) groups=0(root)"
        else if given.has 'n' then "root" else "0"
      (m.printText (text ++ "\n")).finish 0

/-- Print what the system is called. -/
def uname (m : Machine) (words : List String) : Machine :=
  withGiven m ⟨Usage.ofLetters "asnrvmpio" [('s', "kernel-name"), ('o', "operating-system"),
    ('m', "machine"), ('a', "all")], true, 1⟩ words fun given =>
    match given.operands with
    | extra :: _ => misuse m 1 ("extra operand " ++ inQuotes extra)
    | [] =>
      let parts := [('s', "Linux"), ('m', "x86_64"), ('p', "x86_64"), ('i', "x86_64"),
        ('o', "GNU/Linux")]
      let shown := if given.options.isEmpty then ["Linux"]
        else (parts.filter fun part => given.has part.1).map Prod.snd
      (m.printText (Text.join " " shown ++ "\n")).finish 0

/-- Print the directory that the program runs in. -/
def pwd (m : Machine) (words : List String) : Machine :=
  let rules := Usage.ofLetters "LP" [('L', "logical"), ('P', "physical")]
  withGiven m ⟨rules, true, 1⟩ words fun given =>
    let m := if given.operands.isEmpty then m
      else m.complain (m.name ++ ": ignoring non-option arguments")
    (m.printText (m.directory ++ "\n")).finish 0

/-- Print the paths of programs. -/
def which (m : Machine) (words : List String) : Machine :=
  let showsAll := words.head? = some "-a"
  let names := if showsAll then words.drop 1 else words
  let found (name : String) : List String :=
    let candidates := if name.toList.contains '/' then [name]
      else (Text.split ':' m.searchPath).map (Launch.inDirectory · name)
    let runnable := candidates.filter fun path =>
      match m.entryAt path with
      | .ok (.file _ executable) => executable
      | _ => false
    if showsAll then runnable else runnable.take 1
  let paths := names.map found
  let m := m.printText (String.join (paths.flatten.map (· ++ "\n")))
  m.finish (if names.isEmpty || paths.any List.isEmpty then 1 else 0)

end NfvCatalog.Shell.Utility
