import NfvCatalog.Shell.Format
import NfvCatalog.Shell.Utility.Options
import NfvCatalog.Shell.Wildcard

/-! # Programs on lines

The programs that read texts and print their lines, some of them, or numbers about them.
-/

namespace NfvCatalog.Shell.Utility

/-! ## Printing whole texts -/

/-- A character as it is shown where it cannot be printed. -/
def visible (tabs : Bool) (c : Char) : List Char :=
  let shown (n : Nat) : List Char :=
    if n = 127 then ['^', '?']
    else if n < 32 then ['^', Char.ofNat (n + 64)]
    else [Char.ofNat n]
  let n := c.toNat
  if c = '\t' then (if tabs then ['^', 'I'] else [c])
  else if n < 128 then shown n
  else 'M' :: '-' :: shown (n - 128)

/-- A number in so many places. -/
def inPlaces (width n : Nat) : List Char :=
  let digits := Nat.toDigits 10 n
  List.replicate (width - digits.length) ' ' ++ digits

/-- What `cat` has printed so far: the number of lines, and the empty lines in a row. -/
structure Numbered where
  number : Nat := 0
  empties : Nat := 0
  shown : List Char := []
deriving Inhabited

/-- Print lines with numbers and marks. The last line may have no line break. -/
def numbered (given : Given) (start : Numbered) (content : List Char) : Numbered :=
  let lines := Text.splitChars '\n' content
  let isFull := lines.getLast? = some []
  let body := if isFull then lines.dropLast else lines
  let shows (letters : String) : Bool := given.options.any fun o => letters.toList.contains o.1
  let step (state : Numbered) (entry : List Char × Nat) : Numbered :=
    let line := entry.1
    let hasBreak := isFull || entry.2 + 1 < body.length
    let empties := if line.isEmpty && hasBreak then state.empties + 1 else 0
    if shows "s" && 1 < empties then { state with empties }
    else
      let counts := if shows "b" then !line.isEmpty else shows "n"
      let number := if counts then state.number + 1 else state.number
      let front := if counts then inPlaces 6 number ++ ['\t'] else []
      let text :=
        if shows "vAet" then line.flatMap (visible (shows "ATt"))
        else if shows "T" then line.flatMap fun c => if c = '\t' then ['^', 'I'] else [c]
        else line
      let ended := if hasBreak then (if shows "AEe" then ['$', '\n'] else ['\n']) else []
      ⟨number, empties, state.shown ++ front ++ text ++ ended⟩
  body.zipIdx.foldl step { start with shown := [] }

/-- Print texts one after another. -/
def cat (m : Machine) (words : List String) : Machine :=
  let usage : Usage := ⟨[⟨'b', "number-nonblank", .never⟩, ⟨'n', "number", .never⟩,
    ⟨'s', "squeeze-blank", .never⟩, ⟨'v', "show-nonprinting", .never⟩, ⟨'E', "show-ends", .never⟩,
    ⟨'T', "show-tabs", .never⟩, ⟨'A', "show-all", .never⟩, ⟨'e', "", .never⟩, ⟨'t', "", .never⟩,
    ⟨'u', "", .never⟩], true, 1⟩
  withGiven m usage words fun given =>
    if given.options.all (·.1 = 'u') then
      withContents m 1 unread given.operands fun m _ content => m.printText (String.ofList content)
    else
      let paths := if given.operands.isEmpty then ["-"] else given.operands
      (paths.foldl (fun (state : Machine × Numbered) path =>
        match contentOf state.1 path with
        | (m, .ok content) =>
          let next := numbered given state.2 content
          (m.printText (String.ofList next.shown), next)
        | (m, .error error) => (fault m 1 (unread path error), state.2)) (m.finish 0, {})).1

/-! ## Fronts and ends -/

/-- A count with a letter for what it counts in. -/
def countOf? (text : String) : Option Nat :=
  let digits := text.toList.takeWhile Char.isDigit
  let unit? : Option Nat := match String.ofList (text.toList.drop digits.length) with
    | "" => some 1
    | "b" => some 512
    | "k" | "K" | "KiB" => some 1024
    | "kB" | "KB" => some 1000
    | "m" | "M" | "MiB" => some 1048576
    | "MB" => some 1000000
    | "G" | "GiB" => some 1073741824
    | _ => none
  if digits.isEmpty then none else unit?.map (Spelled.numeral 10 digits * ·)

/-- What `head` and `tail` are asked for: bytes or lines, the count as it is written, and whether
the names of files are printed. -/
structure Portion where
  inBytes : Bool := false
  count : String := "10"
  names : Option Bool := none
  operands : List String := []
deriving Repr, Inhabited

/-- The options that are left of a word whose digits are a count of lines or bytes. -/
def oldPortion? (word : String) : Option (Bool × String × List Char) :=
  match word.toList with
  | '-' :: rest =>
    let digits := rest.takeWhile Char.isDigit
    let letters := rest.drop digits.length
    if digits.isEmpty then none
    else
      let others := letters.filter fun c => c ≠ 'c' && c ≠ 'l'
      some (letters.contains 'c', String.ofList digits, others)
  | _ => none

/-- Read what a portion is asked for. -/
def portion (given : Given) : Portion :=
  let names := (given.last? ['q', 'v']).map (· == 'v')
  let isBytes := given.last? ['n', 'c'] = some 'c'
  let count := (given.last? ['n', 'c']).bind given.value?
  { inBytes := isBytes, count := count.getD "10", names, operands := given.operands }

/-- The usage of `head` and `tail`. -/
def portionUsage : Usage :=
  ⟨[⟨'c', "bytes", .always⟩, ⟨'n', "lines", .always⟩, ⟨'q', "quiet", .never⟩,
    ⟨'q', "silent", .never⟩, ⟨'v', "verbose", .never⟩, ⟨'z', "zero-terminated", .never⟩], true, 1⟩

/-- The first lines of a text, each with its line break. -/
def firstLines : Nat → List Char → List Char
  | 0, _ => []
  | _, [] => []
  | count + 1, c :: rest => c :: firstLines (if c = '\n' then count else count + 1) rest

/-- The number of lines of a text, a last one without line break included. -/
def lineCount (content : List Char) : Nat := (linesOf content).length

/-- Print portions of texts under their names. A front of an input can be taken before the input
ends. -/
def printPortions (m : Machine) (asked : Portion) (isFront : Bool)
    (take : List Char → List Char) : Machine :=
  let paths := if asked.operands.isEmpty then ["-"] else asked.operands
  let named := asked.names.getD (1 < paths.length)
  let step (state : Machine × Bool) (path : String) : Machine × Bool :=
    let isInput := path = "-"
    let fixed := isInput && state.1.canGoBack 0
    let isOpen := isFront && isInput && state.1.isEndless 0
    let read := if isOpen then (state.1, (state.1.remaining 0).map fun bytes =>
        bytes.map fun byte => Char.ofNat byte.toNat)
      else if isFront && asked.inBytes && state.1.isZeros path then
        (state.1, .ok (List.replicate ((countOf? asked.count).getD 0) '\x00'))
      else contentOf state.1 path
    match read with
    | (_, .error error) => (fault state.1 1 (unopened path error), state.2)
    | (m, .ok content) =>
      let shown := if isInput then "standard input" else path
      let head := if named then
          (if state.2 then "\n" else "") ++ "==> " ++ shown ++ " <==\n"
        else ""
      let taken := take content
      let m := if fixed && taken.isPrefixOf content then state.1.skip 0 taken.length else m
      let m := if isOpen && taken.length = content.length then m.stop .outOfTime else m
      (m.printText (head ++ String.ofList taken), true)
  (paths.foldl step (m.finish 0, false)).1

/-- Run a program on a portion: the count as a number, and whether a sign was before it. -/
def withPortion (m : Machine) (signs : List Char) (words : List String)
    (act : Portion → Option Char → Nat → Machine) : Machine :=
  let run (asked : Portion) : Machine :=
    let sign := asked.count.toList.head?.filter signs.contains
    let digits := if sign.isSome then String.ofList (asked.count.toList.drop 1) else asked.count
    match countOf? digits with
    | some count =>
      if 0xFFFFFFFFFFFFFFFF < count then
        fault m 1 ("invalid number of " ++ (if asked.inBytes then "bytes" else "lines") ++ ": " ++
          inQuotes digits ++ ": Value too large for defined data type")
      else act asked sign count
    | none =>
      fault m 1 ("invalid number of " ++ (if asked.inBytes then "bytes" else "lines") ++ ": " ++
        inQuotes digits)
  match words.head?.bind oldPortion? with
  | some (inBytes, count, letters) =>
    match letters.find? fun c => c ≠ 'q' && c ≠ 'v' && c ≠ 'z' with
    | some c => fault m 1 ("invalid trailing option -- " ++ String.singleton c ++
        "\nTry '" ++ m.name ++ " --help' for more information.")
    | none =>
      withGiven m portionUsage (words.drop 1) fun given =>
        let asked := portion given
        let isSaid := (given.last? ['n', 'c']).isSome
        run (if isSaid then asked else { asked with inBytes, count })
  | none => withGiven m portionUsage words fun given => run (portion given)

/-- Print the first lines or bytes of texts, or all but the last ones. -/
def head (m : Machine) (words : List String) : Machine :=
  withPortion m ['-', '+'] words fun asked sign count =>
    printPortions m asked (sign ≠ some '-') fun content =>
      let size := if asked.inBytes then content.length else lineCount content
      let kept := if sign = some '-' then size - count else count
      if asked.inBytes then content.take kept else firstLines kept content

/-- Print the last lines or bytes of texts, or those from a place on. -/
def tail (m : Machine) (words : List String) : Machine :=
  let words := match words with
    | word :: rest =>
      if Text.startsWith word "+" && (word.toList.drop 1).all Char.isDigit && rest.length ≤ 1 &&
          1 < word.length then
        "-n" :: word :: rest
      else words
    | [] => words
  withPortion m ['-', '+'] words fun asked sign count =>
    printPortions m asked false fun content =>
      let size := if asked.inBytes then content.length else lineCount content
      let skipped := if sign = some '+' then count - 1 else size - count
      if asked.inBytes then content.drop skipped
      else content.drop (firstLines skipped content).length

/-! ## Orders -/

/-- The pieces of a text, each with its line break; the last one may have none. -/
def brokenLines (content : List Char) : List (List Char) :=
  let lines := Text.splitChars '\n' content
  (lines.dropLast.map (· ++ ['\n'])) ++ (lines.getLast?.filter (!·.isEmpty)).toList

/-- Print lines from the last to the first. -/
def tac (m : Machine) (words : List String) : Machine :=
  let complaint (path : String) (error : FileError) : String :=
    if error = .isDirectory then path ++ ": read error: Invalid argument"
    else "failed to open " ++ inQuotes path ++ " for reading: " ++ error.reason
  let rules := Usage.ofLetters "brs:" [('b', "before"), ('r', "regex"), ('s', "separator")]
  withGiven m ⟨rules, true, 1⟩ words fun given =>
      withContents m 1 complaint given.operands fun m _ content =>
        m.printText (String.ofList (brokenLines content).reverse.flatten)

/-- Print lines with their characters from the last to the first. -/
def rev (m : Machine) (words : List String) : Machine :=
  let complaint (path : String) (error : FileError) : String :=
    "cannot open " ++ path ++ ": " ++ error.reason
  withContents m 1 complaint words fun m _ content =>
    let turned (line : List Char) : List Char :=
      if line.getLast? = some '\n' then line.dropLast.reverse ++ ['\n'] else line.reverse
    m.printText (String.ofList ((brokenLines content).flatMap turned))

/-- Whether one line comes no later than another, byte by byte. -/
def lineLe : List Char → List Char → Bool
  | [], _ => true
  | _ :: _, [] => false
  | a :: left, b :: right => a < b || (a = b && lineLe left right)

/-- The number at the start of a text: its whole part, and its decimals as they are. -/
def leadingNumber (cs : List Char) : Int × List Char :=
  let cs := cs.dropWhile fun c => c = ' ' || c = '\t'
  let (isNegative, cs) := match cs with
    | '-' :: rest => (true, rest)
    | _ => (false, cs)
  let whole := cs.takeWhile Char.isDigit
  let places := match cs.drop whole.length with
    | '.' :: rest => rest.takeWhile Char.isDigit
    | _ => []
  let places := (places.reverse.dropWhile (· = '0')).reverse
  let scale := Nat.pow 10 20
  let decimals := Spelled.numeral 10 ((places ++ List.replicate 20 '0').take 20)
  let n : Int := Spelled.numeral 10 whole * scale + decimals
  (if isNegative then -n else n, places)

/-- How two texts are compared: by number, without regard to case, without leading blanks, only by
letters and digits, and backward. -/
structure Ordered where
  letters : List Char := []
deriving DecidableEq, Repr, Inhabited

/-- The comparison of two texts. -/
def Ordered.compare (ordered : Ordered) (left right : List Char) : Ordering :=
  let has (c : Char) : Bool := ordered.letters.contains c
  let prepared (cs : List Char) : List Char :=
    let cs := if has 'b' then cs.dropWhile fun c => c = ' ' || c = '\t' else cs
    let cs := if has 'd' then cs.filter fun c => c.isAlphanum || c = ' ' || c = '\t' else cs
    let cs := if has 'i' then cs.filter fun c => ' ' ≤ c && c ≤ '~' else cs
    if has 'f' then cs.map Char.toUpper else cs
  let plain :=
    if has 'n' || has 'g' || has 'h' then
      Ord.compare (leadingNumber left).1 (leadingNumber right).1
    else
      let a := prepared left
      let b := prepared right
      if a = b then .eq else if lineLe a b then .lt else .gt
  if has 'r' then plain.swap else plain

/-- A part of lines that they are compared by: from a character of a field to one of another. -/
structure SortKey where
  firstField : Nat
  firstChar : Nat := 0
  lastField : Option Nat := none
  lastChar : Nat := 0
  ordered : Ordered := {}
deriving Repr, Inhabited

/-- The key of a text such as `2,3n`; the reason why it is none. -/
def SortKey.read (text : String) : Except String SortKey :=
  let position (cs : List Char) : Nat × Nat × List Char × List Char :=
    let field := cs.takeWhile Char.isDigit
    let rest := cs.drop field.length
    let (place, rest) := match rest with
      | '.' :: tail => (tail.takeWhile Char.isDigit, tail.dropWhile Char.isDigit)
      | _ => ([], rest)
    let letters := rest.takeWhile Char.isAlpha
    (Spelled.numeral 10 field, Spelled.numeral 10 place, letters, rest.drop letters.length)
  if !text.toList.head?.any Char.isDigit then
    .error ("invalid number at field start: invalid count at start of " ++ inQuotes text)
  else
    let (field, place, letters, rest) := position text.toList
    if field = 0 then
      .error ("field number is zero: invalid field specification " ++ inQuotes text)
    else match rest with
      | ',' :: rest =>
        let (last, lastPlace, more, _) := position rest
        .ok ⟨field - 1, place - 1, some (last - 1), lastPlace, ⟨letters ++ more⟩⟩
      | _ => .ok ⟨field - 1, place - 1, none, 0, ⟨letters⟩⟩

/-- The fields of a line: between marks, or runs of blanks with what follows them. -/
def sortFields (mark : Option Char) (line : List Char) : List (List Char) :=
  match mark with
  | some mark => (Text.splitChars mark line).map (· ++ [mark])
  | none => blankFields (line.length + 1) line
where
  /-- Runs of blanks, each with the run of other characters behind it; `fuel` bounds them. -/
  blankFields : Nat → List Char → List (List Char)
    | 0, _ => []
    | fuel + 1, cs =>
      let isGap (c : Char) : Bool := c = ' ' || c = '\t'
      let blanks := cs.takeWhile isGap
      let word := (cs.drop blanks.length).takeWhile (!isGap ·)
      if cs.isEmpty then []
      else (blanks ++ word) :: blankFields fuel (cs.drop (blanks.length + word.length))

/-- The part of a line that a key means. -/
def SortKey.part (key : SortKey) (mark : Option Char) (line : List Char) : List Char :=
  let fields := sortFields mark line
  let start := (fields.take key.firstField).flatten.length
  let start := min (start + key.firstChar) line.length
  let stop := match key.lastField with
    | none => line.length
    | some last =>
      let front := (fields.take last).flatten.length
      let size := ((fields[last]?).map List.length).getD 0
      let size := if mark.isSome then size - 1 else size
      min (if key.lastChar = 0 then front + size else front + key.lastChar) line.length
  (line.take stop).drop start

/-- The comparison of lines by keys, and by themselves if the keys do not tell them apart. -/
def compareLines (keys : List SortKey) (ordered : Ordered) (mark : Option Char) (isStable : Bool)
    (left right : List Char) : Ordering :=
  let byKey (key : SortKey) : Ordering :=
    let rule := if key.ordered.letters.isEmpty then ordered else key.ordered
    rule.compare (key.part mark left) (key.part mark right)
  let found := if keys.isEmpty then ordered.compare left right
    else ((keys.map byKey).find? (· ≠ .eq)).getD .eq
  if found ≠ .eq || isStable then found
  else (Ordered.mk (ordered.letters.filter (· = 'r'))).compare left right

/-- The first line that is out of order, with its number. -/
def disorder? (compare : List Char → List Char → Ordering) (isUnique : Bool) :
    Nat → List (List Char) → Option (Nat × List Char)
  | number, a :: b :: rest =>
    let found := compare a b
    if found = .gt || (isUnique && found = .eq) then some (number + 1, b)
    else disorder? compare isUnique (number + 1) (b :: rest)
  | _, _ => none

/-- Neighbours that are equal, of which only the first is kept. -/
def firstOfEquals (compare : List Char → List Char → Ordering) :
    Option (List Char) → List (List Char) → List (List Char)
  | _, [] => []
  | last, line :: rest =>
    if last.any fun last => compare last line = .eq then firstOfEquals compare last rest
    else line :: firstOfEquals compare (some line) rest

/-- The usage of `sort`. -/
def sortUsage : Usage :=
  ⟨Usage.ofLetters "bcCdfghik:mMno:rRsS:t:T:uVz" [('b', "ignore-leading-blanks"),
    ('d', "dictionary-order"), ('f', "ignore-case"), ('g', "general-numeric-sort"),
    ('i', "ignore-nonprinting"), ('h', "human-numeric-sort"), ('n', "numeric-sort"),
    ('r', "reverse"), ('k', "key"), ('m', "merge"), ('o', "output"), ('s', "stable"),
    ('t', "field-separator"), ('u', "unique"), ('z', "zero-terminated"), ('V', "version-sort"),
    ('M', "month-sort"), ('R', "random-sort"), ('c', "check")], true, 2⟩

/-- Print the lines of all texts in order. -/
def sort (m : Machine) (words : List String) : Machine :=
  withGiven m sortUsage words fun given =>
    let ordered : Ordered := ⟨(given.options.map Prod.fst).filter "bdfghinr".toList.contains⟩
    let keys := (given.values 'k').map SortKey.read
    let badKey := keys.findSome? fun key => match key with
      | .error text => some text
      | .ok _ => none
    let mark := given.value? 't'
    let isUnique := given.has 'u'
    match badKey, mark.filter (fun text => text.length ≠ 1 && text ≠ "\\0") with
    | some text, _ => fault m 2 text
    | none, some text => fault m 2
        (if text.isEmpty then "empty tab" else "multi-character tab " ++ inQuotes text)
    | none, none =>
      let compare := compareLines (keys.filterMap Except.toOption) ordered
        (mark.bind (·.toList.head?)) (isUnique || given.has 's')
      let paths := if given.operands.isEmpty then ["-"] else given.operands
      let read := paths.foldl (fun (state : Machine × Option String × List (List Char)) path =>
        if state.2.1.isSome then state
        else match contentOf state.1 path with
          | (m, .ok content) => (m, none, state.2.2 ++ linesOf content)
          | (m, .error error) =>
            let verb := if error = .isDirectory then "read failed: " else "cannot read: "
            (m, some (verb ++ unread path error), [])) (m, none, [])
      match read with
      | (m, some text, _) => fault m 2 text
      | (m, none, lines) =>
        if given.has 'c' || given.has 'C' then
          match disorder? compare isUnique 1 lines with
          | none => m.finish 0
          | some (number, line) =>
            if given.has 'C' then m.finish 1
            else fault m 1 (paths.headD "-" ++ ":" ++ toString number ++ ": disorder: " ++
              String.ofList line)
        else
          let sorted := lines.mergeSort fun a b => compare a b ≠ .gt
          let kept := if isUnique then firstOfEquals compare none sorted else sorted
          match given.value? 'o' with
          | none => (m.printText (ofLines kept)).finish 0
          | some path =>
            match m.tree.write (m.place path) (.bytes (Octets.bytes (ofLines kept))) with
            | .ok tree => { m with tree }.finish 0
            | .error error => fault m 2 ("open failed: " ++ unread path error)

/-! ## Equal neighbours -/

/-- Equal neighbours put together, with their count. -/
def runs (same : List Char → List Char → Bool) : List (List Char) → List (List (List Char))
  | [] => []
  | line :: rest =>
    match runs same rest with
    | (next :: more) :: others =>
      if same line next then (line :: next :: more) :: others
      else [line] :: (next :: more) :: others
    | others => [line] :: others

/-- Print lines without those that equal the one before. -/
def uniq (m : Machine) (words : List String) : Machine :=
  let usage : Usage := ⟨Usage.ofLetters "cdDf:is:uw:z" [('c', "count"), ('d', "repeated"),
    ('f', "skip-fields"), ('i', "ignore-case"), ('s', "skip-chars"), ('u', "unique"),
    ('w', "check-chars"), ('z', "zero-terminated")], true, 1⟩
  let complaint (path : String) (error : FileError) : String :=
    if error = .isDirectory then "error reading " ++ inQuotes path ++ ": " ++ error.reason
    else unread path error
  withGiven m usage words fun given =>
    match given.operands with
    | _ :: _ :: extra :: _ => misuse m 1 ("extra operand " ++ inQuotes extra)
    | operands =>
      let number (letter : Char) : Option Nat := (given.value? letter).bind Spelled.count?
      let isGap (c : Char) : Bool := c = ' ' || c = '\t'
      let withoutFields (line : List Char) : List Char :=
        Nat.rec line (fun _ rest => (rest.dropWhile isGap).dropWhile (!isGap ·))
          ((number 'f').getD 0)
      let key (line : List Char) : List Char :=
        let kept := (withoutFields line).drop ((number 's').getD 0)
        let kept := match number 'w' with
          | some count => kept.take count
          | none => kept
        if given.has 'i' then kept.map Char.toLower else kept
      withContents m 1 complaint (operands.take 1) fun m _ content =>
        let groups := runs (fun a b => key a = key b) (linesOf content)
        let kept := groups.filter fun group =>
          (!(given.has 'd' || given.has 'D') || 1 < group.length) &&
            (!given.has 'u' || group.length = 1)
        let lines := kept.flatMap fun group =>
          if given.has 'D' then group
          else group.take 1 |>.map fun line =>
            if given.has 'c' then inPlaces 7 group.length ++ ' ' :: line else line
        match operands[1]? with
        | none => m.printText (ofLines lines)
        | some path =>
          match m.tree.write (m.place path) (.bytes (Octets.bytes (ofLines lines))) with
          | .ok tree => { m with tree }
          | .error error => fault m 1 (unread path error)

/-! ## Counts -/

/-- The numbers of lines, words and bytes of a text, and the length of its longest line. -/
structure Counts where
  lines : Nat := 0
  words : Nat := 0
  bytes : Nat := 0
  longest : Nat := 0
deriving DecidableEq, Repr, Inhabited

/-- The counts of a text. -/
def Counts.of (content : List Char) : Counts where
  lines := content.count '\n'
  words := ((Text.splitChars ' ' (content.map fun c =>
    if Spelled.isSpace c then ' ' else c)).filter (!·.isEmpty)).length
  bytes := content.length
  longest := ((linesOf content).map List.length).foldl max 0

/-- The counts of two texts together. -/
def Counts.add (a b : Counts) : Counts :=
  ⟨a.lines + b.lines, a.words + b.words, a.bytes + b.bytes, max a.longest b.longest⟩

/-- Print counts of texts. -/
def wc (m : Machine) (words : List String) : Machine :=
  let usage : Usage := ⟨Usage.ofLetters "clLmw" [('c', "bytes"), ('m', "chars"), ('l', "lines"),
    ('w', "words"), ('L', "max-line-length")], true, 1⟩
  withGiven m usage words fun given =>
    let wants (letter : Char) : Bool := given.has letter ||
      (given.options.isEmpty && "lwc".toList.contains letter)
    let chosen (counts : Counts) : List Nat :=
      (if wants 'l' then [counts.lines] else []) ++ (if wants 'w' then [counts.words] else []) ++
        (if wants 'm' then [counts.bytes] else []) ++ (if wants 'c' then [counts.bytes] else []) ++
        (if wants 'L' then [counts.longest] else [])
    let paths := if given.operands.isEmpty then ["-"] else given.operands
    let isPlain (path : String) : Bool :=
      if path = "-" then m.canGoBack 0 else !m.isDevice path
    let sizes := paths.filterMap fun path =>
      if path = "-" then ((m.remaining 0).toOption).map List.length
      else match m.bytesOf path with
        | .ok bytes => some bytes.length
        | .error _ => none
    let least := if paths.any fun path => !isPlain path || (match m.entryAt path with
        | .ok .directory => true
        | _ => false) then 7 else 1
    let width :=
      if paths.length = 1 && (chosen {}).length = 1 then 1
      else max least (Nat.toDigits 10 (sizes.foldl (· + ·) 0)).length
    let line (counts : Counts) (name : String) : String :=
      String.ofList ((chosen counts).map (inPlaces width) |>.intersperse [' '] |>.flatten) ++
        (if name.isEmpty then "" else " " ++ name) ++ "\n"
    let name (path : String) : String := if given.operands.isEmpty then "" else path
    let step (state : Machine × Counts) (path : String) : Machine × Counts :=
      match contentOf state.1 path with
      | (m, .ok content) =>
        let counts := Counts.of content
        (m.printText (line counts (name path)), state.2.add counts)
      | (m, .error error) =>
        let m := fault m 1 (unread path error)
        (if error = .isDirectory then m.printText (line {} (name path)) else m, state.2)
    let (m, total) := paths.foldl step (m.finish 0, {})
    if 1 < paths.length then m.printText (line total "total") else m

/-! ## Columns -/

/-- A range of places, counted from one; one without an end goes on to the last. -/
abbrev PlaceRange := Nat × Option Nat

/-- The ranges of a list such as `1,3-5`; the reason why it is none. -/
def placeRanges (isField : Bool) (text : String) : Except String (List PlaceRange) :=
  let bad (item : String) : String :=
    if isField then "invalid field value " ++ inQuotes item
    else "invalid byte/character position " ++ inQuotes item
  let zero : String := if isField then "fields are numbered from 1"
    else "byte/character positions are numbered from 1"
  let number (digits : String) : Except String Nat :=
    match Digits.nat? 10 digits.toList with
    | some 0 => .error zero
    | some n => .ok n
    | none => .error (bad digits)
  ((Text.split ',' text).flatMap (Text.split ' ')).mapM fun item =>
    match Text.split '-' item with
    | [one] => (number one).map fun n => (n, some n)
    | ["", ""] => .error "invalid range with no endpoint: -"
    | ["", high] => (number high).map fun n => (1, some n)
    | [low, ""] => (number low).map fun n => (n, none)
    | [low, high] => do
      let low ← number low
      let high ← number high
      if high < low then throw "invalid decreasing range"
      return (low, some high)
    | _ => .error (bad item)

/-- Whether a place lies in one of some ranges. -/
def isPlace (ranges : List PlaceRange) (place : Nat) : Bool :=
  ranges.any fun range => range.1 ≤ place && range.2.all (place ≤ ·)

/-- Print chosen fields or characters of lines. -/
def cut (m : Machine) (words : List String) : Machine :=
  let usage : Usage := ⟨⟨'O', "output-delimiter", .always⟩ :: ⟨'C', "complement", .never⟩ ::
    (Usage.ofLetters "b:c:d:f:nsz" [('b', "bytes"), ('c', "characters"), ('d', "delimiter"),
      ('f', "fields"), ('s', "only-delimited"), ('z', "zero-terminated")]), true, 1⟩
  withGiven m usage words fun given =>
    let lists := given.options.filter fun o => "bcf".toList.contains o.1
    let isLong := (given.value? 'd').any (1 < ·.length)
    match lists, given.value? 'd' with
    | [], _ => misuse m 1 (if isLong then "the delimiter must be a single character"
        else "you must specify a list of bytes, characters, or fields")
    | _ :: _ :: _, _ => misuse m 1 "only one list may be specified"
    | [(letter, text)], mark =>
      let isField := letter = 'f'
      if isLong then misuse m 1 "the delimiter must be a single character"
      else if mark.isSome && !isField then
        misuse m 1 "an input delimiter may be specified only when operating on fields"
      else match placeRanges isField text with
        | .error text => misuse m 1 text
        | .ok ranges =>
          let mark := (mark.bind (·.toList.head?)).getD (if mark.isSome then '\x00' else '\t')
          let joiner := (given.value? 'O').map String.toList
          let keeps (place : Nat) : Bool := isPlace ranges place != given.has 'C'
          let kept {α : Type} (items : List α) : List α :=
            (items.zipIdx 1).filterMap fun item => if keeps item.2 then some item.1 else none
          let line (line : List Char) : Option (List Char) :=
            if !isField then some (kept line)
            else if !line.contains mark then if given.has 's' then none else some line
            else some ((kept (Text.splitChars mark line)).intersperse (joiner.getD [mark])).flatten
          withContents m 1 unread given.operands fun m _ content =>
            m.printText (ofLines ((linesOf content).filterMap line))

/-- Print the lines of texts side by side, or those of each text in one line. -/
def paste (m : Machine) (words : List String) : Machine :=
  let usage : Usage := ⟨Usage.ofLetters "d:sz" [('d', "delimiters"), ('s', "serial"),
    ('z', "zero-terminated")], true, 1⟩
  withGiven m usage words fun given =>
    let marks := (unescaped (((given.value? 'd').getD "\t").length + 1)
      ((given.value? 'd').getD "\t").toList).1
    let mark (i : Nat) : List Char :=
      if marks.isEmpty then [] else (marks[i % marks.length]?).toList
    let joined (items : List (List Char)) : List Char :=
      (items.zipIdx.map fun item =>
        if item.2 = 0 then item.1 else mark (item.2 - 1) ++ item.1).flatten
    let paths := if given.operands.isEmpty then ["-"] else given.operands
    let read := paths.foldl (fun (state : Machine × List (List (List Char))) path =>
      match contentOf state.1 path with
      | (m, .ok content) => (m, state.2 ++ [linesOf content])
      | (m, .error error) => (fault m 1 (unread path error), state.2)) (m.finish 0, [])
    let (m, columns) := read
    if m.status ≠ 0 then m
    else if given.has 's' then m.printText (ofLines (columns.map joined))
    else
      let count := (columns.map List.length).foldl max 0
      m.printText (ofLines ((List.range count).map fun i =>
        joined (columns.map fun lines => (lines[i]?).getD [])))

/-- Print lines with numbers. -/
def nl (m : Machine) (words : List String) : Machine :=
  let usage : Usage := ⟨Usage.ofLetters "b:d:f:h:i:l:n:ps:v:w:" [('b', "body-numbering"),
    ('s', "number-separator"), ('v', "starting-line-number"), ('w', "number-width"),
    ('i', "line-increment")], true, 1⟩
  withGiven m usage words fun given =>
    let number (letter : Char) (default : Nat) : Nat :=
      ((given.value? letter).bind Spelled.count?).getD default
    let width := number 'w' 6
    let mark := ((given.value? 's').getD "\t").toList
    let all := given.value? 'b' = some "a"
    let none? := given.value? 'b' = some "n"
    let step (state : Machine × Nat) (content : List Char) : Machine × Nat :=
      let (lines, next) := (linesOf content).foldl
        (fun (done : List (List Char) × Nat) line =>
          if !none? && (all || !line.isEmpty) then
            (done.1 ++ [inPlaces width done.2 ++ mark ++ line], done.2 + number 'i' 1)
          else (done.1 ++ [List.replicate (width + mark.length) ' ' ++ line], done.2))
        ([], state.2)
      (state.1.printText (ofLines lines), next)
    let paths := if given.operands.isEmpty then ["-"] else given.operands
    (paths.foldl (fun (state : Machine × Nat) path =>
      match contentOf state.1 path with
      | (m, .ok content) => step (m, state.2) content
      | (m, .error error) => (fault m 1 (unread path error), state.2))
      (m.finish 0, number 'v' 1)).1

/-- A line in pieces of a width. -/
def folded (width : Nat) : Nat → List Char → List Char
  | _, [] => []
  | place, c :: rest =>
    if c = '\n' then c :: folded width 0 rest
    else if place = width then '\n' :: c :: folded width 1 rest
    else c :: folded width (place + 1) rest

/-- Print lines in pieces of a width. -/
def fold (m : Machine) (words : List String) : Machine :=
  withGiven m ⟨Usage.ofLetters "bsw:" [('b', "bytes"), ('s', "spaces"), ('w', "width")], true, 1⟩
    words fun given =>
      match Spelled.count? ((given.value? 'w').getD "80") with
      | none | some 0 =>
        fault m 1 ("invalid number of columns: " ++ inQuotes ((given.value? 'w').getD ""))
      | some width =>
        withContents m 1 unread given.operands fun m _ content =>
          m.printText (String.ofList (folded width 0 content))

/-! ## Characters -/

/-- The characters that a set names: ranges, classes, escapes and repetitions. `fuel` bounds the
items. -/
def charsOf : Nat → List Char → List Char
  | 0, _ => []
  | fuel + 1, cs =>
    let range (low high : Char) : List Char :=
      (List.range (high.toNat + 1 - low.toNat)).map fun n => Char.ofNat (low.toNat + n)
    let named := match cs with
      | '[' :: ':' :: rest =>
        let name := rest.takeWhile Char.isAlpha
        let isClosed := (rest.drop name.length).take 2 = [':', ']']
        if isClosed then
          (Wildcard.classes.find? (·.1.toList = name)).map fun (_, ranges) =>
            (ranges.flatMap fun (low, high) => range low high, rest.drop (name.length + 2))
        else none
      | '[' :: c :: '*' :: ']' :: rest => some (List.replicate 256 c, rest)
      | _ => none
    match named, cs with
    | some (chars, rest), _ => chars ++ charsOf fuel rest
    | none, [] => []
    | none, cs =>
      let one (cs : List Char) : Option (Char × List Char) := match cs with
        | '\\' :: rest => some (escape rest)
        | c :: rest => some (c, rest)
        | [] => none
      match one cs with
      | none => []
      | some (low, '-' :: rest) =>
        match one rest with
        | some (high, rest) => range low high ++ charsOf fuel rest
        | none => low :: '-' :: charsOf fuel rest
      | some (c, rest) => c :: charsOf fuel rest

/-- The characters of a text without those that repeat the one before and belong to a set. -/
def squeezed (set : List Char) : Option Char → List Char → List Char
  | _, [] => []
  | last, c :: rest =>
    if last = some c && set.contains c then squeezed set last rest
    else c :: squeezed set (some c) rest

/-- Print a text with characters replaced, left out or not repeated. -/
def tr (m : Machine) (words : List String) : Machine :=
  let usage : Usage := ⟨Usage.ofLetters "cCdst" [('c', "complement"), ('d', "delete"),
    ('s', "squeeze-repeats"), ('t', "truncate-set1")], false, 1⟩
  withGiven m usage words fun given =>
    let isDelete := given.has 'd'
    let isSqueeze := given.has 's'
    let least := if isDelete = isSqueeze then 2 else 1
    let most := if isDelete && !isSqueeze then 1 else 2
    let sets := given.operands.map fun text => charsOf (text.length + 1) text.toList
    match given.operands with
    | [] => misuse m 1 "missing operand"
    | operands =>
      if operands.length < least then
        misuse m 1 ("missing operand after " ++ inQuotes (operands.headD "") ++ "\n" ++
          (if isDelete then "Two strings must be given when both deleting and squeezing repeats."
            else "Two strings must be given when translating."))
      else if most < operands.length then
        misuse m 1 ("extra operand " ++ inQuotes ((operands[most]?).getD "") ++
          (if most = 1 ∧ operands.length = 2 then
            "\nOnly one string may be given when deleting without squeezing repeats." else ""))
      else
        let everything := (List.range 256).map Char.ofNat
        let first := sets.headD []
        let first := if given.has 'c' || given.has 'C' then everything.filter (!first.contains ·)
          else first
        let second := sets[1]?
        let (m, content) := m.readAll 0
        let content := (content.toOption.getD []).map fun byte => Char.ofNat byte.toNat
        let change (target : List Char) (c : Char) : Char :=
          match (first.reverse.idxOf? c).map fun i => first.length - 1 - i with
          | some place =>
            if given.has 't' && target.length ≤ place then c
            else (target[place]?).getD (target.getLast?.getD c)
          | none => c
        let shown :=
          if isDelete then
            let kept := content.filter (!first.contains ·)
            if isSqueeze then squeezed (second.getD []) none kept else kept
          else match second with
            | some target =>
              let changed := content.map (change target)
              if isSqueeze then squeezed target none changed else changed
            | none => squeezed first none content
        (m.printText (String.ofList shown)).finish 0

/-- Print the input, and write it to files. -/
def tee (m : Machine) (words : List String) : Machine :=
  let usage : Usage :=
    ⟨Usage.ofLetters "aip" [('a', "append"), ('i', "ignore-interrupts")], true, 1⟩
  withGiven m usage words fun given =>
    let (m, content) := m.readAll 0
    let bytes := content.toOption.getD []
    let step (m : Machine) (path : String) : Machine :=
      if m.isDevice path then m
      else
        let old := if given.has 'a' then (m.bytesOf path).toOption.getD [] else []
        match m.tree.write (m.place path) (.bytes (old ++ bytes)) with
        | .ok tree => { m with tree }
        | .error error => fault m 1 (unread path error)
    given.operands.foldl step ((m.print bytes).finish 0)

end NfvCatalog.Shell.Utility
