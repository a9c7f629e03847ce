import NfvCatalog.Shell.Field
import NfvCatalog.Shell.Machine
import NfvCatalog.Shell.Sum

/-! # Expansion of words

What the parts of a word stand for in a machine: parameters, sums, the output of commands and the
paths that fit a pattern. How the output of a command is taken is left to `capture`, which gives the
machine behind the command and the text. A fault stops the machine.
-/

namespace NfvCatalog.Shell

/-- Where tildes stand for home directories: nowhere, at the start of a word, or at the start of a
value and behind its colons. -/
inductive Homes where
  | nowhere
  | ofWord
  | ofValue
deriving DecidableEq, Repr, Inhabited

namespace Expansion

/-- The pieces of a plain text. -/
def plainPieces (m : Machine) (homes : Homes) (isFirst isLast : Bool) (text : String) :
    List Piece :=
  let own := m.valueOf? "HOME"
  let rest : Word := if isLast then [] else [.quoted ""]
  let word : Word := match homes with
    | .nowhere => [.plain text]
    | .ofWord => if isFirst then withHome own isLast text.toList else [.plain text]
    | .ofValue => withHomesInValue own isFirst (.plain text :: rest)
  word.filterMap fun
    | .plain text => some (.plain text)
    | .quoted text => if text.isEmpty then none else some (.solid text)
    | _ => none

/-! ## Parameters -/

/-- Whether a name stands for all arguments. -/
def isList (name : String) : Bool := name = "@" || name = "*"

/-- The texts that a parameter stands for; the arguments are several. -/
def textsOf? (m : Machine) (name : String) : Option (List String) :=
  if isList name then some m.arguments else (m.parameter? name).map ([·])

/-- The pieces of a parameter's texts. -/
def valuePieces (m : Machine) (name : String) (isQuoted : Bool) (texts : List String) :
    List Piece :=
  if isQuoted then
    if name = "@" then [.each texts] else [.solid (Text.join m.joiner texts)]
  else [.loose (Text.join "\x00" texts)]

/-- A number as a piece. -/
def numberPiece (isQuoted : Bool) (text : String) : Piece :=
  if isQuoted then .solid text else .loose text

/-- The complaint about a parameter that is needed but not set. -/
def unsetFault (name : String) (alsoEmpty : Bool) (reason : String) : String :=
  name ++ ": " ++
    (if reason.isEmpty then "parameter not set" ++ (if alsoEmpty then " or null" else "")
    else reason)

/-- Texts of which the first has lost a front that fits a pattern. -/
def cutFront (pattern : Wildcard) (longest : Bool) : List String → List String
  | [] => []
  | first :: others => withoutFront pattern longest first :: others

/-- Texts of which the last has lost an end that fits a pattern. -/
def cutEnd (pattern : Wildcard) (longest : Bool) : List String → List String
  | [] => []
  | [last] => [withoutEnd pattern longest last]
  | first :: others => first :: cutEnd pattern longest others

/-- The value of an expression, with the values that it gives to variables. -/
def sum (m : Machine) (isQuoted : Bool) (expression : String) : Machine × List Piece :=
  let scope : Sum.Scope := ⟨fun name => (m.valueOf? name).getD "", m.isReadOnly⟩
  match Sum.value scope expression with
  | .ok (n, given) =>
    (given.foldl (fun m entry => m.set entry.1 (toString entry.2)) m,
      [numberPiece isQuoted (toString n)])
  | .error .tooLarge => (m.stop (.killed 8), [])
  | .error fault => (m.fail (fault.message expression), [])

/-! ## Pieces -/

section

variable (capture : Machine → Command → Machine × String)

mutual

/-- The pieces of a word, from its first part or from a later one on. -/
def pieces (homes : Homes) (isFirst : Bool) (m : Machine) : Word → Machine × List Piece
  | [] => (m, [])
  | part :: rest =>
    let (m, first) := piecesOf homes isFirst rest.isEmpty m part
    if m.halt.isSome then (m, [])
    else
      let (m, others) := pieces homes false m rest
      (m, first ++ others)

/-- The pieces of a part of a word. -/
def piecesOf (homes : Homes) (isFirst isLast : Bool) (m : Machine) : Part → Machine × List Piece
  | .plain text => (m, plainPieces m homes isFirst isLast text)
  | .quoted text => (m, [.solid text])
  | .output body isQuoted =>
    let (m, text) := capture m body
    (m, [numberPiece isQuoted text])
  | .number expression isQuoted =>
    let (m, inside) := pieces .nowhere true m expression
    if m.halt.isSome then (m, []) else sum m isQuoted (Piece.text m.joiner inside)
  | .parameter name rule word isQuoted =>
    let texts? := textsOf? m name
    let texts := texts?.getD []
    let joined := Text.join m.joiner texts
    let isSet (notEmpty : Bool) : Bool := texts?.isSome && !(notEmpty && joined.isEmpty)
    let value (m : Machine) (texts : List String) : Machine × List Piece :=
      (m, valuePieces m name isQuoted texts)
    let ofWord (m : Machine) : Machine × List Piece :=
      let (m, inside) := pieces .ofWord true m word
      (m, if isQuoted then inside ++ [.solid ""] else inside.map Piece.loosened)
    let isMissing := texts?.isNone && m.options.contains 'u'
    match rule with
    | .bad => (m.fail "Bad substitution", [])
    | .whenUnset alsoEmpty => if isSet alsoEmpty then value m texts else ofWord m
    | .whenSet notEmpty =>
      if isSet notEmpty then ofWord m else (m, [numberPiece isQuoted ""])
    | .keptWhenUnset alsoEmpty =>
      if isSet alsoEmpty then value m texts
      else
        let (m, inside) := pieces .ofWord true m word
        let text := Piece.text m.joiner inside
        if m.halt.isSome then (m, [])
        else if !isName name then (m.fail (name ++ ": bad variable name"), [])
        else if m.isReadOnly name then (m.fail (name ++ ": is read only"), [])
        else value (m.set name text) [text]
    | .neededUnlessSet alsoEmpty =>
      if isSet alsoEmpty then value m texts
      else
        let (m, inside) := pieces .ofWord true m word
        if m.halt.isSome then (m, [])
        else
          let reason := Piece.text m.joiner inside
          let said := if word.isEmpty then unsetFault name alsoEmpty ""
            else name ++ ": " ++ reason
          (m.fail said, [])
    | .value =>
      if isMissing then (m.fail (unsetFault name false ""), []) else value m texts
    | .length =>
      if isMissing then (m.fail (unsetFault name false ""), [])
      else (m, [numberPiece isQuoted (toString joined.length)])
    | .cutFront longest =>
      if isMissing then (m.fail (unsetFault name false ""), [])
      else
        let (m, inside) := pieces .ofWord true m word
        if m.halt.isSome then (m, [])
        else value m (cutFront (Piece.pattern m.joiner inside) longest texts)
    | .cutEnd longest =>
      if isMissing then (m.fail (unsetFault name false ""), [])
      else
        let (m, inside) := pieces .ofWord true m word
        if m.halt.isSome then (m, [])
        else value m (cutEnd (Piece.pattern m.joiner inside) longest texts)

end

end

/-! ## Paths that fit a pattern -/

/-- The glyphs between slashes. -/
def steps (glyphs : List Glyph) : List (List Glyph) :=
  let (last, done) := glyphs.foldr (fun glyph (step, done) =>
    if glyph.char = '/' then ([], step :: done) else (glyph :: step, done)) ([], [])
  last :: done

/-- Whether a directory stands at a path. -/
def isDirectory (m : Machine) (path : String) : Bool :=
  match m.entryAt path with
  | .ok .directory => true
  | _ => false

/-- The names in a directory that fit a pattern. Names that start with a dot fit only a pattern that
does. -/
def namesThatFit (m : Machine) (directory : String) (step : List Glyph) : List String :=
  let showsHidden := step.head?.any (·.char = '.')
  let names := m.namesIn (if directory.isEmpty then "." else directory)
  let names := if showsHidden then "." :: ".." :: names else names
  let pattern := Wildcard.ofGlyphs step
  names.filter fun name =>
    (showsHidden || name.toList.head? ≠ some '.') && pattern.fits name.toList

/-- The paths below a directory whose steps fit patterns. -/
def pathsBelow (m : Machine) (directory : String) : List (List Glyph) → List String
  | [] => []
  | [last] =>
    if last.isEmpty then if isDirectory m directory then [directory] else []
    else if (Wildcard.ofGlyphs last).isOpen then
      (namesThatFit m directory last).map (directory ++ ·)
    else
      let path := directory ++ Glyph.text last
      if (m.entryAt path).toOption.isSome then [path] else []
  | step :: rest =>
    if (Wildcard.ofGlyphs step).isOpen then
      (namesThatFit m directory step).flatMap fun name =>
        if isDirectory m (directory ++ name) then pathsBelow m (directory ++ name ++ "/") rest
        else []
    else pathsBelow m (directory ++ Glyph.text step ++ "/") rest

/-- The paths that a field stands for; a field that fits none stands for itself. -/
def paths (m : Machine) (field : List Glyph) : List String :=
  let isOpen := field.any fun glyph =>
    glyph.isPlain '*' || glyph.isPlain '?' || glyph.isPlain '['
  if !isOpen || m.options.contains 'f' then [Glyph.text field]
  else
    let found := pathsBelow m "" (steps field)
    if found.isEmpty then [Glyph.text field] else found.mergeSort Text.le

/-! ## Words -/

section

variable (capture : Machine → Command → Machine × String)

/-- The text of a word that is not cut into fields. -/
def text (m : Machine) (homes : Homes) (word : Word) : Machine × String :=
  let (m, inside) := pieces capture homes true m word
  (m, Piece.text m.joiner inside)

/-- The pattern that a word stands for. -/
def pattern (m : Machine) (word : Word) : Machine × Wildcard :=
  let (m, inside) := pieces capture .ofWord true m word
  (m, Piece.pattern m.joiner inside)

/-- The fields of a word. -/
def fields (m : Machine) (word : Word) : Machine × List String :=
  let (m, inside) := pieces capture .ofWord true m word
  if m.halt.isSome then (m, [])
  else (m, (Fields.ofPieces m.separators inside).flatMap (paths m))

/-- The fields of words. With `assigns` a word that sets a variable is one field. -/
def allFields (assigns : Bool) (m : Machine) : List Word → Machine × List String
  | [] => (m, [])
  | word :: rest =>
    let assigned? : Option (String × Word) := match assigns, word with
      | true, .plain start :: behind =>
        (assignment? start).map fun entry => (entry.1, .plain entry.2 :: behind)
      | _, _ => none
    let (m, first) := match assigned? with
      | some (name, value) =>
        let (m, text) := text capture m .ofValue value
        (m, [name ++ "=" ++ text])
      | none => fields capture m word
    if m.halt.isSome then (m, [])
    else
      let (m, others) := allFields assigns m rest
      (m, first ++ others)

end

end Expansion

end NfvCatalog.Shell
