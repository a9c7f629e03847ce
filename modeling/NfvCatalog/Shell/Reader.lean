import NfvCatalog.Shell.Token

/-! # Reading scripts

A script is read line by line: the commands of a line are run before the next line is read. Reading
looks one token ahead. Keywords count only where a command may start, and a first word may stand for
another text.
-/

namespace NfvCatalog.Shell

namespace Reader

/-- The text before the next unescaped backquote, and the text after it. -/
def backquoted (inDouble : Bool) : List Char → Option (List Char × List Char)
  | [] => none
  | '\x60' :: rest => some ([], rest)
  | '\\' :: '\n' :: rest => backquoted inDouble rest
  | '\\' :: c :: rest =>
    (backquoted inDouble rest).map fun (inside, rest) =>
      if c = '\x60' || c = '\\' || c = '$' || (inDouble && c = '"') then (c :: inside, rest)
      else ('\\' :: c :: inside, rest)
  | c :: rest => (backquoted inDouble rest).map fun (inside, rest) => (c :: inside, rest)

/-- The name at the start of the braces of a parameter, and whether its length is asked for. -/
def bracedName (source : Source) : Option (Bool × String × Source) :=
  let named (wantsLength : Bool) (source : Source) : Option (Bool × String × Source) :=
    match source.head? with
    | some c =>
      if startsName c then
        let (name, rest) := source.name
        some (wantsLength, name, rest)
      else if c.isDigit then
        let (digits, rest) := source.takeWhile Char.isDigit source.text.length
        some (wantsLength, String.ofList digits, rest)
      else if c ≠ '\x7d' ∧ isMark c then
        some (wantsLength, String.singleton c, source.shown.tail)
      else none
    | none => none
  match source.after? '#' with
  | none => named false source
  | some rest =>
    let isMarkAlone := match rest.head? with
      | some c => !isNameChar c &&
          (c = '\x7d' || (rest.shown.tail).head? ≠ some '\x7d')
      | none => true
    if isMarkAlone then some (false, "#", rest) else named true rest

/-- The rule behind the name of a parameter in braces. -/
def substitute (source : Source) : Substitute × Source :=
  let source := source.shown
  let behind := source.tail
  let doubled (c : Char) (rule : Bool → Substitute) : Substitute × Source :=
    match behind.after? c with
    | some rest => (rule true, rest)
    | none => (rule false, behind)
  let choice (colon : Bool) (source : Source) : Substitute × Source :=
    let source := source.shown
    match source.text.head? with
    | some '\x7d' => (.value, source.tail)
    | some '-' => (.whenUnset colon, source.tail)
    | some '+' => (.whenSet colon, source.tail)
    | some '=' => (.keptWhenUnset colon, source.tail)
    | some '?' => (.neededUnlessSet colon, source.tail)
    | _ => (.bad, source.tail)
  match source.text.head? with
  | some '#' => doubled '#' .cutFront
  | some '%' => doubled '%' .cutEnd
  | some ':' => choice true behind
  | _ => choice false source

/-- The redirection that a text starts with, and the text behind its sign. -/
def redirection? (source : Source) : Option (Token × Source) :=
  let source := source.shown
  let (stream, behind) := match source.text.head? with
    | some c =>
      if c.isDigit then (some (c.toNat - '0'.toNat), source.tail.shown) else (none, source)
    | none => (none, source)
  let sign (default : Nat) (direction : Direction) (dropTabs : Bool) (rest : Source) :
      Option (Token × Source) :=
    some (.redirect (stream.getD default) direction dropTabs, rest)
  match behind.text.head? with
  | some '>' =>
    let rest := behind.tail
    match rest.head? with
    | some '>' => sign 1 .toEnd false rest.shown.tail
    | some '|' => sign 1 .overFile false rest.shown.tail
    | some '&' => sign 1 .toStream false rest.shown.tail
    | _ => sign 1 .toFile false rest
  | some '<' =>
    let rest := behind.tail
    match rest.head? with
    | some '<' =>
      match rest.shown.tail.after? '-' with
      | some rest => sign 0 .fromText true rest
      | none => sign 0 .fromText false rest.shown.tail
    | some '&' => sign 0 .toStream false rest.shown.tail
    | some '>' => sign 0 .bothWays false rest.shown.tail
    | _ => sign 0 .fromFile false rest
  | _ => none

/-- The token that a text starts with, if it is neither a word nor a redirection. -/
def mark? (source : Source) : Option (Token × Source) :=
  let doubled (c : Char) (single double : Token) : Token × Source :=
    match source.tail.after? c with
    | some rest => (double, rest)
    | none => (single, source.tail)
  match source.text.head? with
  | none => some (.finish, source)
  | some '\n' => some (.lineEnd, source.tail)
  | some '&' => some (doubled '&' .background .andThen)
  | some '|' => some (doubled '|' .pipe .orElse)
  | some ';' => some (doubled ';' .semicolon .caseEnd)
  | some '(' => some (.opening, source.tail)
  | some ')' => some (.closing, source.tail)
  | _ => none

/-- The text that a word stands for, unless it stands in that text itself. -/
def renamed? (aliases : List (String × String)) (text : String) (before after : Source) :
    Option Source :=
  let isOpen := after.renamed.any fun entry => entry.1 = text && entry.2 < before.text.length
  match aliases.find? (·.1 = text) with
  | some (_, value) =>
    if isOpen then none
    else some { after with
      text := value.toList ++ after.text
      renamed := (text, after.text.length) :: after.renamed }
  | none => none

/-- Two commands in order; none is left out. -/
def inOrder (first second : Command) : Command :=
  match second with
  | .skip => first
  | _ => .inOrder first second

/-- A compound command with its redirections. -/
def withRedirects (line : Nat) (body : Command) (redirects : List Redirect) : Command :=
  match body, redirects with
  | body, [] => body
  | .subshell line body _, redirects => .subshell line body redirects
  | body, redirects => .redirected line body redirects

/-- Commands of the shell whose names no function can have. -/
def reservedNames : List String :=
  [".", ":", "break", "continue", "eval", "exec", "exit", "export", "local", "readonly", "return",
    "set", "shift", "times", "trap", "unset"]

/-! ## Words, tokens and commands -/

section

variable (aliases : List (String × String))

mutual

/-- The parts of a word up to its end. `fuel` bounds the parts. -/
def parts : Nat → Setting → Source → Except FaultAt (Word × Source)
  | 0, _, source => .error ⟨source.line, .tooLong⟩
  | fuel + 1, setting, source =>
    let source := source.shown
    let further (first : Word) (rest : Source) : Except FaultAt (Word × Source) := do
      let (others, rest) ← parts fuel setting rest
      return (first.append others, rest)
    let literal (c : Char) : Except FaultAt (Word × Source) :=
      further [setting.part (String.singleton c)] source.tail
    match source.text with
    | [] =>
      match setting.faultAtEnd? with
      | some fault => .error ⟨source.line, fault⟩
      | none => .ok ([], source)
    | c :: rest =>
      if setting.endsBefore c then .ok ([], source)
      else match c with
        | '\\' =>
          match rest with
          | [] => further [.quoted "\\"] source.tail
          | d :: _ =>
            let text := if setting.escapes d then [d] else ['\\', d]
            further [.quoted (String.ofList text)] (source.drop 2)
        | '\'' =>
          if setting.isQuoted then literal c
          else
            let inside := rest.takeWhile (· ≠ '\'')
            let behind := source.drop (inside.length + 1)
            if behind.text.isEmpty then .error ⟨behind.line, .openQuote⟩
            else further [.quoted (String.ofList inside)] behind.tail
        | '"' =>
          match setting.quoting with
          | .bare | .mark => do
            let (inside, rest) ← parts fuel { quoting := .double } source.tail
            let inside : Word := match inside with
              | [.parameter "@" .value _ _] => inside
              | _ => Word.cons (.quoted "") inside
            further inside rest
          | .double =>
            if setting.inBraces then
              parts fuel { setting with inQuotes := !setting.inQuotes } source.tail
            else .ok ([], source.tail)
          | .given =>
            if setting.inBraces then
              parts fuel { setting with inQuotes := !setting.inQuotes } source.tail
            else literal c
          | .sum => literal c
        | '\x7d' =>
          if setting.inBraces && !setting.inQuotes then .ok ([], source.tail) else literal c
        | '(' =>
          if setting.quoting = .sum then do
            let (others, rest) ← parts fuel { setting with depth := setting.depth + 1 } source.tail
            return (Word.cons (.quoted "(") others, rest)
          else literal c
        | ')' =>
          if setting.quoting ≠ .sum then literal c
          else if 0 < setting.depth then do
            let (others, rest) ← parts fuel { setting with depth := setting.depth - 1 } source.tail
            return (Word.cons (.quoted ")") others, rest)
          else match source.tail.after? ')' with
            | some rest => .ok ([], rest)
            | none => literal c
        | '\x60' =>
          if setting.quoting = .mark then literal c
          else match backquoted setting.isQuoted rest with
            | none => .error ⟨(source.drop source.text.length).line, .openBackquote⟩
            | some (inside, behind) => do
              let (body, _) ← list fuel true { text := inside, line := source.line }
              further [.output body setting.isQuoted]
                (source.drop (source.text.length - behind.length))
        | '$' =>
          if setting.quoting = .mark then literal c
          else match source.tail.head? with
            | some '(' => do
              let behind := source.tail.shown.tail
              match behind.after? '(' with
              | some rest => do
                let (expression, rest) ← parts fuel { quoting := .sum } rest
                further [.number expression setting.isQuoted] rest
              | none => do
                let (body, cursor) ← list fuel true behind
                let rest ← cursor.afterClosing
                further [.output body setting.isQuoted] rest
            | some '\x7b' => do
              let behind := source.tail.shown.tail
              match bracedName behind with
              | none => do
                let (_, rest) ← parts fuel (setting.braces .bad) behind
                further [.parameter "" .bad [] setting.isQuoted] rest
              | some (true, name, rest) => do
                let rule : Substitute := if rest.head? = some '\x7d' then .length else .bad
                let (_, rest) ← parts fuel (setting.braces rule) rest
                further [.parameter name rule [] setting.isQuoted] rest
              | some (false, name, rest) =>
                match substitute rest with
                | (.value, rest) => further [.parameter name .value [] setting.isQuoted] rest
                | (rule, rest) => do
                  let (inside, rest) ← parts fuel (setting.braces rule) rest
                  further [.parameter name rule inside setting.isQuoted] rest
            | some d =>
              if startsName d then
                let (name, rest) := source.tail.name
                further [.parameter name .value [] setting.isQuoted] rest
              else if isMark d then
                further [.parameter (String.singleton d) .value [] setting.isQuoted]
                  source.tail.shown.tail
              else literal c
            | none => literal c
        | _ =>
          let run := c :: rest.takeWhile fun d => !setting.isActive d
          further [setting.part (String.ofList run)] (source.drop run.length)

/-- The next token. -/
def next : Nat → Wants → Source → Except FaultAt Cursor
  | 0, _, source => .error ⟨source.line, .tooLong⟩
  | fuel + 1, wants, source =>
    let source := source.words
    match mark? source with
    | some (.lineEnd, rest) =>
      if wants.passesBreaks then next fuel wants rest else .ok ⟨.lineEnd, rest⟩
    | some (token, rest) => .ok ⟨token, rest⟩
    | none =>
      match redirection? source with
      | some (token, rest) => .ok ⟨token, rest⟩
      | none => do
        let (word, rest) ← parts fuel { quoting := .bare } source
        match word.plainText? with
        | none => return ⟨.word word, rest⟩
        | some text =>
          if wants.keywords && keywords.contains text then return ⟨.keyword text, rest⟩
          else match if wants.renames then renamed? aliases text source rest else none with
            | some rest => next fuel wants rest
            | none => return ⟨.word word, rest⟩

/-- The redirection of a sign that was read, with what comes behind it. -/
def redirect : Nat → Nat → Direction → Bool → Source → Except FaultAt (Redirect × Source)
  | 0, _, _, _, source => .error ⟨source.line, .tooLong⟩
  | fuel + 1, stream, .fromText, dropTabs, source => do
    let source := source.words
    match mark? source, redirection? source with
    | some (token, rest), _ | none, some (token, rest) =>
      throw ((Cursor.mk token rest).unexpected none)
    | none, none =>
      let (mark, rest) ← parts fuel { quoting := .mark } source
      let (text, rest) := rest.inputText dropTabs (!mark.hasQuotes) mark.spelling
      if mark.hasQuotes then return (.mk stream .fromText [.quoted text], rest)
      else
        let (target, _) ← parts fuel { quoting := .given } ⟨text.toList, rest.line + 1, 0, []⟩
        return (.mk stream .fromText target, rest)
  | fuel + 1, stream, direction, _, source => do
    let cursor ← next fuel .wordOnly source
    match cursor.token with
    | .word target => return (.mk stream direction target, cursor.source)
    | _ => throw (cursor.unexpected none)

/-- The redirections from a token on, and the first token behind them. -/
def redirects : Nat → Cursor → Except FaultAt (List Redirect × Cursor)
  | 0, cursor => .error ⟨cursor.source.line, .tooLong⟩
  | fuel + 1, cursor =>
    match cursor.token with
    | .redirect stream direction dropTabs => do
      let (first, rest) ← redirect fuel stream direction dropTabs cursor.source
      let cursor ← next fuel .commandHere rest
      let (others, cursor) ← redirects fuel cursor
      return (first :: others, cursor)
    | _ => .ok ([], cursor)

/-- Commands one after another, over several lines, up to a token that ends them. They may be none
if `mayEnd` says so. -/
def list : Nat → Bool → Source → Except FaultAt (Command × Cursor)
  | 0, _, source => .error ⟨source.line, .tooLong⟩
  | fuel + 1, mayEnd, source => do
    let cursor ← next fuel .command source
    if cursor.token.isFinish || (mayEnd && cursor.token.endsList) then return (.skip, cursor)
    let (first, cursor) ← conditions fuel cursor
    match cursor.token with
    | .background =>
      let (others, cursor) ← list fuel true cursor.source
      return (inOrder (.background first) others, cursor)
    | .semicolon | .lineEnd =>
      let (others, cursor) ← list fuel true cursor.source
      return (inOrder first others, cursor)
    | _ => return (first, cursor)

/-- The commands of one line, up to its end. -/
def line : Nat → Source → Except FaultAt (Command × Cursor)
  | 0, source => .error ⟨source.line, .tooLong⟩
  | fuel + 1, source => do
    let cursor ← next fuel .commandHere source
    match cursor.token with
    | .finish | .lineEnd => return (.skip, cursor)
    | _ =>
      let (first, cursor) ← conditions fuel cursor
      match cursor.token with
      | .background =>
        let (others, cursor) ← line fuel cursor.source
        return (inOrder (.background first) others, cursor)
      | .semicolon =>
        let (others, cursor) ← line fuel cursor.source
        return (inOrder first others, cursor)
      | .finish | .lineEnd => return (first, cursor)
      | _ => throw (cursor.unexpected none)

/-- Pipelines joined by conditions. -/
def conditions : Nat → Cursor → Except FaultAt (Command × Cursor)
  | 0, cursor => .error ⟨cursor.source.line, .tooLong⟩
  | fuel + 1, cursor => do
    let (first, cursor) ← pipeline fuel cursor
    conditionsAfter fuel first cursor

/-- The pipelines that follow a command under conditions. -/
def conditionsAfter : Nat → Command → Cursor → Except FaultAt (Command × Cursor)
  | 0, _, cursor => .error ⟨cursor.source.line, .tooLong⟩
  | fuel + 1, first, cursor =>
    match cursor.token with
    | .andThen => do
      let (second, cursor) ← pipeline fuel (← next fuel .command cursor.source)
      conditionsAfter fuel (.andThen first second) cursor
    | .orElse => do
      let (second, cursor) ← pipeline fuel (← next fuel .command cursor.source)
      conditionsAfter fuel (.orElse first second) cursor
    | _ => .ok (first, cursor)

/-- Commands joined by pipes. -/
def pipeline : Nat → Cursor → Except FaultAt (Command × Cursor)
  | 0, cursor => .error ⟨cursor.source.line, .tooLong⟩
  | fuel + 1, cursor => do
    let isNegated := cursor.token.isKeyword "!"
    let start ← if isNegated then next fuel .commandHere cursor.source else .ok cursor
    let (first, cursor) ← command fuel start
    let (others, cursor) ← stages fuel cursor
    let body := if others.isEmpty then first else .pipeline (first :: others)
    return (if isNegated then .negated body else body, cursor)

/-- The further commands of a pipeline. -/
def stages : Nat → Cursor → Except FaultAt (List Command × Cursor)
  | 0, cursor => .error ⟨cursor.source.line, .tooLong⟩
  | fuel + 1, cursor =>
    match cursor.token with
    | .pipe => do
      let (first, cursor) ← command fuel (← next fuel .command cursor.source)
      let (others, cursor) ← stages fuel cursor
      return (first :: others, cursor)
    | _ => .ok ([], cursor)

/-- A simple or compound command with its redirections. -/
def command : Nat → Cursor → Except FaultAt (Command × Cursor)
  | 0, cursor => .error ⟨cursor.source.line, .tooLong⟩
  | fuel + 1, cursor => do
    let line := cursor.source.line
    let finish (body : Command) (rest : Source) : Except FaultAt (Command × Cursor) := do
      let (redirects, cursor) ← redirects fuel (← next fuel .commandHere rest)
      return (withRedirects line body redirects, cursor)
    match cursor.token with
    | .word _ | .redirect .. => simple fuel line [] [] [] cursor
    | .opening =>
      let (body, cursor) ← list fuel false cursor.source
      finish (.subshell line body []) (← cursor.afterClosing)
    | .keyword "\x7b" =>
      let (body, cursor) ← list fuel false cursor.source
      finish body (← cursor.afterKeyword "\x7d")
    | .keyword "if" =>
      let (body, rest) ← branches fuel cursor.source
      finish body rest
    | .keyword "while" =>
      let (body, rest) ← loop fuel true cursor.source
      finish body rest
    | .keyword "until" =>
      let (body, rest) ← loop fuel false cursor.source
      finish body rest
    | .keyword "for" =>
      let cursor ← next fuel .wordOnly cursor.source
      let name := (cursor.token.word?.bind Word.plainText?).getD ""
      if !isName name then throw ⟨cursor.source.line, .badLoopName⟩
      let cursor ← next fuel .command cursor.source
      let (items, cursor) ←
        if cursor.token.isKeyword "in" then do
          let (items, cursor) ← words fuel (← next fuel .wordOnly cursor.source)
          match cursor.token with
          | .lineEnd | .semicolon => pure (items, ← next fuel .command cursor.source)
          | _ => throw (cursor.unexpected none)
        else do
          let all : List Word := [[.parameter "@" .value [] true]]
          match cursor.token with
          | .semicolon => pure (all, ← next fuel .command cursor.source)
          | _ => pure (all, cursor)
      let (body, cursor) ← list fuel false (← cursor.afterKeyword "do")
      finish (.each line name items body) (← cursor.afterKeyword "done")
    | .keyword "case" =>
      let cursor ← next fuel .wordOnly cursor.source
      match cursor.token with
      | .word subject =>
        let rest ← (← next fuel .command cursor.source).afterKeyword "in"
        let (arms, rest) ← arms fuel (← next fuel .pattern rest)
        finish (.select line subject arms) rest
      | _ => throw (cursor.unexpected (some (.word [])))
    | _ => throw (cursor.unexpected none)

/-- The words from a token on. -/
def words : Nat → Cursor → Except FaultAt (List Word × Cursor)
  | 0, cursor => .error ⟨cursor.source.line, .tooLong⟩
  | fuel + 1, cursor =>
    match cursor.token with
    | .word first => do
      let (others, cursor) ← words fuel (← next fuel .wordOnly cursor.source)
      return (first :: others, cursor)
    | _ => .ok ([], cursor)

/-- The branches of a condition, behind its first keyword. -/
def branches : Nat → Source → Except FaultAt (Command × Source)
  | 0, source => .error ⟨source.line, .tooLong⟩
  | fuel + 1, source => do
    let (condition, cursor) ← list fuel false source
    let (body, cursor) ← list fuel false (← cursor.afterKeyword "then")
    match cursor.token with
    | .keyword "elif" =>
      let (others, rest) ← branches fuel cursor.source
      return (.ifElse condition body others, rest)
    | .keyword "else" =>
      let (others, cursor) ← list fuel false cursor.source
      return (.ifElse condition body others, ← cursor.afterKeyword "fi")
    | _ => return (.ifElse condition body .skip, ← cursor.afterKeyword "fi")

/-- The condition and the body of a loop. -/
def loop : Nat → Bool → Source → Except FaultAt (Command × Source)
  | 0, _, source => .error ⟨source.line, .tooLong⟩
  | fuel + 1, wanted, source => do
    let (condition, cursor) ← list fuel false source
    let (body, cursor) ← list fuel false (← cursor.afterKeyword "do")
    return (.loop wanted condition body, ← cursor.afterKeyword "done")

/-- The arms of a selection from a token on, up to its last keyword. -/
def arms : Nat → Cursor → Except FaultAt (List (List Word × Command) × Source)
  | 0, cursor => .error ⟨cursor.source.line, .tooLong⟩
  | fuel + 1, cursor => do
    if cursor.token.isKeyword "esac" then return ([], cursor.source)
    let start ← match cursor.token with
      | .opening => next fuel .wordOnly cursor.source
      | _ => .ok cursor
    let (patterns, rest) ← alternatives fuel start
    let (body, cursor) ← list fuel true rest
    match cursor.token with
    | .caseEnd =>
      let (others, rest) ← arms fuel (← next fuel .pattern cursor.source)
      return ((patterns, body) :: others, rest)
    | .keyword "esac" => return ([(patterns, body)], cursor.source)
    | _ => throw (cursor.unexpected (some .caseEnd))

/-- The patterns of an arm, up to its parenthesis. -/
def alternatives : Nat → Cursor → Except FaultAt (List Word × Source)
  | 0, cursor => .error ⟨cursor.source.line, .tooLong⟩
  | fuel + 1, cursor => do
    let first := cursor.token.word?.getD []
    let cursor ← next fuel .wordOnly cursor.source
    match cursor.token with
    | .pipe =>
      let (others, rest) ← alternatives fuel (← next fuel .wordOnly cursor.source)
      return (first :: others, rest)
    | _ => return ([first], ← cursor.afterClosing)

/-- The words of a simple command from a token on, with its assignments and redirections, or the
definition of a function. -/
def simple : Nat → Nat → List (String × Word) → List Word → List Redirect → Cursor →
    Except FaultAt (Command × Cursor)
  | 0, _, _, _, _, cursor => .error ⟨cursor.source.line, .tooLong⟩
  | fuel + 1, line, assignments, done, redirects, cursor => do
    let finish : Except FaultAt (Command × Cursor) :=
      .ok (.simple line assignments done redirects, cursor)
    match cursor.token with
    | .redirect stream direction dropTabs =>
      let (first, rest) ← redirect fuel stream direction dropTabs cursor.source
      let wants := if done.isEmpty then .firstWord else .wordOnly
      simple fuel line assignments done (redirects ++ [first]) (← next fuel wants rest)
    | .word word =>
      let assigned : Option (String × Word) := match done, word with
        | [], .plain text :: rest =>
          (assignment? text).map fun entry =>
            (entry.1, if entry.2.isEmpty then rest else Word.cons (.plain entry.2) rest)
        | _, _ => none
      match assigned with
      | some assignment =>
        simple fuel line (assignments ++ [assignment]) done redirects
          (← next fuel .firstWord cursor.source)
      | none =>
        simple fuel line assignments (done ++ [word]) redirects
          (← next fuel .wordOnly cursor.source)
    | .opening =>
      match assignments, done, redirects with
      | [], [word], [] =>
        let rest ← (← next fuel .wordOnly cursor.source).afterClosing
        let name := (word.plainText?).getD ""
        if !isName name || reservedNames.contains name then throw ⟨rest.line, .badFunctionName⟩
        let (body, cursor) ← command fuel (← next fuel .command rest)
        return (.define name body, cursor)
      | _, _, _ => finish
    | _ => finish

end

end

end Reader

/-- A line of a script: its commands, the text behind it, and whether the script ends with it. -/
structure Line where
  body : Command
  rest : Source
  isLast : Bool
deriving Inhabited

/-- Read the next line of a script, with the words that stand for other texts. -/
def Source.line? (aliases : List (String × String)) (source : Source) : Except FaultAt Line :=
  let longest := (aliases.map fun entry => entry.2.length).foldl max 0
  let fuel := 8 * (source.text.length + longest * source.text.length) + 64
  (Reader.line aliases fuel source).map fun (body, cursor) =>
    ⟨body, cursor.source, cursor.token.isFinish⟩

end NfvCatalog.Shell
