import NfvCatalog.Shell.Utility.Words

/-! # Programs on files

The programs that list, make, copy, move and remove files and directories.
-/

namespace NfvCatalog.Shell.Utility

/-- What stands at a path. -/
def standing (m : Machine) (path : String) : Except FileError FileEntry :=
  if path.isEmpty then .error .notFound else m.entryAt path

/-- Whether a directory stands at a path. -/
def isFolder (m : Machine) (path : String) : Bool :=
  match standing m path with
  | .ok .directory => true
  | _ => false

/-- Whether anything stands at a path. -/
def isThere (m : Machine) (path : String) : Bool := (standing m path).toOption.isSome

/-- The path of a name in a directory. -/
def inFolder (directory name : String) : String :=
  if Text.endsWith directory "/" then directory ++ name else directory ++ "/" ++ name

/-- The place of a path in the tree. -/
def treePlace? (m : Machine) (path : String) : Option Place :=
  (m.tree.locate (m.place path)).toOption

/-- The tree without a place and all below it. -/
def withoutPlace (tree : FileTree) (place : Place) : FileTree :=
  ⟨tree.entries.filter fun entry => entry.1 ≠ place && !FileTree.isBelow place entry.1⟩

/-- The tree with a copy of a place, and of all below it, at another place. -/
def withCopy (tree : FileTree) (source target : Place) : FileTree :=
  let copied := tree.entries.filterMap fun entry =>
    if entry.1 = source || FileTree.isBelow source entry.1 then
      some (target ++ entry.1.drop source.length, entry.2)
    else none
  copied.foldl (fun tree entry => tree.put entry.1 entry.2) tree

/-! ## Lists of files -/

/-- The number of bytes of what stands at a path. -/
def sizeAt (m : Machine) (path : String) : Nat :=
  match standing m path with
  | .ok .directory => 4096
  | _ => ((m.bytesOf path).toOption.getD []).length

/-- Whether what stands at a path can be run. -/
def isRunnable (m : Machine) (path : String) : Bool :=
  match standing m path with
  | .ok (.file _ executable) => executable
  | .ok .directory => true
  | .error _ => false

/-- The letters of a mode. -/
def modeLetters (m : Machine) (path : String) : String :=
  (if isFolder m path then "d" else "-") ++ (if isRunnable m path then "rwxr-xr-x" else "rw-r--r--")

/-- The letters and names of the options of `ls`. -/
def listUsage : Usage :=
  let named : List (Char × String) := [('a', "all"), ('A', "almost-all"), ('d', "directory"),
    ('r', "reverse"), ('R', "recursive"), ('Q', "quote-name"), ('h', "human-readable"),
    ('s', "size"), ('i', "inode"), ('b', "escape"), ('n', "numeric-uid-gid"),
    ('B', "ignore-backups"), ('G', "no-group"), ('L', "dereference"), ('N', "literal"),
    ('q', "hide-control-chars")]
  let extra : List OptionRule := [⟨'F', "classify", .never⟩, ⟨'!', "color", .maybe⟩,
    ⟨'"', "sort", .always⟩, ⟨'%', "format", .always⟩, ⟨'&', "indicator-style", .always⟩,
    ⟨'*', "group-directories-first", .never⟩]
  ⟨extra ++ Usage.ofLetters "1aAbBcCdfFgGhHiI:klLmnNopqQrRsStT:uUvw:xXZ" named, true, 2⟩

/-- The names of a list in the order that is asked for. -/
def listOrder (m : Machine) (given : Given) (directory : String) (names : List String) :
    List String :=
  let size (name : String) : Nat :=
    sizeAt m (if directory.isEmpty then name else inFolder directory name)
  let ending (name : String) : String :=
    match (name.toList.reverse.idxOf? '.') with
    | some count => String.ofList (name.toList.drop (name.length - count - 1))
    | none => ""
  let rule? := given.last? ['S', 'X', 'U', 't', 'v', 'f']
  let sorted := names.mergeSort Text.le
  let ordered := match rule? with
    | some 'S' => sorted.mergeSort fun a b => size b ≤ size a
    | some 'X' => sorted.mergeSort fun a b => Text.le (ending a) (ending b)
    | _ => sorted
  if given.has 'r' then ordered.reverse else ordered

/-- A name as it is listed. -/
def listed (m : Machine) (given : Given) (directory name : String) : String :=
  let path := if directory.isEmpty then name else inFolder directory name
  let shown := if given.has 'Q' then "\"" ++ name ++ "\"" else name
  let mark :=
    if (given.has 'F' || given.has 'p') && isFolder m path then "/"
    else if given.has 'F' && isRunnable m path then "*"
    else ""
  shown ++ mark

/-- The lines of a list of names. -/
def listLines (m : Machine) (given : Given) (directory : String) (names : List String) : String :=
  let shown := names.map (listed m given directory)
  if names.isEmpty then ""
  else if (given.last? ['m', '1', 'l']) = some 'm' then Text.join ", " shown ++ "\n"
  else String.join (shown.map (· ++ "\n"))

/-- The list of a directory, under a heading if there is more than one, and of those below it if
that is asked for. `fuel` bounds the depth. -/
def listFolder (m : Machine) (given : Given) : Nat → String → List (String × String)
  | 0, _ => []
  | fuel + 1, directory =>
    let inside := m.namesIn directory
    let names :=
      if given.has 'a' || given.has 'f' then "." :: ".." :: inside
      else if given.has 'A' then inside
      else inside.filter fun name => name.toList.head? ≠ some '.'
    let ordered := listOrder m given directory names
    let own := (directory, listLines m given directory ordered)
    if given.has 'R' then
      let below := ordered.filter fun name =>
        name ≠ "." && name ≠ ".." && isFolder m (inFolder directory name)
      own :: below.flatMap fun name => listFolder m given fuel (inFolder directory name)
    else [own]

/-- List files and directories. -/
def ls (m : Machine) (words : List String) : Machine :=
  withGiven m listUsage words fun given =>
    let paths := if given.operands.isEmpty then ["."] else given.operands
    let missing := paths.filterMap fun path =>
      match standing m path with
      | .error error => some (path, error)
      | .ok _ => none
    let m := missing.foldl (fun m entry => fault m 2
      ("cannot access " ++ inQuotes entry.1 ++ ": " ++ entry.2.reason)) (m.finish 0)
    let known := paths.filter (isThere m)
    let files := if given.has 'd' then known else known.filter (!isFolder m ·)
    let folders := if given.has 'd' then [] else known.filter (isFolder m)
    let head := listLines m given "" (listOrder m given "" files)
    let blocks := (listOrder m given "" folders).flatMap (listFolder m given 64)
    let isNamed := 1 < paths.length || given.has 'R'
    let body := blocks.map fun block =>
      if isNamed then block.1 ++ ":\n" ++ block.2 else block.2
    let parts := (if files.isEmpty then [] else [head]) ++ body
    m.printText (Text.join "\n" parts)

/-! ## Copies -/

/-- Where files go: to one path, or into a directory. -/
inductive Destination where
  | path (path : String)
  | folder (path : String)
deriving DecidableEq, Repr, Inhabited

/-- The path that a file goes to. -/
def Destination.of (destination : Destination) (source : String) : String :=
  match destination with
  | .path target => target
  | .folder target => inFolder target (lastName source)

/-- Read the sources and the destination of a program that puts files somewhere. -/
def withDestination (m : Machine) (usage : Usage) (words : List String)
    (act : Given → List String → Destination → Machine) : Machine :=
  withGiven m usage words fun given =>
    match given.operands, given.value? 't' with
    | [], _ => misuse m 1 "missing file operand"
    | sources, some folder =>
      if isFolder m folder then act given sources (.folder folder)
      else fault m 1 ("target directory " ++ inQuotes folder ++ ": " ++
        (match standing m folder with
        | .error error => error.reason
        | .ok _ => FileError.notDirectory.reason))
    | [only], none => misuse m 1 ("missing destination file operand after " ++ inQuotes only)
    | sources, none =>
      let target := sources.getLast?.getD ""
      let sources := sources.dropLast
      if isFolder m target && !given.has 'T' then act given sources (.folder target)
      else if 1 < sources.length then
        fault m 1 ("target " ++ inQuotes target ++ ": " ++
          (match standing m target with
          | .error error => error.reason
          | .ok _ => FileError.notDirectory.reason))
      else act given sources (.path target)

/-- Whether two paths lead to one place. -/
def isSame (m : Machine) (a b : String) : Bool :=
  match treePlace? m a, treePlace? m b with
  | some a, some b => a = b
  | _, _ => false

/-- Copy a file. -/
def copyFile (m : Machine) (source target : String) : Machine :=
  match m.tree.read (m.place source) with
  | .error error =>
    fault m 1 ("cannot open " ++ inQuotes source ++ " for reading: " ++ error.reason)
  | .ok content =>
    let executable := isRunnable m source
    let isNew := !isThere m target
    match m.tree.write (m.place target) content with
    | .error error =>
      let error := if Text.endsWith target "/" then FileError.notDirectory else error
      fault m 1 ("cannot create regular file " ++ inQuotes target ++ ": " ++ error.reason)
    | .ok tree =>
      match tree.locate (m.place target) with
      | .ok place =>
        { m with tree := if isNew then tree.put place (.file content executable) else tree }
      | .error _ =>
        fault m 1 ("cannot create regular file " ++ inQuotes target ++ ": " ++
          FileError.notDirectory.reason)

/-- Copy what stands at a path. -/
def copyOne (given : Given) (destination : Destination) (m : Machine) (source : String) : Machine :=
  let isDeep := given.has 'r' || given.has 'R' || given.has 'a'
  let target := destination.of source
  match standing m source with
  | .error error => fault m 1 ("cannot stat " ++ inQuotes source ++ ": " ++ error.reason)
  | .ok .directory =>
    if !isDeep then fault m 1 ("-r not specified; omitting directory " ++ inQuotes source)
    else match treePlace? m source, treePlace? m target with
      | some origin, some goal =>
        if origin = goal || FileTree.isBelow origin goal then
          fault m 1 ("cannot copy a directory, " ++ inQuotes source ++ ", into itself, " ++
            inQuotes target)
        else match m.tree.entryAt? goal with
          | some (.file ..) =>
            fault m 1 ("cannot overwrite non-directory " ++ inQuotes target ++ " with directory " ++
              inQuotes source)
          | _ =>
            if m.tree.entryAt? goal.dropLast = some FileEntry.directory then
              { m with tree := withCopy m.tree origin goal }
            else fault m 1 ("cannot create directory " ++ inQuotes target ++ ": " ++
              FileError.notFound.reason)
      | _, _ =>
        fault m 1
          ("cannot create directory " ++ inQuotes target ++ ": " ++ FileError.notFound.reason)
  | .ok (.file ..) =>
    if isFolder m target then
      fault m 1 ("cannot overwrite directory " ++ inQuotes target ++ " with non-directory")
    else if isSame m source target then
      fault m 1 (inQuotes source ++ " and " ++ inQuotes target ++ " are the same file")
    else if given.has 'n' && isThere m target then m
    else
      let done := copyFile m source target
      if given.has 'v' && (isThere done target) then
        done.printText (inQuotes source ++ " -> " ++ inQuotes target ++ "\n")
      else done

/-- Copy files. -/
def cp (m : Machine) (words : List String) : Machine :=
  let rules := Usage.ofLetters "abdfHilLnPprRst:TuvxZ" [('a', "archive"), ('f', "force"),
    ('n', "no-clobber"), ('r', "recursive"), ('t', "target-directory"),
    ('T', "no-target-directory"), ('v', "verbose"), ('u', "update"), ('p', "preserve")]
  withDestination m ⟨rules, true, 1⟩ words fun given sources destination =>
    let m := if given.has 'n' then m.complain (m.name ++ ": warning: behavior of -n is " ++
      "non-portable and may change in future; use --update=none instead") else m
    sources.foldl (copyOne given destination) (m.finish 0)

/-! ## Moves -/

/-- Move what stands at a path. -/
def moveOne (given : Given) (destination : Destination) (m : Machine) (source : String) : Machine :=
  let target := destination.of source
  let refuse (reason : String) : Machine :=
    fault m 1 ("cannot move " ++ inQuotes source ++ " to " ++ reason)
  match standing m source, treePlace? m source with
  | .error error, _ => fault m 1 ("cannot stat " ++ inQuotes source ++ ": " ++ error.reason)
  | .ok entry, some origin =>
    match treePlace? m target with
    | none =>
      let reason := match m.tree.locate (m.place target) with
        | .error error => error.reason
        | .ok _ => FileError.notFound.reason
      refuse (inQuotes target ++ ": " ++ reason)
    | some goal =>
      let isDirectory := decide (entry = .directory)
      if origin = goal && !isDirectory then
        fault m 1 (inQuotes source ++ " and " ++ inQuotes target ++ " are the same file")
      else if isDirectory && (origin = goal || FileTree.isBelow origin goal) then
        refuse ("a subdirectory of itself, " ++ inQuotes target)
      else match m.tree.entryAt? goal, isDirectory with
        | some (.file ..), true =>
          fault m 1 ("cannot overwrite non-directory " ++ inQuotes target ++ " with directory " ++
            inQuotes source)
        | some .directory, false =>
          fault m 1 ("cannot overwrite directory " ++ inQuotes target ++ " with non-directory " ++
            inQuotes source)
        | there, _ =>
          if there.isSome && given.has 'n' then
            fault m 1 ("not replacing " ++ inQuotes target)
          else if !isDirectory && Text.endsWith target "/" then
            refuse (inQuotes target ++ ": " ++ FileError.notDirectory.reason)
          else if m.tree.entryAt? goal.dropLast ≠ some FileEntry.directory then
            refuse (inQuotes target ++ ": " ++
              (match m.tree.entryAt? goal.dropLast with
              | none => FileError.notFound.reason
              | some _ => FileError.notDirectory.reason))
          else if isDirectory && !(m.tree.names goal).isEmpty then
            refuse (inQuotes target ++ ": " ++ FileError.notEmpty.reason)
          else
            let cleared := withoutPlace m.tree goal
            let moved := withoutPlace (withCopy cleared origin goal) origin
            let m := { m with tree := moved }
            if given.has 'v' then
              m.printText ("renamed " ++ inQuotes source ++ " -> " ++ inQuotes target ++ "\n")
            else m
  | .ok _, none => refuse (inQuotes target ++ ": " ++ FileError.denied.reason)

/-- Move files. -/
def mv (m : Machine) (words : List String) : Machine :=
  let rules := Usage.ofLetters "bfint:TuvZ" [('f', "force"), ('n', "no-clobber"),
    ('t', "target-directory"), ('T', "no-target-directory"), ('v', "verbose")]
  withDestination m ⟨rules, true, 1⟩ words fun given sources destination =>
    sources.foldl (moveOne given destination) (m.finish 0)

/-- Give files further names. Each name has a file of its own. -/
def ln (m : Machine) (words : List String) : Machine :=
  let rules := Usage.ofLetters "bdfFiLnPrst:Tv" [('s', "symbolic"), ('f', "force"),
    ('t', "target-directory"), ('T', "no-target-directory"), ('v', "verbose")]
  withGiven m ⟨rules, true, 1⟩ words fun given =>
    let kind := if given.has 's' then "symbolic" else "hard"
    let (sources, destination) : List String × Destination := match given.operands with
      | [only] => ([only], .folder ".")
      | operands =>
        let target := operands.getLast?.getD ""
        (operands.dropLast, if isFolder m target then .folder target else .path target)
    let step (m : Machine) (source : String) : Machine :=
      let target := destination.of source
      match standing m source with
      | .error error =>
        if given.has 's' then m
        else fault m 1 ("failed to access " ++ inQuotes source ++ ": " ++ error.reason)
      | .ok .directory =>
        if given.has 's' then m
        else fault m 1 (source ++ ": hard link not allowed for directory")
      | .ok (.file content executable) =>
        if isThere m target && !given.has 'f' then
          fault m 1 ("failed to create " ++ kind ++ " link " ++ inQuotes target ++ ": " ++
            FileError.exists.reason)
        else match m.tree.write (m.place target) content, treePlace? m target with
          | .ok tree, some place => { m with tree := tree.put place (.file content executable) }
          | .error error, _ =>
            fault m 1 ("failed to create " ++ kind ++ " link " ++ inQuotes target ++
              (if given.has 's' then "" else " => " ++ inQuotes source) ++ ": " ++ error.reason)
          | .ok _, none => m
    if given.operands.isEmpty then misuse m 1 "missing file operand"
    else sources.foldl step (m.finish 0)

/-! ## Removal -/

/-- Say what of a tree is removed, from the bottom up. `fuel` bounds the depth. -/
def removalLines (m : Machine) : Nat → String → String
  | 0, _ => ""
  | fuel + 1, path =>
    if isFolder m path then
      String.join ((m.namesIn path).map fun name => removalLines m fuel (inFolder path name)) ++
        "removed directory " ++ inQuotes path ++ "\n"
    else "removed " ++ inQuotes path ++ "\n"

/-- Remove what stands at a path. -/
def removeOne (given : Given) (m : Machine) (path : String) : Machine :=
  let refuse (reason : String) : Machine :=
    fault m 1 ("cannot remove " ++ inQuotes path ++ ": " ++ reason)
  let isDeep := given.has 'r' || given.has 'R'
  let isStep := [".", ".."].contains (lastName path)
  match standing m path with
  | .error error =>
    let isGone := error = .notFound || error = .notDirectory
    if given.has 'f' && isGone then m else refuse error.reason
  | .ok entry =>
    let isDirectory := decide (entry = .directory)
    if isDirectory && !isDeep && !given.has 'd' then refuse FileError.isDirectory.reason
    else if isDirectory && isStep then
      fault m 1 ("refusing to remove '.' or '..' directory: skipping " ++ inQuotes path)
    else if isDirectory && !isDeep && !(m.namesIn path).isEmpty then
      refuse FileError.notEmpty.reason
    else
      let lines := if given.has 'v' then removalLines m 64 path else ""
      let m := match treePlace? m path with
        | some place => { m with tree := withoutPlace m.tree place }
        | none => m
      m.printText lines

/-- Remove files and directories. -/
def rm (m : Machine) (words : List String) : Machine :=
  let rules := ⟨'!', "one-file-system", .never⟩ :: Usage.ofLetters "dfiIrRv" [('d', "dir"),
    ('f', "force"), ('r', "recursive"), ('v', "verbose")]
  withGiven m ⟨rules, true, 1⟩ words fun given =>
    if given.operands.isEmpty then
      if given.has 'f' then m.finish 0 else misuse m 1 "missing operand"
    else given.operands.foldl (removeOne given) (m.finish 0)

/-- Remove a directory that is empty, and those above it if that is asked for. `fuel` bounds the
directories. -/
def removeFolder (given : Given) : Nat → Machine → String → Machine
  | 0, m, _ => m
  | fuel + 1, m, path =>
    let m := if given.has 'v' then
      m.printText (m.name ++ ": removing directory, " ++ inQuotes path ++ "\n") else m
    let refuse (reason : String) : Machine :=
      fault m 1 ("failed to remove " ++ inQuotes path ++ ": " ++ reason)
    match standing m path with
    | .error error => refuse error.reason
    | .ok (.file ..) => refuse FileError.notDirectory.reason
    | .ok .directory =>
      if lastName path = "." then refuse "Invalid argument"
      else if !(m.namesIn path).isEmpty then
        if given.has 'i' then m else refuse FileError.notEmpty.reason
      else
        let m := match treePlace? m path with
          | some place => { m with tree := withoutPlace m.tree place }
          | none => m
        let above := directoryOf path
        if given.has 'p' && above ≠ "." && above ≠ "/" then removeFolder given fuel m above else m

/-- Remove empty directories. -/
def rmdir (m : Machine) (words : List String) : Machine :=
  let rules := ⟨'i', "ignore-fail-on-non-empty", .never⟩ :: Usage.ofLetters "pv" [('p', "parents"),
    ('v', "verbose")]
  withGiven m ⟨rules, true, 1⟩ words fun given =>
    if given.operands.isEmpty then misuse m 1 "missing operand"
    else given.operands.foldl (removeFolder given 64) (m.finish 0)

/-! ## New files and modes -/

/-- Whether a text is a mode. -/
def isMode (text : String) : Bool :=
  let octal := !text.isEmpty && text.length ≤ 5 && text.toList.all isOctal
  octal || (Text.split ',' text).all fun clause =>
    let rest := clause.toList.dropWhile fun c => "ugoa".toList.contains c
    match rest with
    | sign :: _ => "+-=".toList.contains sign &&
        rest.all fun c => "+-=rwxXstugo".toList.contains c
    | [] => false

/-- Whether a file can be run under a mode. -/
def runsUnder (mode : String) (wasRunnable : Bool) : Bool :=
  if mode.toList.all isOctal then
    (Spelled.numeral 8 mode.toList) / 64 % 2 = 1
  else
    (Text.split ',' mode).foldl (fun runs clause =>
      let who := clause.toList.takeWhile fun c => "ugoa".toList.contains c
      let concerns := who.isEmpty || who.contains 'u' || who.contains 'a'
      let rest := clause.toList.drop who.length
      let has := rest.contains 'x' || (rest.contains 'X' && runs)
      if !concerns then runs
      else match rest with
        | '+' :: _ => runs || has
        | '-' :: _ => runs && !has
        | _ => has) wasRunnable

/-- Make a directory, with those above it if that is asked for. -/
def makeFolders (given : Given) (m : Machine) (path : String) : Machine :=
  let refuse (m : Machine) (path : String) (error : FileError) : Machine :=
    fault m 1 ("cannot create directory " ++ inQuotes path ++ ": " ++ error.reason)
  let make (m : Machine) (path : String) : Except FileError Machine := do
    if path.isEmpty then throw FileError.notFound
    let tree ← m.tree.makeDirectory (Path.components (m.place (withoutEndSlashes path)))
    let m := { m with tree }
    return if given.has 'v' then
      m.printText (m.name ++ ": created directory " ++ inQuotes path ++ "\n") else m
  if !given.has 'p' then
    if isThere m path then refuse m path .exists
    else match make m path with
      | .ok m => m
      | .error error => refuse m path error
  else
    let parts := (Text.split '/' (withoutEndSlashes path)).foldl
      (fun (done : List String) part =>
        let front := match done.getLast? with
          | some front => front ++ "/" ++ part
          | none => part
        done ++ [front]) []
    let parts := parts.filter (!·.isEmpty)
    let step (state : Machine × Bool) (part : String) : Machine × Bool :=
      if state.2 then state
      else if isFolder state.1 part then state
      else match standing state.1 part, make state.1 part with
        | .ok _, _ =>
          let error := if some part = parts.getLast? then FileError.exists else .notDirectory
          (refuse state.1 part error, true)
        | _, .ok m => (m, false)
        | _, .error error => (refuse state.1 part error, true)
    if parts.isEmpty then refuse m path .notFound else (parts.foldl step (m, false)).1

/-- Make directories. -/
def mkdir (m : Machine) (words : List String) : Machine :=
  let rules := Usage.ofLetters "m:pvZ" [('m', "mode"), ('p', "parents"), ('v', "verbose")]
  withGiven m ⟨rules, true, 1⟩ words fun given =>
    match given.operands, (given.value? 'm').filter (!isMode ·) with
    | [], _ => misuse m 1 "missing operand"
    | _, some mode => fault m 1 ("invalid mode " ++ inQuotes mode)
    | operands, none => operands.foldl (makeFolders given) (m.finish 0)

/-- Make files that are not there. -/
def touch (m : Machine) (words : List String) : Machine :=
  let rules := Usage.ofLetters "acd:fhmr:t:" [('c', "no-create"), ('d', "date"), ('r', "reference")]
  withGiven m ⟨rules, true, 1⟩ words fun given =>
    let step (m : Machine) (path : String) : Machine :=
      if isThere m path || given.has 'c' then m
      else if Text.endsWith path "/" then
        fault m 1 ("setting times of " ++ inQuotes path ++ ": " ++ FileError.notFound.reason)
      else
        let made := if path.isEmpty then .error FileError.notFound
          else m.tree.write (m.place path) (.bytes [])
        match made with
        | .ok tree => { m with tree }
        | .error error => fault m 1 ("cannot touch " ++ inQuotes path ++ ": " ++ error.reason)
    match given.operands, given.value? 'r' with
    | [], _ => misuse m 1 "missing file operand"
    | operands, reference =>
      match reference.map fun path => (path, standing m path) with
      | some (path, .error error) =>
        fault m 1 ("failed to get attributes of " ++ inQuotes path ++ ": " ++ error.reason)
      | _ => operands.foldl step (m.finish 0)

/-- Give files a mode, and all below directories if that is asked for. -/
def chmod (m : Machine) (words : List String) : Machine :=
  let isClause (word : String) : Bool :=
    match word.toList with
    | '-' :: c :: rest => (c :: rest).all fun c => "rwxXstugo,+-=".toList.contains c
    | _ => false
  let words := match words.find? isClause with
    | some clause => "--" :: clause :: words.filter (· ≠ clause)
    | none => words
  let rules := ⟨'!', "reference", .always⟩ :: Usage.ofLetters "cfRv" [('c', "changes"),
    ('f', "silent"), ('R', "recursive"), ('v', "verbose")]
  withGiven m ⟨rules, true, 1⟩ words fun given =>
    let change (mode : String) (m : Machine) (path : String) : Machine :=
      match standing m path with
      | .error error => fault m 1 ("cannot access " ++ inQuotes path ++ ": " ++ error.reason)
      | .ok _ =>
        match treePlace? m path with
        | none => m
        | some place =>
          let entries := m.tree.entries.map fun entry =>
            let isMeant := entry.1 = place ||
              (given.has 'R' && FileTree.isBelow place entry.1)
            match entry.2, isMeant with
            | .file content executable, true =>
              (entry.1, .file content (runsUnder mode executable))
            | _, _ => entry
          { m with tree := ⟨entries⟩ }
    match given.value? '!', given.operands with
    | some model, operands =>
      let mode := if isRunnable m model then "755" else "644"
      operands.foldl (change mode) (m.finish 0)
    | none, [] => misuse m 1 "missing operand"
    | none, [mode] => misuse m 1 ("missing operand after " ++ inQuotes mode)
    | none, mode :: paths =>
      if isMode mode then paths.foldl (change mode) (m.finish 0)
      else misuse m 1 ("invalid mode: " ++ inQuotes mode)

/-! ## What is known of files -/

/-- A format for what is known of a file, filled in. -/
def statText (m : Machine) (path : String) : List Char → String
  | '%' :: c :: rest =>
    let size := sizeAt m path
    let text := match c with
      | 's' => toString size
      | 'n' => path
      | 'N' => inQuotes path
      | 'a' => if isRunnable m path then "755" else "644"
      | 'A' => modeLetters m path
      | 'F' => if isFolder m path then "directory"
        else if size = 0 then "regular empty file" else "regular file"
      | 'U' | 'G' => "root"
      | 'u' | 'g' => "0"
      | 'h' => "1"
      | '%' => "%"
      | _ => "?"
    text ++ statText m path rest
  | c :: rest => String.singleton c ++ statText m path rest
  | [] => ""

/-- Print what is known of files. -/
def stat (m : Machine) (words : List String) : Machine :=
  let rules := ⟨'!', "printf", .always⟩ :: Usage.ofLetters "c:fLt" [('c', "format"),
    ('L', "dereference"), ('t', "terse")]
  withGiven m ⟨rules, true, 1⟩ words fun given =>
    let step (m : Machine) (path : String) : Machine :=
      match standing m path with
      | .error error => fault m 1 ("cannot statx " ++ inQuotes path ++ ": " ++ error.reason)
      | .ok _ =>
        match given.value? '!', given.value? 'c' with
        | some format, _ =>
          m.printText (statText m path (echoed (format.length + 1) format.toList).1)
        | none, some format => m.printText (statText m path format.toList ++ "\n")
        | none, none => m
    if given.operands.isEmpty then misuse m 1 "missing operand"
    else given.operands.foldl step (m.finish 0)

/-- A path from the root, without steps that lead nowhere. -/
def fullPath (m : Machine) (path : String) : String :=
  let full := if Text.startsWith path "/" then path else m.directory ++ "/" ++ path
  let step (done : List String) (part : String) : List String :=
    if part = "" ∨ part = "." then done else if part = ".." then done.dropLast else done ++ [part]
  "/" ++ Text.join "/" ((Text.split '/' full).foldl step [])

/-- Print full paths. -/
def realpath (m : Machine) (words : List String) : Machine :=
  withGiven m ⟨Usage.ofLetters "emLPqsz" [('e', "canonicalize-existing"),
    ('m', "canonicalize-missing"), ('q', "quiet"), ('s', "strip"), ('z', "zero")], true, 1⟩
    words fun given =>
    let step (m : Machine) (path : String) : Machine :=
      let isKnown := isThere m path || (!given.has 'e' && isFolder m (directoryOf path)) ||
        given.has 'm'
      if isKnown then m.printText (fullPath m path ++ "\n")
      else fault m 1 (path ++ ": " ++ FileError.notFound.reason)
    if given.operands.isEmpty then misuse m 1 "missing operand"
    else given.operands.foldl step (m.finish 0)

/-- Print where links lead. Files are no links. -/
def readlink (m : Machine) (words : List String) : Machine :=
  withGiven m ⟨Usage.ofLetters "femnqsvz" [('f', "canonicalize"), ('e', "canonicalize-existing"),
    ('m', "canonicalize-missing"), ('n', "no-newline")], true, 1⟩ words fun given =>
    let isFull := given.has 'f' || given.has 'e' || given.has 'm'
    let step (m : Machine) (path : String) : Machine :=
      let isKnown := isThere m path || (given.has 'f' && isFolder m (directoryOf path)) ||
        given.has 'm'
      if isFull && isKnown then
        m.printText (fullPath m path ++ (if given.has 'n' then "" else "\n"))
      else m.finish 1
    if given.operands.isEmpty then misuse m 1 "missing operand"
    else given.operands.foldl step (m.finish 0)

end NfvCatalog.Shell.Utility
