import NfvCatalog.Digest.Digest
import NfvCatalog.Text.Blank

/-! # Manifests

The manifest of a package lists the digest and the path of every other file, one to a line. Empty
lines and lines that begin with a hash sign say nothing.
-/

namespace NfvCatalog

/-- What is wrong with a line of a manifest. -/
inductive ManifestLineFault where
  | noPath
  | badDigest (error : DigestError)
deriving DecidableEq, Repr, Inhabited

/-- Why a text is not a manifest. -/
structure ManifestError where
  /-- The number of the line, counted from one. -/
  line : Nat
  fault : ManifestLineFault
deriving DecidableEq, Repr, Inhabited

namespace Manifest

/-- The name of the manifest inside a package. -/
def fileName : String := "checksums.txt"

/-- The wording of a manifest error. -/
def errorMessage (error : ManifestError) : String :=
  let fault := match error.fault with
    | .noPath => "expected '<sha256> <path>'"
    | .badDigest error => error.message
  fileName ++ s!" line {error.line}: " ++ fault

/-- A line of a manifest. -/
def formatLine (entry : String × Digest) : String := entry.2.text ++ " " ++ entry.1 ++ "\n"

/-- The text of a manifest, sorted by path. -/
def format (entries : List (String × Digest)) : String :=
  String.join ((entries.mergeSort fun a b => Text.le a.1 b.1).map formatLine)

/-- The digest and the path on a trimmed line. -/
def parseLine (line : List Char) : Except ManifestLineFault (String × Digest) :=
  match line.dropWhile (!Text.isBlank ·) with
  | [] => .error .noPath
  | _ :: rest =>
    match Digest.parse (String.ofList (line.takeWhile (!Text.isBlank ·))) with
    | .ok digest => .ok (String.ofList (Text.trimChars rest), digest)
    | .error error => .error (.badDigest error)

/-- The entries on numbered lines. -/
def parseLines (number : Nat) : List (List Char) → Except ManifestError (List (String × Digest))
  | [] => .ok []
  | line :: rest =>
    let trimmed := Text.trimChars line
    if trimmed.isEmpty ∨ trimmed.head? = some '#' then parseLines (number + 1) rest
    else
      match parseLine trimmed with
      | .error fault => .error ⟨number, fault⟩
      | .ok entry => do return entry :: (← parseLines (number + 1) rest)

/-- The entries of a manifest. -/
def parse (text : String) : Except ManifestError (List (String × Digest)) :=
  parseLines 1 (Text.linesOf text.toList)

end Manifest

end NfvCatalog
