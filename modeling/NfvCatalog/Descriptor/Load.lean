import NfvCatalog.Failure

/-! # Descriptor files

A descriptor file is read in the notation of its extension, or else in the one that its text
suggests.
-/

namespace NfvCatalog

/-- The notation of a file with a known extension. -/
def Format.ofPath? (path : String) : Option Format :=
  match Path.extension? path with
  | some extension => Format.ofName? extension
  | none => none

namespace DescriptorSet

/-- Read a descriptor file. -/
def load (tree : FileTree) (path : String) : Except Failure DescriptorSet :=
  match tree.readText path with
  | .error error => .error (.unreadable path error)
  | .ok text =>
    let format := (Format.ofPath? path).getD (Format.sniff text)
    match parse format text with
    | .error error => .error (.malformedFile path error)
    | .ok set => .ok set

/-- Read several descriptor files and merge them in order. -/
def loadAll (tree : FileTree) (paths : List String) : Except Failure DescriptorSet :=
  paths.foldlM (fun set path => do return set.merge (← load tree path)) { }

end DescriptorSet

end NfvCatalog
