import NfvCatalog.Archive.Tape
import NfvCatalog.CommandLine.Program
import NfvCatalog.Onboard.Upload

/-! # The program on real files

The files below the working directory are loaded, the program runs on them, and what it has changed
is written back. Packed archives are unpacked on the way in and packed on the way out. Upload
servers are out of reach.
-/

namespace NfvCatalog.Disk

/-- What a file holds: an archive if its name says so and its bytes can be unpacked. -/
def contentOf (path : String) (bytes : List UInt8) : FileContent :=
  if Precheck.isPackage path then
    match Archive.read bytes with
    | .ok members => .archive members
    | .error _ => .bytes bytes
  else .bytes bytes

/-- The bytes of a file. -/
def bytesOf : FileContent → List UInt8
  | .bytes bytes => bytes
  | .archive members => Archive.write members

/-- Whether a file can be run: it names its interpreter. -/
def isScript (bytes : List UInt8) : Bool := [35, 33].isPrefixOf bytes

/-- A path below the working directory. -/
def pathOf (place : Place) : String := Text.join "/" place

/-- An id in which a number stands at the end of a random one. -/
def idOf (seed n : Nat) : String :=
  let digits := (Digits.hexPadded 32 ((seed + n) % (UInt64.size * UInt64.size))).toList
  let part (start size : Nat) : String := String.ofList ((digits.drop start).take size)
  part 0 8 ++ "-" ++ part 8 4 ++ "-4" ++ part 13 3 ++ "-a" ++ part 17 3 ++ "-" ++ part 20 12

/-- Load a file. One that cannot be read is left out. -/
def loadFile (tree : FileTree) (place : Place) (entry : IO.FS.DirEntry) : IO FileTree := do
  try
    let bytes := (← IO.FS.readBinFile entry.path).toList
    return tree.put place (.file (contentOf (pathOf place) bytes) (isScript bytes))
  catch _ => return tree

/-- Load what stands at an entry of a directory, and all below it. -/
partial def load (above : Place) (tree : FileTree) (entry : IO.FS.DirEntry) : IO FileTree := do
  let place := above ++ [entry.fileName]
  if ← entry.path.isDir then
    (← entry.path.readDir).foldlM (load place) (tree.put place .directory)
  else loadFile tree place entry

/-- Write an entry, unless the same one is there. -/
def store (old : FileTree) (entry : Place × FileEntry) : IO Unit := do
  if old.entryAt? entry.1 ≠ some entry.2 then
    match entry.2 with
    | .directory => IO.FS.createDirAll (pathOf entry.1)
    | .file content _ => IO.FS.writeBinFile (pathOf entry.1) ⟨(bytesOf content).toArray⟩

/-- The environment variables that the program knows. -/
def bindings : IO (List (String × String)) := do
  let names := ["NFVKIT_CONFIG", "NFVKIT_PASSWORD", "XDG_CONFIG_HOME", "HOME"]
  names.filterMapM fun name => do return (← IO.getEnv name).map (name, ·)

end NfvCatalog.Disk

open NfvCatalog in
/-- Run the program on the files below the working directory. -/
def main (words : List String) : IO UInt32 := do
  let tree ← (← (← IO.currentDir).readDir).foldlM (Disk.load []) { }
  let seed := (← IO.getRandomBytes 16).toList.foldl (fun n byte => 256 * n + byte.toNat) 0
  let bindings ← Disk.bindings
  let result := CommandLine.run { tree, bindings, freshId := Disk.idOf seed } words
  result.tree.entries.forM (Disk.store tree)
  IO.print result.output
  IO.eprint result.errors
  return UInt32.ofNat result.exitCode
