import NfvCatalog.Shell.Utility.Judge
import NfvCatalog.Shell.Utility.Lines
import NfvCatalog.Shell.Utility.Places
import NfvCatalog.Shell.Utility.Runners
import NfvCatalog.Shell.Utility.Search
import NfvCatalog.Shell.Utility.Stream

/-! # Programs of the machine

The small programs that every machine has.
-/

namespace NfvCatalog.Shell.Utility

/-- Run a program. How it runs further programs is left to `start`. -/
def run? (start : Machine → Launch → Machine) (m : Machine) (utility : String)
    (words : List String) : Option Machine :=
  match utility with
  | "true" => some (m.finish 0)
  | "false" => some (m.finish 1)
  | "echo" => some (printWords m words)
  | "printf" => some (printFormatted m words)
  | "test" => some (judge m false words)
  | "[" => some (judge m true words)
  | "basename" => some (basename m words)
  | "dirname" => some (dirname m words)
  | "seq" => some (seq m words)
  | "sleep" => some (sleep m words)
  | "yes" => some (yes m words)
  | "printenv" => some (printenv m words)
  | "id" => some (id m words)
  | "whoami" => some (fixedText m "root" words)
  | "nproc" => some (fixedText m "1" words)
  | "arch" => some (fixedText m "x86_64" words)
  | "uname" => some (uname m words)
  | "pwd" => some (pwd m words)
  | "which" => some (which m words)
  | "env" => some (env start m words)
  | "timeout" => some (timeout start m words)
  | "nohup" => some (plainly start m ⟨[], false, 125⟩ words)
  | "nice" => some (nice start m words)
  | "xargs" => some (xargs start m words)
  | "cat" => some (cat m words)
  | "head" => some (head m words)
  | "tail" => some (tail m words)
  | "tac" => some (tac m words)
  | "rev" => some (rev m words)
  | "sort" => some (sort m words)
  | "uniq" => some (uniq m words)
  | "wc" => some (wc m words)
  | "cut" => some (cut m words)
  | "paste" => some (paste m words)
  | "nl" => some (nl m words)
  | "fold" => some (fold m words)
  | "tr" => some (tr m words)
  | "grep" => some (grep m words)
  | "expr" => some (expr m words)
  | "sed" => some (sed m words)
  | "tee" => some (tee m words)
  | "ls" => some (ls m words)
  | "cp" => some (cp m words)
  | "mv" => some (mv m words)
  | "ln" => some (ln m words)
  | "rm" => some (rm m words)
  | "rmdir" => some (rmdir m words)
  | "mkdir" => some (mkdir m words)
  | "touch" => some (touch m words)
  | "chmod" => some (chmod m words)
  | "stat" => some (stat m words)
  | "realpath" => some (realpath m words)
  | "readlink" => some (readlink m words)
  | _ => none

/-- Run a program. What cannot be printed is complained about. -/
def run (start : Machine → Launch → Machine) (m : Machine) (utility : String)
    (words : List String) : Machine :=
  let done := (run? start m utility words).getD (m.finish 127)
  if done.hasLostOutput then
    let place := if utility = "cat" then "standard output" else "write error"
    fault done 1 (place ++ ": " ++ FileError.badStream.reason)
  else done

end NfvCatalog.Shell.Utility
