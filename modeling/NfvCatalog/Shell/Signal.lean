import NfvCatalog.Shell.Spelled

/-! # Signals

The signals that end or interrupt programs, with their numbers, their names, and what is said of a
program that one of them has ended.
-/

namespace NfvCatalog.Shell

/-- A signal. One that is none ends a program if nothing else is said. -/
structure Signal where
  number : Nat
  name : String
  report : String
  ends : Bool := true
deriving DecidableEq, Repr, Inhabited

namespace Signal

/-- The signals by their numbers. Zero stands for the end of a script. -/
def all : List Signal :=
  [⟨0, "EXIT", "", false⟩, ⟨1, "HUP", "Hangup", true⟩, ⟨2, "INT", "Interrupt", true⟩,
    ⟨3, "QUIT", "Quit", true⟩, ⟨4, "ILL", "Illegal instruction", true⟩,
    ⟨5, "TRAP", "Trace/breakpoint trap", true⟩, ⟨6, "ABRT", "Aborted", true⟩,
    ⟨7, "BUS", "Bus error", true⟩, ⟨8, "FPE", "Floating point exception", true⟩,
    ⟨9, "KILL", "Killed", true⟩, ⟨10, "USR1", "User defined signal 1", true⟩,
    ⟨11, "SEGV", "Segmentation fault", true⟩, ⟨12, "USR2", "User defined signal 2", true⟩,
    ⟨13, "PIPE", "Broken pipe", true⟩, ⟨14, "ALRM", "Alarm clock", true⟩,
    ⟨15, "TERM", "Terminated", true⟩, ⟨16, "STKFLT", "Stack fault", true⟩,
    ⟨17, "CHLD", "Child exited", false⟩, ⟨18, "CONT", "Continued", false⟩,
    ⟨19, "STOP", "Stopped (signal)", false⟩, ⟨20, "TSTP", "Stopped", false⟩,
    ⟨21, "TTIN", "Stopped (tty input)", false⟩, ⟨22, "TTOU", "Stopped (tty output)", false⟩,
    ⟨23, "URG", "Urgent I/O condition", false⟩, ⟨24, "XCPU", "CPU time limit exceeded", true⟩,
    ⟨25, "XFSZ", "File size limit exceeded", true⟩, ⟨26, "VTALRM", "Virtual timer expired", true⟩,
    ⟨27, "PROF", "Profiling timer expired", true⟩, ⟨28, "WINCH", "Window changed", false⟩,
    ⟨29, "IO", "I/O possible", true⟩, ⟨30, "PWR", "Power failure", true⟩,
    ⟨31, "SYS", "Bad system call", true⟩]

/-- The signal with a number. -/
def ofNumber? (number : Nat) : Option Signal := all.find? (·.number = number)

/-- The signal that a number or a name in any case stands for. -/
def ofText? (text : String) : Option Signal :=
  match Spelled.count? text with
  | some number => ofNumber? number
  | none => all.find? (·.name = Text.asciiUpper text)

/-- Whether a program can say what is to be done at a signal. -/
def canBeCaught (signal : Signal) : Bool := signal.number ≠ 9 && signal.number ≠ 19

/-- Whether a signal stops a program until another one lets it go on. -/
def stops (signal : Signal) : Bool := 19 ≤ signal.number && signal.number ≤ 22

/-- What is said of a program that a signal has ended; of some nothing is said. -/
def saidOf (number : Nat) : Option String :=
  if number = 2 ∨ number = 13 then none else (ofNumber? number).map Signal.report

end Signal

end NfvCatalog.Shell
