import NfvCatalog.Document.Record
import NfvCatalog.Number.Binary64

/-! # States of uploads

The answers of an upload server tell what has happened, and when.
-/

/-! ## Dates of seconds

A count of seconds from the start of 1970 has a date in the Gregorian calendar and a time of day,
both in universal time. Years are counted from March here, so that a leap day is the last day of
its year; a cycle of 400 years always has the same number of days.
-/

namespace NfvCatalog

/-- The number with its places behind the point cut off, if it is finite. -/
def Binary64.truncate? : Binary64 → Option Int
  | .finite negative significand exponent =>
    let size : Nat :=
      if exponent < 0 then significand / Nat.pow 2 exponent.natAbs
      else significand * Nat.pow 2 exponent.natAbs
    some (if negative then -(size : Int) else size)
  | _ => none

/-- A date of the Gregorian calendar. -/
structure CivilDate where
  year : Int
  month : Nat
  day : Nat
deriving DecidableEq, Repr, Inhabited

namespace CivilDate

/-- The days of 400 years. -/
def cycleDays : Nat := 146097

/-- The days from the first of March of the year 0 to the first day of 1970. -/
def daysBefore1970 : Nat := 719468

/-- The year of a cycle in which a day of the cycle lies; years begin in March. -/
def yearOfCycle (day : Nat) : Nat := (day - day / 1460 + day / 36524 - day / 146096) / 365

/-- The first day of a year in its cycle. -/
def firstDay (year : Nat) : Nat := 365 * year + year / 4 - year / 100

/-- The date of a day counted from the first day of 1970. -/
def ofDay (day : Int) : CivilDate :=
  let shifted := day + daysBefore1970
  let cycle := shifted.fdiv cycleDays
  let dayOfCycle := (shifted.fmod cycleDays).toNat
  let year := yearOfCycle dayOfCycle
  let dayOfYear := dayOfCycle - firstDay year
  let month := (5 * dayOfYear + 2) / 153
  { year := 400 * cycle + year + if month < 10 then 0 else 1
    month := if month < 10 then month + 3 else month - 9
    day := dayOfYear - (153 * month + 2) / 5 + 1 }

/-- The years that have a text. -/
def isWritable (date : CivilDate) : Bool := -262143 ≤ date.year && date.year ≤ 262142

/-- A year with at least four digits; one that has more, or lies before the year 0, has a sign. -/
def yearText (year : Int) : String :=
  let sign := if year < 0 then "-" else if 9999 < year then "+" else ""
  sign ++ Digits.padded 4 year.natAbs

/-- A date as year, month and day. -/
def text (date : CivilDate) : String :=
  yearText date.year ++ "-" ++ Digits.padded 2 date.month ++ "-" ++ Digits.padded 2 date.day

end CivilDate

namespace Timestamp

/-- The seconds of a day. -/
def daySeconds : Nat := 86400

/-- Seconds of a day as hours, minutes and seconds. -/
def clockText (seconds : Nat) : String :=
  Digits.padded 2 (seconds / 3600) ++ ":" ++ Digits.padded 2 (seconds / 60 % 60) ++ ":" ++
    Digits.padded 2 (seconds % 60)

/-- The date and time of a count of seconds, if its year has a text. -/
def text? (seconds : Int) : Option String :=
  let date := CivilDate.ofDay (seconds.fdiv daySeconds)
  if date.isWritable then
    some (date.text ++ " " ++ clockText (seconds.fmod daySeconds).toNat)
  else none

end Timestamp

end NfvCatalog

/-! ## Transactions

The upload server works on an upload in a transaction. Asked for its state, it tells the status and
all events so far.
-/

namespace NfvCatalog

/-- How far a transaction is. -/
inductive UploadStatus where
  | pending
  | success
  | failure
deriving DecidableEq, Repr, Inhabited

namespace UploadStatus

/-- The name of a status. -/
def name : UploadStatus → String
  | .pending => "pending"
  | .success => "success"
  | .failure => "failure"

/-- The status with a name. -/
def named (name : String) : Except Fault UploadStatus :=
  match [pending, success, failure].find? (·.name = name) with
  | some status => .ok status
  | none => .error (.other ("unknown status '" ++ name ++ "'"))

/-- Read a status: its name, or a mapping with its name as the only key and nothing below it. -/
def ofNode : Node → Except Fault UploadStatus
  | .mapping [(key, .null)] => do named (← key.asText)
  | node => do named (← node.asText)

end UploadStatus

/-- Something that happened in a transaction. -/
structure UploadEvent where
  /-- The time in seconds from the start of 1970. -/
  timestamp : Option Binary64 := none
  value : Option String := none
  text : String := ""
deriving DecidableEq, Repr, Inhabited

/-- Read a number as a floating-point one. -/
def Node.asFloat : Node → Except Fault Binary64
  | .number (.float x) => .ok x
  | .number (.int n) => .ok (.ofRatio (n < 0) n.natAbs 1)
  | _ => .error (.expected "a number")

namespace UploadEvent

/-- Read an event. -/
def ofNode (node : Node) : Except Fault UploadEvent := do
  let r ← Record.ofNode true { names := ["timestamp", "value", "text"] } node
  return { timestamp := ← r.optional "timestamp" Node.asFloat
           value := ← r.optional "value" Node.asText
           text := ← r.withDefault "text" "" Node.asText }

/-- An event as a value. -/
def toValue (event : UploadEvent) : Value :=
  .ofFields [("timestamp", (event.timestamp.map fun t => .number (.float t)).getD .null),
    ("value", (event.value.map .string).getD .null), ("text", .string event.text)]

/-- An event on one line, with its date if it has one. -/
def line (event : UploadEvent) : String :=
  match (event.timestamp.bind Binary64.truncate?).bind Timestamp.text? with
  | some date => "[" ++ date ++ "] " ++ event.text
  | none => event.text

end UploadEvent

/-- The state of a transaction. -/
structure UploadState where
  status : UploadStatus
  events : List UploadEvent := []
deriving DecidableEq, Repr, Inhabited

namespace UploadState

/-- Read a state. -/
def ofNode (node : Node) : Except Fault UploadState := do
  let r ← Record.ofNode true { names := ["status", "events"] } node
  return { status := ← r.required "status" UploadStatus.ofNode
           events := ← r.list "events" UploadEvent.ofNode }

/-- A state as a value. -/
def toValue (state : UploadState) : Value :=
  .ofFields [("status", .string state.status.name),
    ("events", .sequence (state.events.map UploadEvent.toValue))]

/-- The texts of the events. -/
def eventTexts (state : UploadState) : List String := state.events.map (·.text)

end UploadState

end NfvCatalog
