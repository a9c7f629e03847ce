/-! # Progress of long work

Work reports its progress as a list of events. A counter follows the events; messages do not change
it.
-/

namespace NfvCatalog

/-- An event of long work. -/
inductive ProgressEvent where
  | length (total : UInt64)
  | message (text : String)
  | increment (amount : UInt64)
  | finish (text : String)
  | failure (text : String)
deriving DecidableEq, Repr, Inhabited

/-- An event on one line. -/
def ProgressEvent.text : ProgressEvent → String
  | .length total => "length " ++ toString total.toNat
  | .message text => "message " ++ text
  | .increment amount => "increment " ++ toString amount.toNat
  | .finish text => "finish " ++ text
  | .failure text => "error " ++ text

/-- How far work has come. -/
structure ProgressCount where
  position : UInt64 := 0
  length : UInt64 := 0
  isFinished : Bool := false
deriving DecidableEq, Repr, Inhabited

namespace ProgressCount

/-- The count after an event. -/
def after (count : ProgressCount) : ProgressEvent → ProgressCount
  | .length total => { count with length := total }
  | .message _ => count
  | .increment amount => { count with position := count.position + amount }
  | .finish _ | .failure _ => { count with isFinished := true }

end ProgressCount

end NfvCatalog
