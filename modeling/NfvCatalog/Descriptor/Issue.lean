/-! # Findings of validation

What can be wrong with a descriptor, apart from its wording. A warning marks what cannot be checked
or is merely unusual; everything else makes a descriptor unusable.
-/

namespace NfvCatalog

/-- How bad a finding is. -/
inductive Severity where
  | warning
  | error
deriving DecidableEq, Repr, Inhabited

/-- The word for a severity. -/
def Severity.name : Severity → String
  | .warning => "warning"
  | .error => "error"

/-- A value of a flavor that may be zero. -/
inductive FlavorField where
  | vcpus
  | memory
  | storage
deriving DecidableEq, Repr, Inhabited

/-- The field's name in a descriptor. -/
def FlavorField.name : FlavorField → String
  | .vcpus => "vcpu-count"
  | .memory => "memory-mb"
  | .storage => "storage-gb"

/-- What validation can find. -/
inductive Problem where
  | blankId
  | noVdus
  | duplicateVdu (id : String)
  | duplicatePoint (name : String)
  | blankVduId
  | zeroCount
  | zeroFlavor (field : FlavorField)
  | noImage
  | unknownPoint (interface point : String)
  | unknownMgmtVdu (id : String)
  | unknownMgmtPoint (name : String)
  | unknownInternalPoint (id : String)
  | noConstituents
  | duplicateMember
  | vnfdNotSupplied (id : String)
  | unknownMember (index : UInt32)
  | otherVnfd (index : UInt32) (actual claimed : String)
  | missingPoint (vnfd point : String)
  | duplicateVld (id : String)
  | minExceedsMax (least greatest : UInt32)
  | duplicateSeq (seq : UInt32)
deriving DecidableEq, Repr, Inhabited

namespace Problem

/-- How bad a problem is. -/
def severity : Problem → Severity
  | .noVdus | .noImage | .noConstituents | .vnfdNotSupplied _ => .warning
  | _ => .error

/-- The wording of a problem. -/
def message : Problem → String
  | .blankId => "id must not be empty"
  | .noVdus => "descriptor has no VDUs"
  | .duplicateVdu id => "duplicate vdu id '" ++ id ++ "'"
  | .duplicatePoint name => "duplicate connection-point '" ++ name ++ "'"
  | .blankVduId => "vdu id must not be empty"
  | .zeroCount => "count must be at least 1"
  | .zeroFlavor field => "vm-flavor " ++ field.name ++ " must be non-zero"
  | .noImage => "no image specified"
  | .unknownPoint interface point =>
    "external-interface '" ++ interface ++ "' references unknown connection-point '" ++ point ++ "'"
  | .unknownMgmtVdu id => "vdu-id '" ++ id ++ "' does not name a vdu"
  | .unknownMgmtPoint name => "cp '" ++ name ++ "' does not name a connection-point"
  | .unknownInternalPoint id => "unknown internal-connection-point '" ++ id ++ "'"
  | .noConstituents => "descriptor has no constituent VNFDs"
  | .duplicateMember => "duplicate member-vnf-index"
  | .vnfdNotSupplied id => "vnfd '" ++ id ++ "' not supplied, references not checked"
  | .unknownMember index => s!"unknown member-vnf-index-ref {index}"
  | .otherVnfd index actual claimed =>
    s!"member {index} is vnfd '" ++ actual ++ "', not '" ++ claimed ++ "'"
  | .missingPoint vnfd point => "vnfd '" ++ vnfd ++ "' has no connection-point '" ++ point ++ "'"
  | .duplicateVld id => "duplicate vld id '" ++ id ++ "'"
  | .minExceedsMax least greatest =>
    s!"min-instance-count {least} exceeds max-instance-count {greatest}"
  | .duplicateSeq seq => s!"duplicate seq {seq}"

end Problem

/-- A problem and the part of a descriptor that has it. -/
structure Issue where
  /-- The place inside the descriptor, such as `vnfd[ping]/vdu[iovdu_0]`. -/
  path : String
  problem : Problem
deriving DecidableEq, Repr, Inhabited

namespace Issue

/-- How bad an issue is. -/
def severity (issue : Issue) : Severity := issue.problem.severity

/-- Whether an issue makes the descriptor unusable. -/
def isError (issue : Issue) : Bool := issue.severity = .error

/-- The wording of an issue. -/
def message (issue : Issue) : String := issue.problem.message

/-- An issue on one line. -/
def text (issue : Issue) : String :=
  issue.severity.name ++ ": " ++ issue.path ++ ": " ++ issue.message

/-- Whether any issue is an error. -/
def hasErrors (issues : List Issue) : Bool := issues.any isError

end Issue

end NfvCatalog
