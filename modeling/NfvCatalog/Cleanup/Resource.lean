/-! # Cloud resources

The resources that runs leave behind on a cloud account. Their kinds are listed in the order in
which they have to be deleted: machines hold ports, and ports hold networks.
-/

namespace NfvCatalog

/-- A kind of resource. -/
inductive ResourceKind where
  | vm
  | port
  | network
  | image
  | flavor
deriving DecidableEq, Repr, Inhabited

namespace ResourceKind

/-- Every kind, in the order of deletion. -/
def deletionOrder : List ResourceKind := [.vm, .port, .network, .image, .flavor]

/-- The name of a kind. -/
def name : ResourceKind → String
  | .vm => "vm"
  | .port => "port"
  | .network => "network"
  | .image => "image"
  | .flavor => "flavor"

/-- The kind with a name. -/
def ofName? (name : String) : Option ResourceKind := deletionOrder.find? (·.name = name)

/-- The place of a kind in the order of deletion. -/
def rank (kind : ResourceKind) : Nat := deletionOrder.findIdx (· = kind)

theorem mem_deletionOrder (kind : ResourceKind) : kind ∈ deletionOrder := by
  cases kind <;> decide

end ResourceKind

/-- A resource of an account. -/
structure CloudResource where
  kind : ResourceKind
  id : String
  name : String
deriving DecidableEq, Repr, Inhabited

/-- A resource on one line: kind, name and id. -/
def CloudResource.text (resource : CloudResource) : String :=
  resource.kind.name ++ " " ++ resource.name ++ " (" ++ resource.id ++ ")"

end NfvCatalog
