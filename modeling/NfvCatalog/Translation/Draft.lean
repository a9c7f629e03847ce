import NfvCatalog.Descriptor.Nsd
import NfvCatalog.Translation.Error

/-! # Drafts of descriptors

Member indices are known only once every VNF has been seen. Until then a descriptor is a draft: what
refers to a VNF keeps the VNF's place in the list of drafts, and what refers to a node keeps the
node's name.
-/

namespace NfvCatalog.Translation

open Tosca

/-- What a supporting file is for. -/
inductive ArtifactKind where
  | image
  | cloudInit
  | script
  | icon
deriving DecidableEq, Repr, Inhabited

namespace ArtifactKind

/-- The word for a kind. -/
def name : ArtifactKind → String
  | .image => "Image"
  | .cloudInit => "CloudInit"
  | .script => "Script"
  | .icon => "Icon"

/-- The directory of a package that files of a kind are kept in. -/
def directory : ArtifactKind → String
  | .image => "images"
  | .cloudInit => "cloud_init"
  | .script => "scripts"
  | .icon => "icons"

end ArtifactKind

/-- A machine, and its place holder in the VNF that claims it. -/
structure MachineDraft where
  node : String
  vdu : Vdu
  files : List (ArtifactKind × String) := []
  /-- The place of the VNF that claims the machine. -/
  owner : Option Nat := none
deriving DecidableEq, Repr, Inhabited

/-- A VNF with its descriptor. -/
structure FunctionDraft where
  node : String
  index : Option UInt32 := none
  startByDefault : Option Bool := none
  vnfd : Vnfd
  logo : Option String := none
deriving DecidableEq, Repr, Inhabited

/-- A link, with the VNF and the name of every connection point on it. -/
structure LinkDraft where
  node : String
  vld : Vld
  points : List (Nat × String) := []
deriving DecidableEq, Repr, Inhabited

/-- A connection point of a VNF. -/
structure PointDraft where
  node : String
  function : Nat
  name : String
deriving DecidableEq, Repr, Inhabited

/-- A path through nodes of connection points. -/
structure PathDraft where
  node : String
  id : String
  name : String
  hops : List String := []
deriving DecidableEq, Repr, Inhabited

/-- A forwarding graph, with the places of its paths. -/
structure GraphDraft where
  graph : ForwardingGraph
  paths : List Nat := []
deriving DecidableEq, Repr, Inhabited

/-- A scaling group, with its VNFs and how many of each are added. -/
structure ScalingDraft where
  group : ScalingGroup
  members : List (Nat × UInt32) := []
deriving DecidableEq, Repr, Inhabited

/-- A placement group, with its VNFs. -/
structure PlacementDraft where
  group : PlacementGroup
  members : List Nat := []
deriving DecidableEq, Repr, Inhabited

/-- Everything that has been translated so far. -/
structure Drafts where
  links : List LinkDraft := []
  machines : List MachineDraft := []
  functions : List FunctionDraft := []
  points : List PointDraft := []
  paths : List PathDraft := []
  graphs : List GraphDraft := []
  scaling : List ScalingDraft := []
  placements : List PlacementDraft := []
  primitives : List ConfigPrimitive := []
  /-- How many ids have been made up. -/
  drawn : Nat := 0
deriving DecidableEq, Repr, Inhabited

/-- What stays fixed during a translation. -/
structure Surroundings where
  template : Template
  /-- The phase of every node that has one. -/
  phases : List (String × Phase)
  /-- The ids to make up, in order. -/
  freshId : Nat → String

namespace Surroundings

/-- The phase of a node. -/
def phase? (s : Surroundings) (node : String) : Option Phase :=
  (s.phases.find? (·.1 = node)).map Prod.snd

/-- Whether a node exists. -/
def hasNode (s : Surroundings) (node : String) : Bool := s.template.topology.nodes.contains node

/-- The target of a requirement must be a node of the expected phase. -/
def requireTarget (s : Surroundings) (node requirement target : String) (expected : Phase) :
    Except TranslationError Unit :=
  if s.hasNode target then
    if s.phase? target = some expected then .ok ()
    else .error (.wrongTarget node requirement target expected)
  else .error (.danglingReference node requirement target)

end Surroundings

namespace Drafts

/-- The place of a link's node. -/
def linkPlace? (d : Drafts) (node : String) : Option Nat := d.links.findIdx? (·.node = node)

/-- The place of a machine's node. -/
def machinePlace? (d : Drafts) (node : String) : Option Nat := d.machines.findIdx? (·.node = node)

/-- The place of a VNF's node. -/
def functionPlace? (d : Drafts) (node : String) : Option Nat :=
  d.functions.findIdx? (·.node = node)

/-- The place of a path's node. -/
def pathPlace? (d : Drafts) (node : String) : Option Nat := d.paths.findIdx? (·.node = node)

/-- The connection point of a node. -/
def point? (d : Drafts) (node : String) : Option PointDraft := d.points.find? (·.node = node)

/-- The id that properties give, or else one that is made up. -/
def idOf (s : Surroundings) (properties : Value.Entries) (d : Drafts) : String × Drafts :=
  match properties.text? "id" with
  | some id => (id, d)
  | none => (s.freshId d.drawn, { d with drawn := d.drawn + 1 })

end Drafts

end NfvCatalog.Translation
