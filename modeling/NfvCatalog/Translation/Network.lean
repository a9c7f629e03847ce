import NfvCatalog.Translation.Function

/-! # Links, connection points and paths

A link node becomes a virtual link of the service. A connection point becomes a point of the VNF
whose machine it is bound to, an interface of that machine and a reference on each of its links.
A forwarding path names connection points, a forwarding graph collects paths.
-/

namespace NfvCatalog.Translation

open Tosca

/-! ## Links -/

/-- The type of a link whose properties name none: told by the node's type. -/
def defaultLinkType (nodeType : String) : String :=
  if Text.endsWith nodeType "ELine" then "ELINE" else "ELAN"

/-- The physical network in properties, if anything is said about it. -/
def providerOf (entity : String) (properties : Value.Entries) :
    Except TranslationError (Option ProviderNetwork) := do
  let provider : ProviderNetwork :=
    { physicalNetwork := properties.text? "physical_network"
      overlayType := (properties.text? "overlay_type").map Text.asciiUpper
      segmentation := ← wholeProperty? properties entity "segmentation_id" }
  return if provider = { } then none else some provider

/-- Add a link node. -/
def addLink (s : Surroundings) (entity : String) (node : NodeTemplate) (d : Drafts) :
    Except TranslationError Drafts := do
  let properties := node.properties
  let linkType := ((properties.text? "type").or (properties.text? "vld_type")).getD
    (defaultLinkType node.nodeType)
  let provider ← providerOf entity properties
  let (id, d) := d.idOf s properties
  let vld : Vld :=
    { id := id
      name := nameOf properties entity
      shortName := properties.text? "short_name"
      description := descriptionOf node
      vendor := properties.text? "vendor"
      linkType := some (Text.asciiUpper linkType)
      vimNetwork := (properties.text? "vim_network_name").or (properties.text? "network_name")
      provider := provider }
  return { d with links := d.links ++ [{ node := entity, vld := vld }] }

/-! ## Connection points -/

/-- Add an interface to the first machine with an id. An interface without a name is numbered. -/
def attachInterface (vduId point : String) (properties : Value.Entries) (vdus : List Vdu) :
    List Vdu :=
  match vdus with
  | [] => []
  | vdu :: rest =>
    if vdu.id = vduId then
      let name := (properties.text? "vdu_intf_name").getD s!"eth{vdu.interfaces.length}"
      let virtualType := (properties.text? "vdu_intf_type").getD defaultInterfaceType
      let interface : ExternalInterface :=
        { name := name, pointRef := point, virtualType := some (Text.asciiUpper virtualType) }
      { vdu with interfaces := vdu.interfaces ++ [interface] } :: rest
    else vdu :: attachInterface vduId point properties rest

/-- The VNF with a connection point and its interface. -/
def attachPoint (vduId point : String) (properties : Value.Entries) (vnfd : Vnfd) : Vnfd :=
  let pointType := ((properties.text? "cp_type").or (properties.text? "type")).getD defaultPointType
  { vnfd with
    points := vnfd.points ++ [{ name := point, pointType := pointType }]
    vdus := attachInterface vduId point properties vnfd.vdus }

/-- Put a connection point on links, in order. -/
def joinLinks (s : Surroundings) (entity : String) (owner : Nat) (point : String) :
    List String → Drafts → Except TranslationError Drafts
  | [], d => .ok d
  | target :: rest, d => do
    s.requireTarget entity "virtualLink" target .virtualLink
    match d.linkPlace? target with
    | none => joinLinks s entity owner point rest d
    | some place =>
      joinLinks s entity owner point rest
        { d with
          links := d.links.modify place fun link =>
            { link with points := link.points ++ [(owner, point)] } }

/-- The machine that a connection point is bound to. -/
def boundMachine (s : Surroundings) (entity : String) (node : NodeTemplate) (d : Drafts) :
    Except TranslationError MachineDraft :=
  match (node.targets "virtualBinding").head? with
  | none => .error (.unboundPoint entity)
  | some binding => do
    s.requireTarget entity "virtualBinding" binding .vdu
    match (d.machinePlace? binding).bind (d.machines[·]?) with
    | none => throw (.unboundPoint entity)
    | some machine => return machine

/-- Add a node of a connection point. -/
def addPoint (s : Surroundings) (entity : String) (node : NodeTemplate) (d : Drafts) :
    Except TranslationError Drafts := do
  let machine ← boundMachine s entity node d
  match machine.owner with
  | none => throw (.orphanVdu machine.node)
  | some owner => do
    let point := nameOf node.properties entity
    let d := { d with
      functions := d.functions.modify owner fun function =>
        { function with
          vnfd := attachPoint machine.vdu.id point node.properties function.vnfd } }
    let d ← joinLinks s entity owner point (node.targets "virtualLink") d
    return { d with
      points := d.points ++ [{ node := entity, function := owner, name := point }] }

/-! ## Paths and graphs -/

/-- Every target must be a connection point. -/
def requirePoints (s : Surroundings) (entity : String) :
    List String → Except TranslationError Unit
  | [] => .ok ()
  | target :: rest => do
    s.requireTarget entity "forwarder" target .connectionPoint
    requirePoints s entity rest

/-- Add a node of a forwarding path. -/
def addPath (s : Surroundings) (entity : String) (node : NodeTemplate) (d : Drafts) :
    Except TranslationError Drafts := do
  let hops := node.targets "forwarder"
  requirePoints s entity hops
  let (id, d) := d.idOf s node.properties
  let path : PathDraft :=
    { node := entity, id := id, name := nameOf node.properties entity, hops := hops }
  return { d with paths := d.paths ++ [path] }

/-- The places of the paths among the members of a graph. A member that is another node is passed
over, one that is no node is an error. -/
def graphPaths (s : Surroundings) (entity : String) (d : Drafts) :
    List String → Except TranslationError (List Nat)
  | [] => .ok []
  | member :: rest =>
    match d.pathPlace? member with
    | some place => do return place :: (← graphPaths s entity d rest)
    | none =>
      if s.hasNode member then graphPaths s entity d rest
      else .error (.danglingReference entity "members" member)

/-- Add a forwarding graph. -/
def addGraph (s : Surroundings) (entity : String) (group : Group) (d : Drafts) :
    Except TranslationError Drafts := do
  let paths ← graphPaths s entity d group.members
  let (id, d) := d.idOf s group.properties
  let graph : ForwardingGraph :=
    { id := id
      name := nameOf group.properties entity
      vendor := group.properties.text? "vendor"
      version := group.properties.text? "version" }
  return { d with graphs := d.graphs ++ [{ graph := graph, paths := paths }] }

end NfvCatalog.Translation
