import NfvCatalog.Document.Yaml.Reader
import NfvCatalog.Tosca.Template

/-! # Inputs of templates

A mapping with the one entry `get_input: name` stands for the value of an input: the override given
for it, or else its default. Substitution goes through the property bags of the topology in document
order and stops at the first input without a value; what was replaced before stays replaced.
-/

namespace NfvCatalog.Tosca

/-- Values given for inputs, by name. -/
abbrev Overrides := List (String × String)

namespace Overrides

/-- The text given for an input. -/
def get? (overrides : Overrides) (name : String) : Option String :=
  (overrides.find? (·.1 = name)).map Prod.snd

/-- The names of the inputs that are given, sorted. -/
def sortedNames (overrides : Overrides) : List String :=
  (overrides.map Prod.fst).mergeSort Text.le

end Overrides

/-- The value that a given text stands for: what it reads as in YAML, or else the text. -/
def overrideValue (text : String) : Value :=
  match (Yaml.read text).bind Node.resolve with
  | .ok value => value
  | .error _ => .string text

/-- The values of declared inputs. -/
abbrev InputValues := List (String × Option Value)

/-- The value of every declared input. -/
def inputValues (inputs : OrderedMap InputDefinition) (overrides : Overrides) : InputValues :=
  inputs.entries.map fun entry =>
    (entry.1, match overrides.get? entry.1 with
      | some text => some (overrideValue text)
      | none => entry.2.default)

namespace InputValues

/-- The value of an input, if it is declared and has one. -/
def value (values : InputValues) (name : String) : Except TemplateError Value :=
  match (values.find? (·.1 = name)).map Prod.snd with
  | none => .error (.unknownInput name)
  | some none => .error (.missingInput name)
  | some (some value) => .ok value

end InputValues

/-- The input that a value refers to. -/
def inputReference? (value : Value) : Option String :=
  match value.mapping? with
  | some [(.string "get_input", target)] => target.string?
  | _ => none

/-- What a substitution leaves behind: the value, and the error that stopped it. -/
abbrev Substituted (α : Type) := α × Option TemplateError

/-- Substitute in each item until one fails; the rest stays as it is. -/
def substituteEach {α : Type} (step : α → Substituted α) : List α → Substituted (List α)
  | [] => ([], none)
  | item :: rest =>
    match step item with
    | (item, some error) => (item :: rest, some error)
    | (item, none) =>
      let (rest, error) := substituteEach step rest
      (item :: rest, error)

mutual

/-- Substitute in a value: a reference is replaced as a whole, other collections are searched. -/
def substitute (values : InputValues) (value : Value) : Substituted Value :=
  match inputReference? value with
  | some name =>
    match values.value name with
    | .ok replacement => (replacement, none)
    | .error error => (value, some error)
  | none =>
    match value with
    | .mapping entries =>
      let (entries, error) := substituteEntries values entries
      (.mapping entries, error)
    | .sequence items =>
      let (items, error) := substituteItems values items
      (.sequence items, error)
    | other => (other, none)

/-- Substitute in the values of entries until one fails. -/
def substituteEntries (values : InputValues) :
    List (Value × Value) → Substituted (List (Value × Value))
  | [] => ([], none)
  | (key, value) :: rest =>
    match substitute values value with
    | (value, some error) => ((key, value) :: rest, some error)
    | (value, none) =>
      let (rest, error) := substituteEntries values rest
      ((key, value) :: rest, error)

/-- Substitute in items until one fails. -/
def substituteItems (values : InputValues) : List Value → Substituted (List Value)
  | [] => ([], none)
  | item :: rest =>
    match substitute values item with
    | (item, some error) => (item :: rest, some error)
    | (item, none) =>
      let (rest, error) := substituteItems values rest
      (item :: rest, error)

end

/-- Substitute in each value of a map until one fails. -/
def substituteMap {α : Type} (step : α → Substituted α) (map : OrderedMap α) :
    Substituted (OrderedMap α) :=
  let result := substituteEach (fun entry : String × α =>
    let (value, error) := step entry.2
    ((entry.1, value), error)) map.entries
  have keys : result.1.map Prod.fst = map.entries.map Prod.fst := by
    simp only [result]
    generalize map.entries = entries
    induction entries with
    | nil => simp [substituteEach]
    | cons entry rest ih =>
      cases h : (step entry.2).2 with
      | some error => simp [substituteEach, h]
      | none => simp [substituteEach, h, ih]
  (⟨result.1, keys ▸ map.distinct⟩, result.2)

/-- Substitute in a node: its properties, then those of its capabilities. -/
def substituteNode (values : InputValues) (node : NodeTemplate) : Substituted NodeTemplate :=
  match substituteEntries values node.properties with
  | (properties, some error) => ({ node with properties := properties }, some error)
  | (properties, none) =>
    let (capabilities, error) := substituteMap (fun capability : Capability =>
      let (properties, error) := substituteEntries values capability.properties
      (⟨properties⟩, error)) node.capabilities
    ({ node with properties := properties, capabilities := capabilities }, error)

/-- Substitute in the properties of a group. -/
def substituteGroup (values : InputValues) (group : Group) : Substituted Group :=
  let (properties, error) := substituteEntries values group.properties
  ({ group with properties := properties }, error)

/-- Substitute in the properties of a policy. -/
def substitutePolicy (values : InputValues) (policy : Policy) : Substituted Policy :=
  let (properties, error) := substituteEntries values policy.properties
  ({ policy with properties := properties }, error)

/-- Substitute in a topology: nodes, then groups, then policies. -/
def substituteTopology (values : InputValues) (topology : Topology) : Substituted Topology :=
  match substituteMap (substituteNode values) topology.nodes with
  | (nodes, some error) => ({ topology with nodes := nodes }, some error)
  | (nodes, none) =>
    match substituteMap (substituteGroup values) topology.groups with
    | (groups, some error) => ({ topology with nodes := nodes, groups := groups }, some error)
    | (groups, none) =>
      let (policies, error) :=
        substituteEach (substituteMap (substitutePolicy values)) topology.policies
      ({ topology with nodes := nodes, groups := groups, policies := policies }, error)

namespace Template

/-- Substitute the inputs of a template. Every override must name a declared input. -/
def substituteInputs (template : Template) (overrides : Overrides) : Substituted Template :=
  let inputs := template.topology.inputs
  match overrides.sortedNames.find? fun name => !inputs.contains name with
  | some name => (template, some (.unknownInput name))
  | none =>
    let (topology, error) := substituteTopology (inputValues inputs overrides) template.topology
    ({ template with topology := topology }, error)

/-- The template with its inputs substituted. -/
def resolveInputs (template : Template) (overrides : Overrides) :
    Except TemplateError Template :=
  match template.substituteInputs overrides with
  | (template, none) => .ok template
  | (_, some error) => .error error

end Template

end NfvCatalog.Tosca
