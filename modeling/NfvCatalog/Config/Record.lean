import NfvCatalog.Config.Settings
import NfvCatalog.Document.Toml.Reader
import NfvCatalog.Text.Keyed

/-! # Reading settings

Settings are a TOML document. What is left out has its default, and unknown names are ignored.
-/

namespace NfvCatalog

/-- Read a node as a record. It may also be a sequence of the fields in order; what is too much of
it is ignored. -/
def settingsRecord (names : List String) (node : Node) : Except Fault Record :=
  match node with
  | .sequence items => Record.ofItems { names } (items.take names.length)
  | _ => Record.ofNode false { names } node

/-- Read a number of seconds or items. -/
def readCount : Node → Except Fault Nat := Node.asNatural UInt64.size

/-- Read an optional setting that is given. -/
def readGiven {α : Type} (read : Node → Except Fault α) (node : Node) : Except Fault (Option α) :=
  (read node).map some

/-- Read a list of texts. -/
def readTexts (node : Node) : Except Fault (List String) := do
  Record.readItems Node.asText (← node.asItems)

namespace LintSettings

/-- The names of the settings, in order. -/
def names : List String :=
  ["max_line_length", "linter", "python", "exclude", "jobs", "timeout_secs"]

/-- Read the settings of the source checks. -/
def ofNode (node : Node) : Except Fault LintSettings := do
  let r ← settingsRecord names node
  let base : LintSettings := { }
  return { maxLineLength := ← r.withDefault "max_line_length" base.maxLineLength readCount
           linter := ← r.withDefault "linter" base.linter readTexts
           python := ← r.withDefault "python" base.python Node.asText
           exclude := ← r.withDefault "exclude" base.exclude readTexts
           jobs := ← r.withDefault "jobs" base.jobs (readGiven readCount)
           timeoutSeconds := ← r.withDefault "timeout_secs" base.timeoutSeconds readCount }

/-- The settings as a value. -/
def toValue (s : LintSettings) : Value :=
  .ofFields [("max_line_length", .ofNat s.maxLineLength), ("linter", .ofStrings s.linter),
    ("python", .string s.python), ("exclude", .ofStrings s.exclude),
    ("jobs", (s.jobs.map Value.ofNat).getD .null), ("timeout_secs", .ofNat s.timeoutSeconds)]

end LintSettings

namespace OnboardSettings

/-- The names of the settings, in order. -/
def names : List String :=
  ["scheme", "host", "port", "username", "password", "accept_invalid_certs", "poll_interval_secs",
    "timeout_secs"]

/-- Read the settings of uploads. -/
def ofNode (node : Node) : Except Fault OnboardSettings := do
  let r ← settingsRecord names node
  let base : OnboardSettings := { }
  return { scheme := ← r.withDefault "scheme" base.scheme Node.asText
           host := ← r.withDefault "host" base.host Node.asText
           port := ← r.withDefault "port" base.port (Node.asNatural UInt16.size)
           username := ← r.withDefault "username" base.username (readGiven Node.asText)
           password := ← r.withDefault "password" base.password (readGiven Node.asText)
           acceptInvalidCerts :=
             ← r.withDefault "accept_invalid_certs" base.acceptInvalidCerts Node.asBool
           pollSeconds := ← r.withDefault "poll_interval_secs" base.pollSeconds readCount
           timeoutSeconds := ← r.withDefault "timeout_secs" base.timeoutSeconds readCount }

/-- The settings as a value. -/
def toValue (s : OnboardSettings) : Value :=
  let text (t : Option String) : Value := (t.map Value.string).getD .null
  .ofFields [("scheme", .string s.scheme), ("host", .string s.host), ("port", .ofNat s.port),
    ("username", text s.username), ("password", text s.password),
    ("accept_invalid_certs", .bool s.acceptInvalidCerts),
    ("poll_interval_secs", .ofNat s.pollSeconds), ("timeout_secs", .ofNat s.timeoutSeconds)]

end OnboardSettings

namespace TranslateSettings

/-- The names of the settings, in order. -/
def names : List String := ["output_format", "strict", "archive"]

/-- The notation with exactly a given name. -/
def formatNamed (name : String) : Except Fault Format :=
  match [Format.yaml, Format.json].find? (·.name = name) with
  | some format => .ok format
  | none => .error (.other ("unknown variant '" ++ name ++ "'"))

/-- Read a notation: its name, or a table with its name as the only key and nothing below it. -/
def readFormat (node : Node) : Except Fault Format :=
  match node with
  | .mapping [(.text name, .mapping [])] | .mapping [(.text name, .sequence [])] => formatNamed name
  | _ => do formatNamed (← node.asText)

/-- Read the settings of translations. -/
def ofNode (node : Node) : Except Fault TranslateSettings := do
  let r ← settingsRecord names node
  return { format := ← r.withDefault "output_format" .yaml readFormat
           strict := ← r.withDefault "strict" false Node.asBool
           archive := ← r.withDefault "archive" false Node.asBool }

/-- The settings as a value. -/
def toValue (s : TranslateSettings) : Value :=
  .ofFields [("output_format", .string s.format.name), ("strict", .bool s.strict),
    ("archive", .bool s.archive)]

end TranslateSettings

namespace CloudAccount

/-- The name of the field that tells the kinds of accounts apart. -/
def kindName : String := "type"

/-- The names of the fields of an account behind a client, in order. -/
def clientNames : List String :=
  ["auth_url", "username", "password", "project", "user_domain", "project_domain", "region", "cli",
    "timeout_secs"]

/-- Read an account behind a client. -/
def clientOfNode (node : Node) : Except Fault ClientAccount := do
  let r ← Record.ofNode true { names := clientNames } node
  return { authUrl := ← r.required "auth_url" Node.asText
           username := ← r.required "username" Node.asText
           password := ← r.required "password" Node.asText
           project := ← r.required "project" Node.asText
           userDomain := ← r.withDefault "user_domain" "default" Node.asText
           projectDomain := ← r.withDefault "project_domain" "default" Node.asText
           region := ← r.withDefault "region" none (readGiven Node.asText)
           client := ← r.withDefault "cli" "openstack" Node.asText
           timeoutSeconds := ← r.withDefault "timeout_secs" 120 readCount }

/-- The kind of an account and the rest of its fields. The kind comes first in a sequence. -/
def cutKind : Node → Except Fault (String × Node)
  | .sequence (kind :: rest) => do return (← kind.asText, .sequence rest)
  | .mapping entries => do
    match entries.find? fun e => e.1.asText.toOption = some kindName with
    | some (_, kind) =>
      let others := entries.filter fun e => e.1.asText.toOption ≠ some kindName
      return (← kind.asText, .mapping others)
    | none => throw (.missingField kindName)
  | _ => .error (.expected "an account")

/-- Read an account. -/
def ofNode (node : Node) : Except Fault CloudAccount := do
  let (kind, rest) ← cutKind node
  match kind with
  | "openstack" => return .client (← clientOfNode rest)
  | "mock" => do
    let r ← Record.ofNode true { names := ["state_file"] } rest
    return .mock (← r.required "state_file" Node.asText)
  | _ => throw (.other ("unknown variant '" ++ kind ++ "'"))

/-- An account as a value. -/
def toValue : CloudAccount → Value
  | .client a =>
    .ofFields [(kindName, .string "openstack"), ("auth_url", .string a.authUrl),
      ("username", .string a.username), ("password", .string a.password),
      ("project", .string a.project), ("user_domain", .string a.userDomain),
      ("project_domain", .string a.projectDomain),
      ("region", (a.region.map Value.string).getD .null), ("cli", .string a.client),
      ("timeout_secs", .ofNat a.timeoutSeconds)]
  | .mock file => .ofFields [(kindName, .string "mock"), ("state_file", .string file)]

end CloudAccount

namespace Config

/-- Read the accounts by name. -/
def cloudsOfNode (node : Node) : Except Fault (List (String × CloudAccount)) := do
  let entries ← node.asEntries
  let accounts ← entries.mapM fun e => do
    let name ← e.1.asText
    return (name, ← CloudAccount.ofNode e.2)
  return Keyed.ofList accounts

/-- Read the settings of all tools. -/
def ofNode (node : Node) : Except Fault Config := do
  let r ← settingsRecord ["lint", "onboard", "translate", "cloud"] node
  return { lint := ← r.withDefault "lint" { } LintSettings.ofNode
           onboard := ← r.withDefault "onboard" { } OnboardSettings.ofNode
           translate := ← r.withDefault "translate" { } TranslateSettings.ofNode
           clouds := ← r.withDefault "cloud" [] cloudsOfNode }

/-- Read a text of settings. -/
def parse (text : String) : Except ConfigError Config :=
  ((Toml.read text).bind ofNode).mapError .malformed

/-- The settings as a value. -/
def toValue (config : Config) : Value :=
  .ofFields [("lint", config.lint.toValue), ("onboard", config.onboard.toValue),
    ("translate", config.translate.toValue),
    ("cloud", .ofFields (config.clouds.map fun c => (c.1, c.2.toValue)))]

end Config

end NfvCatalog
