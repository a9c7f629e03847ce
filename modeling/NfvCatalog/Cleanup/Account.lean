import NfvCatalog.Cleanup.Plan
import NfvCatalog.Document.Json
import NfvCatalog.Text.Keyed
import NfvCatalog.Tool.Command

/-! # Accounts

An account is worked on through a command-line client, or simulated in a file.
-/

/-! ## Accounts behind a command-line client

A client lists resources as JSON and deletes them one by one. It gets the credentials in its
environment.
-/

namespace NfvCatalog

/-- The client's word for a kind. -/
def ResourceKind.noun : ResourceKind → String
  | .vm => "server"
  | .port => "port"
  | .network => "network"
  | .image => "image"
  | .flavor => "flavor"

/-- An open account behind a client. -/
structure ClientSession where
  program : String
  environment : List (String × String)
  milliseconds : Nat
deriving DecidableEq, Repr, Inhabited

namespace ClientSession

/-- The environment of a client. -/
def environmentOf (account : ClientAccount) : List (String × String) :=
  [("OS_AUTH_URL", account.authUrl), ("OS_USERNAME", account.username),
    ("OS_PASSWORD", account.password), ("OS_PROJECT_NAME", account.project),
    ("OS_USER_DOMAIN_NAME", account.userDomain), ("OS_PROJECT_DOMAIN_NAME", account.projectDomain),
    ("OS_IDENTITY_API_VERSION", "3")] ++
    (account.region.toList.map fun region => ("OS_REGION_NAME", region))

/-- Open an account; its client has to be there. -/
def connect (tree : FileTree) (account : ClientAccount) : Except Failure ClientSession :=
  match Command.locate? tree account.client with
  | some program =>
    .ok { program, environment := environmentOf account
          milliseconds := account.timeoutSeconds * 1000 }
  | none => .error (.toolMissing account.client)

/-- Run the client and take what it prints. -/
def run (session : ClientSession) (arguments : List String) (tree : FileTree) :
    Except Failure String × FileTree :=
  match Command.run tree session.program arguments session.environment session.milliseconds with
  | (tree, .error failure) => (.error failure, tree)
  | (tree, .ok output) =>
    if output.success then (.ok output.output, tree)
    else (.error (.clientFailed arguments output.code (Text.trim output.errors)), tree)

/-- Read a row of a listing. -/
def rowOfNode (kind : ResourceKind) (node : Node) : Except Fault CloudResource := do
  let r ← Record.ofNode true { names := ["ID", "Name"] } node
  return { kind
           id := ← r.required "ID" Node.asText
           name := ← r.withDefault "Name" "" Node.asText }

/-- Read a listing. -/
def parseListing (kind : ResourceKind) (text : String) : Except Failure (List CloudResource) :=
  let read := do Record.readItems (rowOfNode kind) (← (← Json.read text).asItems)
  read.mapError (.malformedListing kind.noun)

/-- The resources of a kind. -/
def list (session : ClientSession) (kind : ResourceKind) (tree : FileTree) :
    Except Failure (List CloudResource) × FileTree :=
  match session.run [kind.noun, "list", "-f", "json"] tree with
  | (.ok text, tree) => (parseListing kind text, tree)
  | (.error failure, tree) => (.error failure, tree)

/-- Delete a resource. The client waits until a machine is gone. -/
def delete (session : ClientSession) (resource : CloudResource) (tree : FileTree) :
    Except Failure Unit × FileTree :=
  let waiting := if resource.kind = .vm then ["--wait"] else []
  match session.run ([resource.kind.noun, "delete"] ++ waiting ++ [resource.id]) tree with
  | (.ok _, tree) => (.ok (), tree)
  | (.error failure, tree) => (.error failure, tree)

end ClientSession

end NfvCatalog

/-! ## Simulated accounts

A simulated account is kept in a state file: a JSON mapping from kinds to lists of resources. The
file is read when the account is opened and written after every deletion.
-/

namespace NfvCatalog

/-- A resource in a state file, below its kind. -/
structure MockEntry where
  id : String
  name : String
deriving DecidableEq, Repr, Inhabited

/-- The resources of an account by kind, in the order of kinds. -/
abbrev MockState := List (ResourceKind × List MockEntry)

namespace MockState

/-- Put the resources of a kind. -/
def put (kind : ResourceKind) (entries : List MockEntry) : MockState → MockState
  | [] => [(kind, entries)]
  | first :: rest =>
    if kind = first.1 then (kind, entries) :: rest
    else if kind.rank < first.1.rank then (kind, entries) :: first :: rest
    else first :: put kind entries rest

/-- The resources of a kind. -/
def get (state : MockState) (kind : ResourceKind) : List MockEntry :=
  ((state.find? (·.1 = kind)).map Prod.snd).getD []

/-- Read a resource. -/
def entryOfNode (node : Node) : Except Fault MockEntry := do
  let r ← Record.ofNode true { names := ["id", "name"] } node
  return { id := ← r.required "id" Node.asText, name := ← r.required "name" Node.asText }

/-- Read a kind and its resources. -/
def kindOfNodes (entry : Node × Node) : Except Fault (ResourceKind × List MockEntry) := do
  let name ← entry.1.asText
  match ResourceKind.ofName? name with
  | some kind => return (kind, ← Record.readItems entryOfNode (← entry.2.asItems))
  | none => throw (.other ("unknown kind '" ++ name ++ "'"))

/-- Read the resources of an account; the last list of a kind counts. -/
def ofNode (node : Node) : Except Fault MockState := do
  let kinds ← (← node.asEntries).mapM kindOfNodes
  return kinds.foldl (fun state kind => state.put kind.1 kind.2) []

/-- The resources of an account as a value. -/
def toValue (state : MockState) : Value :=
  .ofFields (state.map fun kind =>
    (kind.1.name, .sequence (kind.2.map fun e =>
      .ofFields [("id", .string e.id), ("name", .string e.name)])))

/-- Read the text of a state file. -/
def parse (text : String) : Except Fault MockState := (Json.read text).bind ofNode

/-- The text of a state file. -/
def print (state : MockState) : String := Json.pretty state.toValue

end MockState

/-- An open simulated account. -/
structure MockAccount where
  path : String
  state : MockState
deriving DecidableEq, Repr, Inhabited

namespace MockAccount

/-- Open the account of a state file. -/
def load (tree : FileTree) (path : String) : Except Failure MockAccount :=
  match tree.readText path with
  | .error error => .error (.unreadState path error)
  | .ok text =>
    match MockState.parse text with
    | .error fault => .error (.malformedFile path (.malformed fault))
    | .ok state => .ok { path, state }

/-- The resources of a kind. -/
def list (account : MockAccount) (kind : ResourceKind) : List CloudResource :=
  (account.state.get kind).map fun entry => { kind, id := entry.id, name := entry.name }

/-- Delete a resource by kind and id, and write the state file. The account forgets the resource
before the file is written. -/
def delete (account : MockAccount) (resource : CloudResource) (tree : FileTree) :
    Except Failure Unit × MockAccount × FileTree :=
  let old := account.state.get resource.kind
  let kept := old.filter (·.id ≠ resource.id)
  let changed := { account with state := account.state.put resource.kind kept }
  if kept.length = old.length then
    (.error (.noResource resource.kind resource.id), changed, tree)
  else match tree.writeText account.path changed.state.print with
    | .ok tree => (.ok (), changed, tree)
    | .error error => (.error (.unwritten account.path error), changed, tree)

/-- Access to a simulated account. -/
def access : AccountAccess (MockAccount × FileTree) where
  list kind state := (.ok (state.1.list kind), state)
  delete resource state := state.1.delete resource state.2

end MockAccount

end NfvCatalog

/-! ## Open accounts

An open account of either sort, with the files that it reads and writes.
-/

namespace NfvCatalog

/-- An open account. -/
inductive OpenAccount where
  | mock (account : MockAccount)
  | client (session : ClientSession)
deriving DecidableEq, Repr, Inhabited

namespace OpenAccount

/-- Open the account that the settings describe. -/
def connect (tree : FileTree) : CloudAccount → Except Failure OpenAccount
  | .mock path => (MockAccount.load tree path).map .mock
  | .client account => (ClientSession.connect tree account).map .client

/-- Access to an open account. -/
def access : AccountAccess (OpenAccount × FileTree) where
  list kind state :=
    match state with
    | (.mock account, tree) => (.ok (account.list kind), .mock account, tree)
    | (.client session, tree) =>
      let (found, tree) := session.list kind tree
      (found, .client session, tree)
  delete resource state :=
    match state with
    | (.mock account, tree) =>
      let (outcome, account, tree) := account.delete resource tree
      (outcome, .mock account, tree)
    | (.client session, tree) =>
      let (outcome, tree) := session.delete resource tree
      (outcome, .client session, tree)

end OpenAccount

end NfvCatalog
