import NfvCatalog.Address.Url
import NfvCatalog.Document.Format

/-! # Settings

The settings of the tools, with their defaults, and the cloud accounts by name.
-/

namespace NfvCatalog

/-- Settings of the source checks. -/
structure LintSettings where
  maxLineLength : Nat := 120
  linter : List String := ["pyflakes"]
  python : String := "python3"
  exclude : List String := []
  jobs : Option Nat := none
  timeoutSeconds : Nat := 60
deriving DecidableEq, Repr, Inhabited

/-- Settings of uploads. -/
structure OnboardSettings where
  scheme : String := "http"
  host : String := "127.0.0.1"
  port : Nat := 4567
  username : Option String := none
  password : Option String := none
  acceptInvalidCerts : Bool := false
  pollSeconds : Nat := 2
  timeoutSeconds : Nat := 300
deriving DecidableEq, Repr, Inhabited

/-- Settings of translations. -/
structure TranslateSettings where
  format : Format := .yaml
  strict : Bool := false
  archive : Bool := false
deriving DecidableEq, Repr, Inhabited

/-- What it takes to reach a cloud through its command-line client. -/
structure ClientAccount where
  authUrl : String
  username : String
  password : String
  project : String
  userDomain : String := "default"
  projectDomain : String := "default"
  region : Option String := none
  client : String := "openstack"
  timeoutSeconds : Nat := 120
deriving DecidableEq, Repr, Inhabited

/-- A cloud account: behind a command-line client, or simulated in a state file. -/
inductive CloudAccount where
  | client (account : ClientAccount)
  | mock (stateFile : String)
deriving DecidableEq, Repr, Inhabited

/-- The settings of all tools. The accounts are sorted by name. -/
structure Config where
  lint : LintSettings := { }
  onboard : OnboardSettings := { }
  translate : TranslateSettings := { }
  clouds : List (String × CloudAccount) := []
deriving DecidableEq, Repr, Inhabited

/-- Why settings cannot be used. -/
inductive ConfigError where
  | malformed (fault : Fault)
  | badAddress (text : String) (error : UrlError)
deriving DecidableEq, Repr, Inhabited

/-- The wording of a settings error. -/
def ConfigError.message : ConfigError → String
  | .malformed fault => "TOML parse error: " ++ fault.message
  | .badAddress text error => "Invalid upload URL " ++ text ++ ": " ++ error.message

/-- The address that uploads go to. -/
def OnboardSettings.address (settings : OnboardSettings) : Except ConfigError Url :=
  let text := settings.scheme ++ "://" ++ settings.host ++ ":" ++ toString settings.port ++ "/"
  (Url.parse text).mapError (ConfigError.badAddress text)

/-- The account with a name. -/
def Config.cloud? (config : Config) (name : String) : Option CloudAccount :=
  (config.clouds.find? (·.1 = name)).map Prod.snd

end NfvCatalog
