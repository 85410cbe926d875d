import DeviceHub.Bridge
import DeviceHub.Config.Basic
import DeviceHub.Config.Error
import DeviceHub.Device
import DeviceHub.Url.Parse

/-!
# From configurations to bridges and devices

The sections of a configuration become what the hub works with. A secret is the value of the
environment variable named for it if that is set, else the text given in the configuration.

Mirrors `resolve_secret`, `require_secret`, `require`, `translate_bridge`, and `Config.bridge_config`,
`bridge_configs`, `device_config` and `device_configs`.
-/
namespace DeviceHub

/-- Where a secret may come from. -/
structure SecretSource where
  /-- The key of the secret in its section. -/
  field : String
  variableName : Option String
  plaintext : Option String

namespace SecretSource

/-- The secret, if there is one at all. -/
def find (s : SecretSource) (bridge : String) (env : Environment) :
    Except ConfigError (Option String) :=
  match s.variableName.bind env.get? <|> s.plaintext with
  | some secret => .ok (some secret)
  | none =>
    match s.variableName with
    | some name =>
      .error (.noCredentials bridge
        (s.field ++ ": environment variable " ++ name ++ " is not set"))
    | none => .ok none

/-- The secret. -/
def require (s : SecretSource) (bridge : String) (env : Environment) :
    Except ConfigError String := do
  match ← s.find bridge env with
  | some secret => .ok secret
  | none => .error (.noCredentials bridge (s.field ++ " or " ++ s.field ++ "_env is required"))

end SecretSource

namespace BridgeSection

def clientSecretSource (s : BridgeSection) : SecretSource :=
  ⟨"client_secret", s.clientSecretEnv, s.clientSecret⟩

def passwordSource (s : BridgeSection) : SecretSource := ⟨"password", s.passwordEnv, s.password⟩

def tokenSource (s : BridgeSection) : SecretSource := ⟨"token", s.tokenEnv, s.token⟩

/-- The key of a field of a bridge. -/
def place (bridge field : String) : String := "bridges." ++ bridge ++ "." ++ field

/-- A field that the mode of authentication needs. -/
def require (bridge field : String) : Option String → Except ConfigError String
  | some value => .ok value
  | none => .error (.invalid (place bridge field) "required for this auth mode")

/-- A field that is a URL. -/
def url (bridge field text : String) : Except ConfigError Url :=
  match Url.parse text with
  | .ok u => .ok u
  | .error f =>
    .error (.invalid (place bridge field) ("invalid URL '" ++ text ++ "': " ++ f.message))

/-- How the bridge authenticates. -/
def authentication (s : BridgeSection) (bridge : String) (env : Environment) :
    Except ConfigError BridgeAuth := do
  match s.auth with
  | .oauth =>
    let tokenUrl ← require bridge "token_url" s.tokenUrl
    let tokenUrl ← url bridge "token_url" tokenUrl
    let clientId ← require bridge "client_id" s.clientId
    let clientSecret ← s.clientSecretSource.find bridge env
    let username ← require bridge "username" s.username
    let password ← s.passwordSource.require bridge env
    .ok (.account tokenUrl clientId clientSecret username password s.scope)
  | .basic =>
    let username ← require bridge "username" s.username
    let password ← s.passwordSource.require bridge env
    .ok (.basic username password)
  | .bearer =>
    let token ← s.tokenSource.require bridge env
    .ok (.bearer token)

/-- How connections are made. -/
def transport (s : BridgeSection) (d : Defaults) : Transport :=
  let tls : TlsMode :=
    if s.insecure.getD d.insecure then .insecure
    else match s.caCert with
      | some path => .authority path
      | none => .system
  ⟨tls, 1000 * s.timeout.getD d.timeout⟩

/-- The bridge of a section. -/
def translate (s : BridgeSection) (d : Defaults) (bridge : String) (env : Environment) :
    Except ConfigError BridgeConfig := do
  let baseUrl ← url bridge "base_url" s.baseUrl
  let auth ← s.authentication bridge env
  .ok ⟨bridge, baseUrl, auth, s.transport d,
    ⟨d.refreshMargin, d.refreshAttempts, 1000 * d.refreshRetryDelay⟩⟩

end BridgeSection

namespace DeviceSection

/-- The key of the device. -/
def place (s : DeviceSection) : String := "devices." ++ s.id

/-- The envelope of the device's answers. -/
def envelope? (s : DeviceSection) : Except ConfigError (Option Envelope) :=
  match s.envelope with
  | none => .ok none
  | some (.builtin name) =>
    match Envelope.builtin? name with
    | some e => .ok (some e)
    | none => .error (.invalid (s.place ++ ".envelope") ("unknown envelope '" ++ name ++ "'"))
  | some (.inline e) =>
    if e.field = "" ∨ e.okCodes = [] then
      .error (.invalid (s.place ++ ".envelope")
        "inline envelope needs a field and at least one ok code")
    else .ok (some e)

/-- The device of a section. -/
def translate (s : DeviceSection) (d : Defaults) : Except ConfigError DeviceConfig := do
  let envelope ← s.envelope?
  .ok ⟨⟨s.bridge, s.id, s.deviceType⟩, s.interval.getD d.interval,
    ⟨s.method, s.path, s.body, s.format, envelope⟩⟩

end DeviceSection

namespace Configuration

/-- The bridge of a name. -/
def bridgeConfig (c : Configuration) (env : Environment) (name : String) :
    Except ConfigError BridgeConfig :=
  match c.bridges.get? name with
  | some s => s.translate c.defaults name env
  | none => .error (.invalid "bridge" ("unknown bridge '" ++ name ++ "'"))

/-- All bridges, ascending by name. -/
def bridgeConfigs (c : Configuration) (env : Environment) : Except ConfigError (List BridgeConfig) :=
  c.bridges.mapM fun (name, s) => s.translate c.defaults name env

/-- All devices in order. -/
def deviceConfigs (c : Configuration) : Except ConfigError (List DeviceConfig) :=
  c.devices.mapM fun s => s.translate c.defaults

end Configuration

end DeviceHub
