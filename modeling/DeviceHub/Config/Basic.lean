import DeviceHub.Request.Basic
import DeviceHub.Schema.Basic

/-!
# Configurations

What a configuration file says, before it is checked: defaults, bridges by name, devices in order and
schemas of further device types. Secrets stand in it as they are or as names of environment variables.

Mirrors `Config`, `Defaults`, `BridgeSection`, `AuthMode`, `DeviceSection` and `EnvelopeSection`, with
`schema_registry` and `find_device`.
-/
namespace DeviceHub

/-- The environment variables. -/
abbrev Environment := Dict String

/-- What counts where a bridge or a device says nothing. Times are in seconds. -/
structure Defaults where
  timeout : Nat
  refreshMargin : Nat
  refreshAttempts : Nat
  refreshRetryDelay : Nat
  interval : Int
  insecure : Bool
  deriving DecidableEq

/-- The defaults of a configuration that has none. -/
def Defaults.usual : Defaults := ⟨30, 60, 2, 2, 60, false⟩

/-- How a bridge authenticates. -/
inductive AuthMode where
  | oauth
  | basic
  | bearer
  deriving DecidableEq

namespace AuthMode

def name : AuthMode → String
  | .oauth => "oauth"
  | .basic => "basic"
  | .bearer => "bearer"

def all : List AuthMode := [.oauth, .basic, .bearer]

end AuthMode

/-- What a configuration says about a bridge. -/
structure BridgeSection where
  baseUrl : String
  auth : AuthMode
  tokenUrl : Option String
  clientId : Option String
  clientSecret : Option String
  clientSecretEnv : Option String
  scope : Option String
  username : Option String
  password : Option String
  passwordEnv : Option String
  token : Option String
  tokenEnv : Option String
  /-- The file with the certificate of an authority to trust. -/
  caCert : Option String
  insecure : Option Bool
  timeout : Option Nat
  deriving DecidableEq

/-- The envelope of a device's answers. -/
inductive EnvelopeSection where
  | builtin (name : String)
  | inline (envelope : Envelope)
  deriving DecidableEq

/-- What a configuration says about a device. -/
structure DeviceSection where
  id : String
  bridge : String
  deviceType : String
  interval : Option Int
  path : String
  method : Method
  body : Option Json
  format : PayloadFormat
  envelope : Option EnvelopeSection

/-- A configuration. -/
structure Configuration where
  defaults : Defaults
  bridges : Dict BridgeSection
  devices : List DeviceSection
  deviceTypes : Dict Schema

namespace Configuration

def empty : Configuration := ⟨.usual, [], [], []⟩

instance : Inhabited Configuration := ⟨empty⟩

/-- The schemas by device type; one of the configuration takes the place of a built-in one. -/
def registry (c : Configuration) : SchemaRegistry :=
  c.deviceTypes.foldl (fun r e => r.insert e.1 e.2) SchemaRegistry.builtins

/-- The first device with an id. -/
def device? (c : Configuration) (id : String) : Option DeviceSection :=
  c.devices.find? fun d => d.id = id

end Configuration

end DeviceHub
