import DeviceHub.Config.Basic
import DeviceHub.Request.Codec
import DeviceHub.Schema.Codec

/-!
# The form of configurations

How the parts of a configuration are read from values, whichever source these come from, and how they
are shown.

Mirrors the decoded forms of `Config` and its sections, and their serialized ones.
-/
namespace DeviceHub

open Json

namespace Defaults

def decode : Decoder Defaults := fun v => do
  let found ← Decode.record [Decode.field "timeout" Decode.nat64,
    Decode.field "refresh_margin" Decode.nat64, Decode.field "refresh_attempts" Decode.nat32,
    Decode.field "refresh_retry_delay" Decode.nat64, Decode.field "interval" Decode.int64,
    Decode.field "insecure" Decode.bool] v
  let timeout ← found.withDefault 0 Decode.nat64 usual.timeout
  let margin ← found.withDefault 1 Decode.nat64 usual.refreshMargin
  let attempts ← found.withDefault 2 Decode.nat32 usual.refreshAttempts
  let retryDelay ← found.withDefault 3 Decode.nat64 usual.refreshRetryDelay
  let interval ← found.withDefault 4 Decode.int64 usual.interval
  let insecure ← found.withDefault 5 Decode.bool usual.insecure
  .ok ⟨timeout, margin, attempts, retryDelay, interval, insecure⟩

def toJson (d : Defaults) : Json :=
  .object [("timeout", Json.integer d.timeout), ("refresh_margin", Json.integer d.refreshMargin),
    ("refresh_attempts", Json.integer d.refreshAttempts),
    ("refresh_retry_delay", Json.integer d.refreshRetryDelay),
    ("interval", Json.integer d.interval), ("insecure", .bool d.insecure)]

end Defaults

namespace AuthMode

def decode (dialect : Dialect) : Decoder AuthMode :=
  Decode.choice dialect (all.map fun m => (m.name, m))

end AuthMode

namespace BridgeSection

def fields (dialect : Dialect) : List Decode.Field :=
  let text (key : String) : Decode.Field := Decode.field key (Decode.optional Decode.text)
  [Decode.field "base_url" Decode.text, Decode.field "auth" (AuthMode.decode dialect),
    text "token_url", text "client_id", text "client_secret", text "client_secret_env",
    text "scope", text "username", text "password", text "password_env", text "token",
    text "token_env", text "ca_cert", Decode.field "insecure" (Decode.optional Decode.bool),
    Decode.field "timeout" (Decode.optional Decode.nat64)]

def decode (dialect : Dialect) : Decoder BridgeSection := fun v => do
  let found ← Decode.record (fields dialect) v
  let text (i : Nat) : Except Fault (Option String) := found.nullable i Decode.text
  let baseUrl ← found.required 0 Decode.text
  let auth ← found.required 1 (AuthMode.decode dialect)
  let tokenUrl ← text 2
  let clientId ← text 3
  let clientSecret ← text 4
  let clientSecretEnv ← text 5
  let scope ← text 6
  let username ← text 7
  let password ← text 8
  let passwordEnv ← text 9
  let token ← text 10
  let tokenEnv ← text 11
  let caCert ← text 12
  let insecure ← found.nullable 13 Decode.bool
  let timeout ← found.nullable 14 Decode.nat64
  .ok ⟨baseUrl, auth, tokenUrl, clientId, clientSecret, clientSecretEnv, scope, username, password,
    passwordEnv, token, tokenEnv, caCert, insecure, timeout⟩

end BridgeSection

namespace EnvelopeSection

/-- The name of an envelope or one written out. What is neither is wrong as a whole. -/
def decode : Decoder EnvelopeSection
  | .text name => .ok (.builtin name)
  | v =>
    match Envelope.decode v with
    | .ok e => .ok (.inline e)
    | .error _ => Decode.fault .message

def toJson : EnvelopeSection → Json
  | .builtin name => .text name
  | .inline e => e.toJson

end EnvelopeSection

namespace DeviceSection

/-- Any value but null. -/
def decodeBody : Decoder Json := .ok

def fields (dialect : Dialect) : List Decode.Field :=
  [Decode.field "id" Decode.text, Decode.field "bridge" Decode.text,
    Decode.field "type" Decode.text, Decode.field "interval" (Decode.optional Decode.int64),
    Decode.field "path" Decode.text, Decode.field "method" (Method.decode dialect),
    Decode.field "body" (Decode.optional decodeBody),
    Decode.field "format" (PayloadFormat.decode dialect),
    Decode.field "envelope" (Decode.optional EnvelopeSection.decode)]

def decode (dialect : Dialect) : Decoder DeviceSection := fun v => do
  let found ← Decode.record (fields dialect) v
  let id ← found.required 0 Decode.text
  let bridge ← found.required 1 Decode.text
  let deviceType ← found.required 2 Decode.text
  let interval ← found.nullable 3 Decode.int64
  let path ← found.required 4 Decode.text
  let method ← found.withDefault 5 (Method.decode dialect) .get
  let body ← found.nullable 6 decodeBody
  let format ← found.withDefault 7 (PayloadFormat.decode dialect) .json
  let envelope ← found.nullable 8 EnvelopeSection.decode
  .ok ⟨id, bridge, deviceType, interval, path, method, body, format, envelope⟩

def toJson (d : DeviceSection) : Json :=
  .object [("id", .text d.id), ("bridge", .text d.bridge), ("type", .text d.deviceType),
    ("interval", ofOption Json.integer d.interval), ("path", .text d.path),
    ("method", .text d.method.name), ("body", ofOption (fun b => b) d.body),
    ("format", .text d.format.name), ("envelope", ofOption (·.toJson) d.envelope)]

end DeviceSection

namespace Configuration

def decode (dialect : Dialect) : Decoder Configuration := fun v => do
  let bridges := Decode.dict (BridgeSection.decode dialect)
  let devices := Decode.list (DeviceSection.decode dialect)
  let types := Decode.dict (Schema.decode dialect)
  let found ← Decode.record [Decode.field "defaults" Defaults.decode,
    Decode.field "bridges" bridges, Decode.field "devices" devices,
    Decode.field "device_types" types] v
  let defaults ← found.withDefault 0 Defaults.decode .usual
  let bridges ← found.withDefault 1 bridges []
  let devices ← found.withDefault 2 devices []
  let types ← found.withDefault 3 types []
  .ok ⟨defaults, bridges, devices, types⟩

end Configuration

end DeviceHub
