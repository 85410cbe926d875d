import DeviceHub.Credential.Source
import DeviceHub.HubError
import DeviceHub.Text.Blank

/-!
# Bridges

A bridge is one vendor account or one host of the local network: where to ask, how to authenticate,
and how connections are made.

Mirrors `BridgeConfig` with `BridgeConfig.validate`, `BridgeAuth`, `TlsMode`, and `TransportConfig` with
`build_client`.
-/
namespace DeviceHub

/-- Whose certificates are trusted. -/
inductive TlsMode where
  | system
  /-- Also the authority whose certificate is in a file. -/
  | authority (path : String)
  | insecure
  deriving DecidableEq

/-- How connections are made. -/
structure Transport where
  tls : TlsMode
  timeoutMillis : Nat
  deriving DecidableEq

/-- What is wrong with the certificate in a file, if anything. -/
abbrev CertificateFault := String → Option String

namespace Transport

def usual : Transport := ⟨.system, 30000⟩

def timeoutSeconds (t : Transport) : Nat := t.timeoutMillis / 1000

/-- Whether connections can be made at all. -/
def check (fault : CertificateFault) (t : Transport) : Except RequestError Unit :=
  match t.tls with
  | .authority path =>
    match fault path with
    | some text => .error (.tls text)
    | none => .ok ()
  | _ => .ok ()

end Transport

/-- How a bridge authenticates. -/
inductive BridgeAuth where
  | account (tokenUrl : Url) (clientId : String) (clientSecret : Option String)
      (username password : String) (scope : Option String)
  | basic (username password : String)
  | bearer (token : String)
  deriving DecidableEq

/-- A bridge. -/
structure BridgeConfig where
  id : String
  baseUrl : Url
  auth : BridgeAuth
  transport : Transport
  refresh : RefreshPolicy
  deriving DecidableEq

namespace BridgeAuth

/-- What is missing in the credentials, if anything. -/
def fault? : BridgeAuth → Option String
  | .account _ clientId _ username password _ =>
    if Text.allBlank clientId then some "client_id must not be empty"
    else if Text.allBlank username ∨ password = "" then
      some "username and password must not be empty"
    else none
  | .basic username password =>
    if Text.allBlank username ∨ password = "" then some "username and password must not be empty"
    else none
  | .bearer token => if token = "" then some "token must not be empty" else none

/-- Where the bridge's credentials come from. -/
def source (auth : BridgeAuth) (transport : Transport) : TokenSource :=
  match auth with
  | .account tokenUrl clientId clientSecret username password scope =>
    .account ⟨tokenUrl, clientId, clientSecret, username, password, scope, transport.timeoutSeconds⟩
  | .basic username password => .fixed (.basic username password)
  | .bearer token => .fixed (.bearer token)

/-- Whether obtaining a credential needs connections of its own. -/
def connects : BridgeAuth → Bool
  | .account .. => true
  | _ => false

end BridgeAuth

namespace BridgeConfig

/-- What is wrong with the bridge, if anything; the name is looked at first. -/
def fault? (b : BridgeConfig) : Option String :=
  if Text.allBlank b.id then some "name must not be empty"
  else if b.baseUrl.host? = none then some "base URL must be an absolute http(s) URL"
  else b.auth.fault?

def validate (b : BridgeConfig) : Except HubError Unit :=
  match b.fault? with
  | some m => .error (.config ("bridge '" ++ b.id ++ "': " ++ m))
  | none => .ok ()

end BridgeConfig

end DeviceHub
