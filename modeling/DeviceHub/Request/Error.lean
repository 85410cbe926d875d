import DeviceHub.Failure
import DeviceHub.Url.Basic

/-!
# Failures of requests

What can go wrong between asking a vendor for something and having its answer. `kind` gives the
class of each failure; only `sessionExpired` makes a request worth repeating with a new credential.

Mirrors the `Error` of requests with `kind`, `is_auth_rejection`, `is_transient` and `status`, and
`classify_transport`.
-/
namespace DeviceHub

/-- A failure to exchange an HTTP message. -/
inductive TransportFault where
  /-- The request could not be made, for a URL that no request can be sent to or for a header. -/
  | notARequest (url : Option String)
  /-- No answer came. -/
  | noAnswer (url : String)
  /-- The answer broke off in its body. -/
  | brokenBody
  deriving DecidableEq

/-- A failure of a request. -/
inductive RequestError where
  | authentication (message : String)
  | sessionExpired
  | unknownBridge (bridge : String)
  | transport (fault : TransportFault)
  | invalidUrl (fault : Url.Fault)
  | timeout (seconds : Nat)
  | tls (message : String)
  | http (status : Nat) (body : String)
  | vendor (code message : String)
  | deviceOffline (device code : String)
  | deserialization (message body : String)
  deriving DecidableEq

namespace TransportFault

def message : TransportFault → String
  | .notARequest none => "builder error"
  | .notARequest (some url) => "builder error for url (" ++ url ++ ")"
  | .noAnswer url => "error sending request for url (" ++ url ++ ")"
  | .brokenBody => "error decoding response body"

def kind : TransportFault → FailureClass
  | .notARequest _ => .permanent
  | .noAnswer _ => .transient
  | .brokenBody => .malformed

end TransportFault

namespace RequestError

def name : RequestError → String
  | .authentication _ => "Authentication"
  | .sessionExpired => "SessionExpired"
  | .unknownBridge _ => "UnknownBridge"
  | .transport _ => "Transport"
  | .invalidUrl _ => "InvalidUrl"
  | .timeout _ => "Timeout"
  | .tls _ => "Tls"
  | .http .. => "Http"
  | .vendor .. => "Vendor"
  | .deviceOffline .. => "DeviceOffline"
  | .deserialization .. => "Deserialization"

def message : RequestError → String
  | .authentication m => "Authentication failed: " ++ m
  | .sessionExpired => "Session expired -- re-authentication required"
  | .unknownBridge bridge => "No credentials registered for bridge '" ++ bridge ++ "'"
  | .transport f => "HTTP transport error: " ++ f.message
  | .invalidUrl f => "Invalid URL: " ++ f.message
  | .timeout seconds => "Request timed out after " ++ toString seconds ++ "s"
  | .tls m => "TLS error: " ++ m
  | .http status body => "HTTP " ++ toString status ++ ": " ++ body
  | .vendor code m => "Vendor API error " ++ code ++ ": " ++ m
  | .deviceOffline device code =>
    "Device '" ++ device ++ "' is not responding (result code " ++ code ++ ")"
  | .deserialization m _ => "Deserialization error: " ++ m

def kind : RequestError → FailureClass
  | .authentication _ | .sessionExpired => .auth
  | .unknownBridge _ | .tls _ => .config
  | .transport f => f.kind
  | .timeout _ => .transient
  | .invalidUrl _ | .vendor .. => .permanent
  | .http status _ => .ofStatus status
  | .deviceOffline .. => .offline
  | .deserialization .. => .malformed

/-- Whether the vendor refused the credential and might accept a new one. -/
def isAuthRejection : RequestError → Bool
  | .sessionExpired => true
  | _ => false

def isTransient (e : RequestError) : Bool := e.kind = .transient

/-- The status of an answer that was no success. -/
def status? : RequestError → Option Nat
  | .http status _ => some status
  | _ => none

end RequestError

end DeviceHub
