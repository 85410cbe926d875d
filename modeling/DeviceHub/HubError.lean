import DeviceHub.Normalize
import DeviceHub.Request.Error

/-!
# Failures of the hub

What the operations on bridges and devices answer when they refuse or fail. A failure of a request
keeps its text and its class.

Mirrors `CoreError`.
-/
namespace DeviceHub

/-- A failure of an operation. -/
inductive HubError where
  | config (message : String)
  | unknownDevice (device : String)
  | unknownBridge (bridge : String)
  | unknownDeviceType (deviceType : String)
  | duplicateDevice (device : String)
  | malformed (cause : NormalizeError)
  | request (cause : RequestError)
  | shutDown
  deriving DecidableEq

namespace HubError

def message : HubError → String
  | .config m => "Configuration error: " ++ m
  | .unknownDevice device => "Unknown device: " ++ device
  | .unknownBridge bridge => "Unknown bridge: " ++ bridge
  | .unknownDeviceType deviceType => "No schema registered for device type '" ++ deviceType ++ "'"
  | .duplicateDevice device => "Device already registered: " ++ device
  | .malformed cause => "Malformed response: " ++ cause.message
  | .request cause => cause.message
  | .shutDown => "Engine is shut down"

def kind : HubError → FailureClass
  | .malformed _ => .malformed
  | .request cause => cause.kind
  | _ => .config

end HubError

end DeviceHub
