import DeviceHub.HubError
import DeviceHub.Request.Basic
import DeviceHub.Text.Blank

/-!
# Polled devices

Which device is polled, how often and by which request.

Mirrors `DeviceConfig` with `DeviceConfig.validate`.
-/
namespace DeviceHub

/-- A polled device. -/
structure DeviceConfig where
  identity : Identity
  /-- Seconds from the end of one poll to the start of the next; with 0 the device is polled once. -/
  interval : Int
  request : DeviceRequest

namespace DeviceConfig

/-- What is wrong with the device, if anything. -/
def fault? (d : DeviceConfig) : Option String :=
  if ¬Identity.isValidId d.identity.device then
    some "id must be non-empty and at least 1 when numeric"
  else if Text.allBlank d.request.path then some "request path must not be empty"
  else if d.interval < 0 then
    some ("interval must not be negative (got " ++ toString d.interval ++ ")")
  else none

/-- The interval of a device in order. -/
def validate (d : DeviceConfig) : Except HubError Nat :=
  match d.fault? with
  | some m => .error (.config ("device '" ++ d.identity.device ++ "': " ++ m))
  | none => .ok d.interval.toNat

end DeviceConfig

end DeviceHub
