import DeviceHub.Decimal.Numeral
import DeviceHub.Json.Value
import DeviceHub.Text.Blank

/-!
# Identities

A device is known by the bridge it is reached through, its own id and its type. Ids that are
integers of 64 bits number the device from 1.

Mirrors `DeviceIdentity` and `DeviceId.is_valid`.
-/
namespace DeviceHub

/-- Which device is meant. -/
structure Identity where
  bridge : String
  device : String
  deviceType : String
  deriving DecidableEq

namespace Identity

/-- Whether a text may be a device id: not blank, and at least 1 when it reads as an integer of 64
bits. -/
def isValidId (id : String) : Bool :=
  let cs := Text.trim id.toList
  cs ≠ [] && match Decimal.readInt64? cs with
    | some n => decide (1 ≤ n)
    | none => true

/-- `bridge/device (type)`. -/
def text (i : Identity) : String := i.bridge ++ "/" ++ i.device ++ " (" ++ i.deviceType ++ ")"

def toJson (i : Identity) : Json :=
  .object [("bridge", .text i.bridge), ("device", .text i.device),
    ("device_type", .text i.deviceType)]

end Identity

end DeviceHub
