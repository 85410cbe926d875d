import DeviceHub.FieldValue
import DeviceHub.Identity
import DeviceHub.Instant

/-!
# Snapshots

The typed state of one device at one time. `changes` says which channels a newer snapshot reports
anew; `mem_changes` characterises it channel by channel.

Mirrors `Snapshot` with `Snapshot.changed_since`.
-/
namespace DeviceHub

/-- The state of a device. -/
structure Snapshot where
  device : String
  deviceType : String
  capturedAt : Instant
  fields : Dict FieldValue
  online : Bool
  deriving DecidableEq

namespace Snapshot

/-- Whether a channel's value is news after `previous`. -/
def isNews (previous : Option Snapshot) (channel : String) (value : FieldValue) : Bool :=
  match previous.bind fun p => p.fields.get? channel with
  | some old => !old.same value
  | none => true

/-- The channels whose value differs from the previous snapshot, in ascending order; all of them
when there is none. -/
def changes (s : Snapshot) (previous : Option Snapshot) : List (String × FieldValue) :=
  s.fields.filter fun (channel, value) => isNews previous channel value

/-- The channels that the device did not report. -/
def undefinedChannels (s : Snapshot) : List String :=
  (s.fields.filter fun e => e.2.isUndefined).map Prod.fst

def toJson (s : Snapshot) : Json :=
  .object [("device", .text s.device), ("device_type", .text s.deviceType),
    ("captured_at", .text s.capturedAt.text), ("fields", .object (s.fields.mapValues (·.toJson))),
    ("online", .bool s.online)]

theorem mem_changes {s : Snapshot} {previous : Option Snapshot} {e : String × FieldValue} :
    e ∈ s.changes previous ↔ e ∈ s.fields ∧ isNews previous e.1 e.2 = true := List.mem_filter

end Snapshot

end DeviceHub
