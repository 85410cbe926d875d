import DeviceHub.FieldValue
import DeviceHub.Health

/-!
# Events

What the hub tells about its devices, in the order in which it happened. Who listens hears of channels
and of connectivity; that a device begins anew is kept to say since when the other events count.

Mirrors the calls `StateSink.publish` and `StateSink.update_connectivity`, and what `BroadcastSink` keeps
of them.
-/
namespace DeviceHub

/-- Something that happened to a device. -/
inductive Event where
  /-- The device was taken in: nothing told of it before counts any more. -/
  | begun (device : String)
  | state (device channel : String) (value : FieldValue)
  | connectivity (device : String) (status : ConnectivityStatus) (detail : Option String)
  deriving DecidableEq

namespace Event

def device : Event → String
  | .begun device => device
  | .state device _ _ => device
  | .connectivity device _ _ => device

/-- Whether listeners are told. -/
def isTold : Event → Bool
  | .begun _ => false
  | _ => true

/-- How many events are kept for a listener that does not listen. -/
def backlog : Nat := 256

/-- What a listener finds after some events: how many it lost, and the others. -/
def kept (events : List Event) : Nat × List Event :=
  let lost := events.length - backlog
  (lost, events.drop lost)

end Event

end DeviceHub
