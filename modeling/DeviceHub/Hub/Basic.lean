import DeviceHub.Bridge
import DeviceHub.Device
import DeviceHub.Event
import DeviceHub.Http.Client
import DeviceHub.Poller
import DeviceHub.Schema.Basic
import DeviceHub.Snapshot.Store

/-!
# The hub

The hub holds the bridges and the devices, runs a poll task for every device whose configuration is
in order, and keeps what the devices reported. It is a value: what happens to it (an operation, the
start of a cycle, the answer to one) makes another hub of it, so every order in which things may
happen is an order of such steps.

This module has the hub itself and the operations on bridges.

Mirrors `Engine` with `register_client` (`attach`), `register_bridge` (`register`), `resolve` and
`poll_state`.
-/
namespace DeviceHub

/-- How a bridge is asked: over HTTP, or by a client of the type `κ` that was attached. -/
inductive Client (κ : Type) where
  | http (client : HttpClient)
  | attached (client : κ)

/-- What a poll task asks, whom, and how it reads the answer. -/
structure PollTask (κ : Type) where
  identity : Identity
  request : DeviceRequest
  client : Client κ
  schema : Schema
  poller : Poller

/-- A device of the hub. -/
structure DeviceEntry where
  config : DeviceConfig
  /-- The number of the device's poll task; it has none when its configuration was refused. -/
  task : Option Nat

/-- The bridges, the devices and all that is known about them. -/
structure Hub (κ : Type) where
  schemas : SchemaRegistry
  refresher : Refresher TokenSource
  clients : Dict (Client κ)
  devices : Dict DeviceEntry
  /-- All poll tasks ever started, each known by its place. -/
  tasks : List (PollTask κ)
  store : SnapshotStore
  health : HealthTracker
  /-- All that happened, the latest first. -/
  journal : List Event
  isShutDown : Bool

namespace Hub

variable {κ : Type}

/-- A hub without bridges and devices. -/
def new (schemas : SchemaRegistry) : Hub κ :=
  ⟨schemas, .empty, [], [], [], .empty, [], [], false⟩

instance : Inhabited (Hub κ) := ⟨new []⟩

/-- Gives a bridge a client. Poll tasks keep the client that they were started with. -/
def attach (h : Hub κ) (bridge : String) (client : Client κ) : Hub κ :=
  { h with clients := h.clients.insert bridge client }

/-- Takes a bridge in: its source of credentials first, then its client. -/
def register (fault : CertificateFault) (h : Hub κ) (b : BridgeConfig) :
    Except HubError Unit × Hub κ :=
  match b.validate with
  | .error e => (.error e, h)
  | .ok () =>
    match if b.auth.connects then b.transport.check fault else .ok () with
    | .error e => (.error (.request e), h)
    | .ok () =>
      let source := b.auth.source b.transport
      let h := { h with refresher := h.refresher.register b.id source b.refresh }
      match b.transport.check fault with
      | .error e => (.error (.request e), h)
      | .ok () => (.ok (), h.attach b.id (.http ⟨b.id, b.baseUrl, b.transport.timeoutSeconds⟩))

/-- Whom to ask about a device, and how to read the answer. -/
def resolve (h : Hub κ) (d : DeviceConfig) : Except HubError (Client κ × Schema) :=
  match h.clients.get? d.identity.bridge with
  | none => .error (.unknownBridge d.identity.bridge)
  | some client =>
    match h.schemas.get? d.identity.deviceType with
    | none => .error (.unknownDeviceType d.identity.deviceType)
    | some schema => .ok (client, schema)

/-- Notes what happened. -/
def tell (h : Hub κ) (e : Event) : Hub κ := { h with journal := e :: h.journal }

/-- What listeners were told after the first `count` events, the earliest first. -/
def toldSince (h : Hub κ) (count : Nat) : List Event :=
  ((h.journal.take (h.journal.length - count)).reverse).filter (·.isTold)

def task? (h : Hub κ) (n : Nat) : Option (PollTask κ) := h.tasks[n]?

/-- The hub with another poller in one task. -/
def withPoller (h : Hub κ) (n : Nat) (poller : Poller) : Hub κ :=
  { h with tasks := h.tasks.modify n fun t => { t with poller := poller } }

/-- The hub with one task cancelled. -/
def cancelTask (h : Hub κ) (n : Nat) : Hub κ :=
  { h with tasks := h.tasks.modify n fun t => { t with poller := t.poller.cancel } }

/-- The poll task of a device. -/
def taskOf? (h : Hub κ) (device : String) : Option (Nat × PollTask κ) := do
  let entry ← h.devices.get? device
  let n ← entry.task
  let t ← h.task? n
  some (n, t)

/-- What the poll task of a device shows; one without a task shows as stopped. -/
def pollState? (h : Hub κ) (device : String) : Option PollState :=
  (h.devices.get? device).map fun _ =>
    match h.taskOf? device with
    | some (_, t) => t.poller.state
    | none => .stopped

end Hub

end DeviceHub
