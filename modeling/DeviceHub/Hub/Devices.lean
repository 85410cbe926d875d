import DeviceHub.Hub.Basic

/-!
# The devices of the hub

A device is taken in with a configuration and lives until it is disposed of. One whose configuration
is refused is kept without a poll task, so that its health can say why; the refusal is answered too.
A device that comes back starts from nothing.

Mirrors `Engine.prepare`, `initialize_device` (`enroll`), `dispose_device` (`dispose`), `reinitialize`
(`restart`), `update_device` (`update`), `refresh_now` (`refresh`) and `shutdown` (`shutdown`,
`ShutdownCall.goOn`).
-/
namespace DeviceHub.Hub

variable {κ : Type}

/-- The poll task of a device whose configuration is in order. -/
def prepare (h : Hub κ) (d : DeviceConfig) : Except HubError (PollTask κ) := do
  let seconds ← d.validate
  let (client, schema) ← h.resolve d
  .ok ⟨d.identity, d.request, client, schema, .start (1000 * seconds)⟩

/-- The hub with a device that has just begun. -/
def withDevice (h : Hub κ) (d : DeviceConfig) (task : Option Nat) : Hub κ :=
  { h with
    devices := h.devices.insert d.identity.device ⟨d, task⟩
    health := h.health.reset d.identity.device }.tell (.begun d.identity.device)

/-- The hub with a device that is polled from now on. -/
def accept (h : Hub κ) (d : DeviceConfig) (task : PollTask κ) : Hub κ :=
  { h.withDevice d (some h.tasks.length) with tasks := h.tasks ++ [task] }

/-- The hub with a device whose configuration was refused. -/
def refuse (h : Hub κ) (d : DeviceConfig) (e : HubError) : Hub κ :=
  let device := d.identity.device
  let outcome : HealthOutcome := .configError e.message
  let h := h.withDevice d none
  let health := (h.health.transition device outcome).health
  { h with health := h.health.apply device outcome }.tell
    (.connectivity device health.status health.detail)

/-- Takes a device in and starts its poll task. -/
def enroll (h : Hub κ) (d : DeviceConfig) : Except HubError Unit × Hub κ :=
  let device := d.identity.device
  if h.isShutDown then (.error .shutDown, h)
  else if h.devices.contains device then (.error (.duplicateDevice device), h)
  else match h.prepare d with
    | .ok task => (.ok (), h.accept d task)
    | .error e => (.error e, h.refuse d e)

/-- Cancels the poll task of an entry. -/
def cancelEntry (h : Hub κ) (entry : DeviceEntry) : Hub κ :=
  match entry.task with
  | some n => h.cancelTask n
  | none => h

/-- Lets a device go, and forgets what it reported. -/
def dispose (h : Hub κ) (device : String) : Except HubError Unit × Hub κ :=
  match h.devices.get? device with
  | none => (.error (.unknownDevice device), h)
  | some entry =>
    let h := h.cancelEntry entry
    (.ok (),
      { h with
        devices := h.devices.erase device
        store := h.store.remove device
        health := h.health.remove device })

/-- Lets a device start anew with its configuration. -/
def restart (h : Hub κ) (device : String) : Except HubError Unit × Hub κ :=
  match h.devices.get? device with
  | none => (.error (.unknownDevice device), h)
  | some entry => (h.dispose device).2.enroll entry.config

/-- Gives a device another configuration, or takes it in. -/
def update (h : Hub κ) (d : DeviceConfig) : Except HubError Unit × Hub κ :=
  (h.dispose d.identity.device).2.enroll d

/-- Asks for a cycle of a device now. -/
def refresh (h : Hub κ) (device : String) : Except HubError RefreshAnswer × Hub κ :=
  match h.devices.get? device with
  | none => (.error (.unknownDevice device), h)
  | some _ =>
    match h.taskOf? device with
    | none => (.ok .inactive, h)
    | some (n, t) =>
      let (answer, poller) := t.poller.refresh
      (.ok answer, h.withPoller n poller)

/-! ## Shutting down -/

/-- Forbids everything new: no device is taken in and no cycle starts any more. -/
def beginShutdown (h : Hub κ) : Hub κ :=
  { h with
    isShutDown := true
    tasks := h.tasks.map fun t => { t with poller := t.poller.cancel } }

/-- Lets a device go while shutting down. What it reported stays. -/
def release (h : Hub κ) (device : String) : Hub κ := { h with devices := h.devices.erase device }

/-- Whether a poll task does nothing any more. -/
def hasEnded (h : Hub κ) (n : Nat) : Bool := (h.task? n).all fun t => t.poller.phase = .ended

/-- A call that shuts the hub down, between two of its steps. -/
structure ShutdownCall where
  /-- The devices that it still has to let go, in this order. -/
  left : List String
  /-- The poll task whose end it waits for. -/
  awaited : Option Nat
  deriving DecidableEq

/-- A call to shut down: it forbids everything new and takes note of all devices, in ascending order. -/
def shutdown (h : Hub κ) : ShutdownCall × Hub κ := (⟨h.devices.keys, none⟩, h.beginShutdown)

namespace ShutdownCall

def hasReturned (c : ShutdownCall) : Bool := c.left.isEmpty && c.awaited.isNone

/-- The next step of a call: it waits as long as the task works that it waits for; then it lets the next
device go, if that is still there, and waits for its task. -/
def goOn (c : ShutdownCall) (h : Hub κ) : ShutdownCall × Hub κ :=
  match c.awaited with
  | some n => if h.hasEnded n then ({ c with awaited := none }, h) else (c, h)
  | none =>
    match c.left with
    | [] => (c, h)
    | device :: rest => (⟨rest, (h.devices.get? device).bind (·.task)⟩, h.release device)

end ShutdownCall

end DeviceHub.Hub
