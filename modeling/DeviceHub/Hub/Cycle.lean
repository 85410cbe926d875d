import DeviceHub.Hub.Devices
import DeviceHub.Normalize

/-!
# Cycles and commands

A cycle of a poll task asks for the device and commits the answer: health, channels and snapshot
change together, and listeners are told of every channel that changed and of a changed connectivity.
The answer to a cycle whose task was cancelled meanwhile changes nothing.

A command is a request of its own. When it succeeds the device is polled at once, to see its effect.

Mirrors `DeviceCycle` with `fetch`, `apply`, `commit`, `report` and `run`, cut at its request, and
`send_command` (`commandClient`, `commandDone`) and `poll_once` (`readAnswer`), cut in the same way.
-/
namespace DeviceHub

variable {κ : Type}

/-- What an answer about a device is for a schema. -/
def readAnswer (schema : Schema) (identity : Identity) (now : Instant) :
    Except RequestError Payload → Except HubError Snapshot
  | .error e => .error (.request e)
  | .ok payload =>
    match normalize payload schema identity now with
    | .ok snapshot => .ok snapshot
    | .error e => .error (.malformed e)

/-- What a cycle's result says about the device's health. -/
def HealthOutcome.ofResult (now : Instant) : Except HubError Snapshot → HealthOutcome
  | .ok snapshot => .success snapshot.online now
  | .error e => .failure e.kind e.message

namespace Hub

/-- Stores a snapshot and tells what is new in it. -/
def publish (h : Hub κ) (s : Snapshot) : Hub κ :=
  let news := (s.changes (h.store.get? s.device)).map fun e => Event.state s.device e.1 e.2
  { h with journal := news.reverse ++ h.journal, store := h.store.upsert s }

/-- Notes an outcome of a device and tells of it if anything about it is new. -/
def record (h : Hub κ) (device : String) (o : HealthOutcome) (t : Transition) : Hub κ :=
  let h := { h with health := h.health.apply device o }
  if t.isChange then h.tell (.connectivity device t.health.status t.health.detail) else h

/-- The hub after a device's cycle had a result: its snapshot first, then its health. -/
def absorb (h : Hub κ) (device : String) (result : Except HubError Snapshot) (now : Instant) :
    Hub κ :=
  let outcome := HealthOutcome.ofResult now result
  let transition := h.health.transition device outcome
  let h := match result with
    | .ok snapshot => h.publish snapshot
    | .error _ => h
  h.record device outcome transition

/-- Commits the result of a cycle. -/
def commit (h : Hub κ) (n : Nat) (result : Except HubError Snapshot) (now : Instant) :
    Verdict × Hub κ :=
  match h.task? n with
  | none => (.goOn, h)
  | some task =>
    if task.poller.isCancelled then (.goOn, h)
    else
      (if (HealthOutcome.ofResult now result).suspends then .suspend else .goOn,
        h.absorb task.identity.device result now)

/-- Gives a task a turn at a time; whether it starts a cycle. -/
def wake (h : Hub κ) (n time : Nat) : Bool × Hub κ :=
  match h.task? n with
  | none => (false, h)
  | some task =>
    let (starts, poller) := task.poller.wake time
    (starts, h.withPoller n poller)

/-- Ends a task's cycle with the answer to its request. -/
def finish (h : Hub κ) (n time : Nat) (now : Instant) (answer : Except RequestError Payload) :
    Hub κ :=
  match h.task? n with
  | none => h
  | some task =>
    let (verdict, h) := h.commit n (readAnswer task.schema task.identity now answer) now
    h.withPoller n (task.poller.finish time verdict)

/-- The client that carries a command to a device. -/
def commandClient (h : Hub κ) (device : String) : Except HubError (Client κ) :=
  match h.devices.get? device with
  | none => .error (.unknownDevice device)
  | some entry =>
    let bridge := entry.config.identity.bridge
    match h.clients.get? bridge with
    | none => .error (.unknownBridge bridge)
    | some client => .ok client

/-- What a command answers, and the hub after it. -/
def commandDone (h : Hub κ) (device : String) (answer : Except RequestError Payload) :
    Except HubError Payload × Hub κ :=
  match answer with
  | .error e => (.error (.request e), h)
  | .ok payload => (.ok payload, (h.refresh device).2)

end Hub

end DeviceHub
