import DeviceHub.Dict
import DeviceHub.Failure
import DeviceHub.Instant
import DeviceHub.Json.Value

/-!
# Health

How a device is doing, told from the outcomes of its polls. A success sets status and detail by what
the device says about itself, a failure by its class. Failures that only a new configuration can help
suspend the device.

Mirrors `ConnectivityStatus`, `DeviceHealth` and `HealthTracker`; its `record_success`, `record_failure`
and `record_config_error` are `apply` with the three kinds of `HealthOutcome`.

* `get?_apply`: what an outcome answers is what is kept.
* `get?_apply_other`: one device's outcome says nothing about another.
-/
namespace DeviceHub

/-- Connectivity as it is shown to people. -/
inductive ConnectivityStatus where
  | online
  /-- The bridge answers but the device does not. -/
  | offline
  /-- The configuration or the credential is bad, and polling has stopped. -/
  | configError
  /-- A poll failed, and polling goes on. -/
  | communicationError
  deriving DecidableEq

namespace ConnectivityStatus

def name : ConnectivityStatus → String
  | .online => "ONLINE"
  | .offline => "OFFLINE"
  | .configError => "CONFIG_ERROR"
  | .communicationError => "COMMUNICATION_ERROR"

def all : List ConnectivityStatus := [.online, .offline, .configError, .communicationError]

def ofName? (s : String) : Option ConnectivityStatus := all.find? fun c => c.name = s

theorem ofName?_name (c : ConnectivityStatus) : ofName? c.name = some c := by cases c <;> decide

end ConnectivityStatus

/-- How a device is doing. -/
structure DeviceHealth where
  status : ConnectivityStatus
  detail : Option String
  /-- Failed polls since the last that succeeded. -/
  failures : Nat
  lastSuccess : Option Instant
  lastError : Option String
  deriving DecidableEq

namespace DeviceHealth

/-- The health of a device that was never polled. -/
def initial : DeviceHealth := ⟨.offline, some "not yet polled", 0, none, none⟩

instance : Inhabited DeviceHealth := ⟨initial⟩

def toJson (h : DeviceHealth) : Json :=
  .object [("status", .text h.status.name), ("detail", Json.optText h.detail),
    ("consecutive_failures", Json.integer h.failures),
    ("last_success", Json.ofOption (fun t => .text t.text) h.lastSuccess),
    ("last_error", Json.optText h.lastError)]

end DeviceHealth

/-- What happened in one poll, or to a configuration. -/
inductive HealthOutcome where
  /-- A poll succeeded, and the device calls itself reachable or not. -/
  | success (online : Bool) (now : Instant)
  | failure (kind : FailureClass) (message : String)
  /-- A configuration was refused before any poll. -/
  | configError (detail : String)
  deriving DecidableEq

namespace HealthOutcome

/-- The most failures that are counted. -/
def failureLimit : Nat := 0xffffffff

def status : HealthOutcome → ConnectivityStatus
  | .success online _ => if online then .online else .offline
  | .failure kind _ =>
    match kind with
    | .auth | .config => .configError
    | .offline => .offline
    | .permanent | .transient | .malformed => .communicationError
  | .configError _ => .configError

def detail : HealthOutcome → Option String
  | .success online _ => if online then none else some "device reports offline"
  | .failure kind message => some (if kind = .permanent then "permanent: " ++ message else message)
  | .configError detail => some detail

/-- Whether polling has to stop until the device gets a new start. -/
def suspends : HealthOutcome → Bool
  | .success .. => false
  | .failure kind _ => kind.needsAttention
  | .configError _ => true

/-- The health after an outcome. -/
def health (o : HealthOutcome) (before : DeviceHealth) : DeviceHealth :=
  { status := o.status
    detail := o.detail
    failures := match o with
      | .success .. => 0
      | .failure .. => min (before.failures + 1) failureLimit
      | .configError _ => before.failures
    lastSuccess := match o with
      | .success _ now => some now
      | _ => before.lastSuccess
    lastError := match o with
      | .success .. => before.lastError
      | .failure _ message => some message
      | .configError detail => some detail }

end HealthOutcome

/-- The effect of an outcome. -/
structure Transition where
  health : DeviceHealth
  /-- Whether status or detail differ from before. -/
  isChange : Bool
  suspends : Bool
  deriving DecidableEq

/-- The health of all devices. -/
abbrev HealthTracker := Dict DeviceHealth

namespace HealthTracker

/-- The effect of an outcome on a device; one that is not tracked counts as never polled. -/
def transition (t : HealthTracker) (device : String) (o : HealthOutcome) : Transition :=
  let before := (Dict.get? t device).getD .initial
  let after := o.health before
  ⟨after, decide (before.status ≠ after.status ∨ before.detail ≠ after.detail), o.suspends⟩

/-- The tracker after an outcome. -/
def apply (t : HealthTracker) (device : String) (o : HealthOutcome) : HealthTracker :=
  Dict.insert t device (t.transition device o).health

/-- Starts to track a device anew. -/
def reset (t : HealthTracker) (device : String) : HealthTracker := Dict.insert t device .initial

def remove (t : HealthTracker) (device : String) : HealthTracker := Dict.erase t device

/-- Of a tracked device an outcome makes what it makes of its health. -/
theorem transition_health {t : HealthTracker} {device : String} {health : DeviceHealth}
    (h : Dict.get? t device = some health) (o : HealthOutcome) :
    (t.transition device o).health = o.health health := by
  simp only [transition, h, Option.getD_some]

theorem get?_apply (t : HealthTracker) (device : String) (o : HealthOutcome) :
    Dict.get? (t.apply device o) device = some (t.transition device o).health := by
  simp [apply, Dict.get?_insert]

theorem get?_apply_other (t : HealthTracker) {device other : String} (o : HealthOutcome)
    (h : device ≠ other) : Dict.get? (t.apply device o) other = Dict.get? t other := by
  simp [apply, Dict.get?_insert, h]

theorem get?_reset (t : HealthTracker) (device other : String) :
    Dict.get? (t.reset device) other = if device = other then some .initial else Dict.get? t other :=
  Dict.get?_insert ..

theorem get?_remove (t : HealthTracker) (device other : String) :
    Dict.get? (t.remove device) other = if device = other then none else Dict.get? t other :=
  Dict.get?_erase ..

end HealthTracker

end DeviceHub
