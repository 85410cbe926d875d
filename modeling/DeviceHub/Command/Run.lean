import DeviceHub.Command.Interval
import DeviceHub.Command.Poll
import DeviceHub.Log
import DeviceHub.Simulation.HubRun

/-!
# Polling until interrupted

The command takes in all bridges of a configuration and then all devices. A bridge that is refused ends
it; a device that is refused is logged, and the others are polled. At the end the health of every
device is logged.

Mirrors the handler of `run`, which calls `register_bridge`, `initialize_device` and `shutdown`.
-/
namespace DeviceHub.Command

variable {τ : Type}

/-- A run of the command and its log, the earliest record first. -/
structure Service (τ : Type) where
  run : HubRun τ
  log : List LogRecord

namespace Service

def noted (s : Service τ) (records : List LogRecord) : Service τ := { s with log := s.log ++ records }

/-- The records of what listeners were told since a number of events. -/
def heard (run : HubRun τ) (count : Nat) : List LogRecord :=
  (run.hub.toldSince count).filterMap LogRecord.ofEvent?

/-- Takes a bridge in. -/
def addBridge (fault : CertificateFault) (s : Service τ) (b : BridgeConfig) :
    Except CommandFailure (Service τ) :=
  match s.run.apply fun hub => hub.register fault b with
  | (.error e, _) => .error (.ofHub e)
  | (.ok (), run) =>
    .ok ({ s with run := run }.noted [LogRecord.info "bridge registered"
      [("bridge", .text b.id), ("base_url", .text b.baseUrl.text)]])

/-- Takes a device in. -/
def addDevice (s : Service τ) (d : DeviceConfig) : Service τ :=
  let device := ("device", Json.text d.identity.device)
  let told := s.run.hub.journal.length
  match s.run.apply fun hub => hub.enroll d with
  | (.ok (), run) =>
    { s with run := run }.noted (heard run told ++
      [LogRecord.info "device initialized" [device, ("interval_secs", Json.integer d.interval)],
        LogRecord.info "polling" [device, ("schedule", .text (intervalText d.interval))]])
  | (.error e, run) =>
    { s with run := run }.noted (heard run told ++
      [LogRecord.warn "device not started" [device, ("error", .text e.message)]])

/-- Takes everything in. -/
def start (o : Outside τ) (default : String) (c : Configuration) (world : τ) :
    Except CommandFailure (Service τ) := do
  let bridges ← match c.bridgeConfigs o.env with
    | .ok bridges => .ok bridges
    | .error e => .error (.ofConfig default e)
  let empty : Service τ := ⟨.new o.wire world c.registry, []⟩
  let s ← bridges.foldlM (addBridge o.certificateFault) empty
  let devices ← match c.deviceConfigs with
    | .ok devices => .ok devices
    | .error e => .error (.ofConfig default e)
  let s := devices.foldl addDevice s
  let started := (s.run.hub.devices.values.filter fun e => e.task.isSome).length
  .ok (s.noted [LogRecord.info "engine running; press Ctrl-C to stop"
    [("started", Json.integer started), ("configured", Json.integer c.devices.length)]])

/-- Takes bridges in up to the first that is refused. -/
def addBridgesUpTo (fault : CertificateFault) (s : Service τ) : List BridgeConfig → Service τ
  | [] => s
  | b :: rest =>
    match s.addBridge fault b with
    | .ok s => addBridgesUpTo fault s rest
    | .error _ => s

/-- What had been logged when a start failed: the bridges that were taken in until then. -/
def logOfFailure (o : Outside τ) (c : Configuration) (world : τ) : List LogRecord :=
  match c.bridgeConfigs o.env with
  | .ok bridges =>
    (addBridgesUpTo o.certificateFault ⟨.new o.wire world c.registry, []⟩ bridges).log
  | .error _ => []

/-- Lets time pass. -/
def advance (s : Service τ) (millis : Nat) : Service τ :=
  let told := s.run.hub.journal.length
  let run := s.run.advance millis
  { s with run := run }.noted (heard run told)

/-- The record of a device's health at the end. -/
def finalStatus (e : String × DeviceHealth) : LogRecord :=
  LogRecord.info "final status" [("device", .text e.1), ("status", .text e.2.status.name),
    ("failures", Json.integer e.2.failures)]

/-- Logs the health of every device and shuts down. -/
def stop (s : Service τ) : Service τ :=
  let devices := s.run.hub.devices.keys
  let health := s.run.hub.health.filter fun e => devices.contains e.1
  { s with run := s.run.shutDown }.noted (health.map finalStatus)

end Service

end DeviceHub.Command
