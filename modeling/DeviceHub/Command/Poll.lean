import DeviceHub.Command.Failure
import DeviceHub.Config.Translate
import DeviceHub.Hub.Cycle

/-!
# Fetching one device

The command asks for one device of a configuration and prints its snapshot.

Mirrors the handler of `poll`, which calls `Engine.poll_once`.
-/
namespace DeviceHub.Command

variable {τ : Type}

/-- What the program has of the world outside. -/
structure Outside (τ : Type) where
  env : Environment
  /-- The text of a file. -/
  file? : String → Option String
  certificateFault : CertificateFault
  wire : Wire τ
  now : Instant

/-- The device with an id; the failure names all that there are. -/
def deviceSection (c : Configuration) (id : String) : Except CommandFailure DeviceSection :=
  match c.device? id with
  | some s => .ok s
  | none => .error (.unknownDevice id (String.intercalate ", " (c.devices.map (·.id))))

/-- A hub with a device's bridge, and the device. -/
def pollSetup (o : Outside τ) (default : String) (c : Configuration) (id : String) :
    Except CommandFailure (Hub Empty × DeviceConfig) := do
  let s ← deviceSection c id
  let configured := do
    let device ← s.translate c.defaults
    let bridge ← c.bridgeConfig o.env s.bridge
    .ok (device, bridge)
  match configured with
  | .error e => .error (.ofConfig default e)
  | .ok (device, bridge) =>
    match (Hub.new c.registry).register o.certificateFault bridge with
    | (.ok (), hub) => .ok (hub, device)
    | (.error e, _) => .error (.ofHub e)

/-- Asks for a device that a hub need not have. -/
def pollOnce (o : Outside τ) (hub : Hub Empty) (d : DeviceConfig) (world : τ) :
    Except HubError Snapshot × τ :=
  match hub.resolve d with
  | .error e => (.error e, world)
  | .ok (.attached c, _) => nomatch c
  | .ok (.http client, schema) =>
    let (answer, _, world) :=
      client.fetch o.wire o.now d.identity.device d.request hub.refresher world
    (readAnswer schema d.identity o.now answer, world)

/-- What the command prints. -/
def poll (o : Outside τ) (default : String) (c : Configuration) (id : String) (isCompact : Bool)
    (world : τ) : Except CommandFailure String × τ :=
  match pollSetup o default c id with
  | .error e => (.error e, world)
  | .ok (hub, device) =>
    match pollOnce o hub device world with
    | (.error e, world) => (.error (.ofHub e), world)
    | (.ok snapshot, world) =>
      let json := snapshot.toJson
      (.ok ((if isCompact then json.compact else json.indented 0) ++ "\n"), world)

end DeviceHub.Command
