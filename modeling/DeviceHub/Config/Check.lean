import DeviceHub.Config.Translate

/-!
# Checking configurations

A configuration is in order when its bridges and devices are, every device refers to a bridge and a
device type that there are, and no two devices share an id. The first fault counts: bridges come
first, then device types, then devices.

Mirrors `Config.validate`.
-/
namespace DeviceHub.Configuration

/-- A fault of the hub as one of a configuration. -/
def atPlace (place : String) {α : Type} : Except HubError α → Except ConfigError Unit
  | .ok _ => .ok ()
  | .error e => .error (.invalid place e.message)

/-- Checks a bridge. -/
def checkBridge (c : Configuration) (env : Environment) (name : String) (s : BridgeSection) :
    Except ConfigError Unit := do
  let b ← s.translate c.defaults name env
  atPlace ("bridges." ++ name) b.validate

/-- Checks a device type. -/
def checkType (name : String) (s : Schema) : Except ConfigError Unit :=
  if s.fields = [] then
    .error (.invalid ("device_types." ++ name) "at least one field is required")
  else .ok ()

/-- Checks a device. -/
def checkDevice (c : Configuration) (s : DeviceSection) : Except ConfigError Unit :=
  if ¬c.bridges.contains s.bridge then
    .error (.invalid s.place ("unknown bridge '" ++ s.bridge ++ "'"))
  else if ¬c.registry.contains s.deviceType then
    .error (.invalid s.place ("unknown device type '" ++ s.deviceType ++ "'"))
  else do
    let d ← s.translate c.defaults
    atPlace s.place d.validate

/-- Checks devices, the ids of those before them known. -/
def checkDevices (c : Configuration) (seen : List String) :
    List DeviceSection → Except ConfigError Unit
  | [] => .ok ()
  | s :: rest => do
    if s.id ∈ seen then .error (.invalid s.place "duplicate device id")
    c.checkDevice s
    c.checkDevices (s.id :: seen) rest

/-- Checks a configuration. -/
def check (c : Configuration) (env : Environment) : Except ConfigError Unit := do
  c.bridges.forM fun (name, s) => c.checkBridge env name s
  c.deviceTypes.forM fun (name, s) => checkType name s
  c.checkDevices [] c.devices

end DeviceHub.Configuration
