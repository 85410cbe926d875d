import DeviceHub.FieldValue

/-!
# Schemas

A schema says where each channel of a device type lives in a payload and what type it has. The
schemas of the appliance families that need no configuration stand here too.

Mirrors `FieldSpec`, `Schema` and `SchemaRegistry` with its built-in schemas.
-/
namespace DeviceHub

/-- The path by which a field claims a whole payload. -/
def wholePayload : String := "."

/-- One channel of a schema. Its paths are tried in order. -/
structure FieldSpec where
  channel : String
  paths : List String
  kind : FieldKind
  required : Bool
  deriving DecidableEq

/-- The shape of one device type's payloads. -/
structure Schema where
  /-- Where in a payload the fields are. -/
  root : Option String
  /-- Where among the fields the vendor says whether the device is reachable. -/
  onlineField : Option String
  fields : List FieldSpec
  deriving DecidableEq

namespace Schema

instance : Inhabited Schema := ⟨none, none, []⟩

/-- A schema for the payloads that hold their fields in `result.snapshot`. -/
def ofSnapshotFields (fields : List FieldSpec) : Schema :=
  ⟨some "result.snapshot", some "online", fields⟩

def airConditioner : Schema := ofSnapshotFields [
  ⟨"power", ["airState.operation", "Operation"], .boolean, true⟩,
  ⟨"op-mode", ["airState.opMode", "OpMode"], .integer, false⟩,
  ⟨"fan-speed", ["airState.windStrength", "WindStrength"], .integer, false⟩,
  ⟨"target-temperature", ["airState.tempState.target", "TempCfg"], .decimal, false⟩,
  ⟨"current-temperature", ["airState.tempState.current", "TempCur"], .decimal, false⟩,
  ⟨"remaining-filter", ["airState.filterMngStates.useTime"], .integer, false⟩,
  ⟨"current-energy", ["airState.energy.onCurrent"], .decimal, false⟩]

def heatPump : Schema := ofSnapshotFields [
  ⟨"power", ["airState.operation", "Operation"], .boolean, true⟩,
  ⟨"op-mode", ["airState.opMode", "OpMode"], .integer, false⟩,
  ⟨"target-temperature", ["airState.tempState.target", "TempCfg"], .decimal, false⟩,
  ⟨"current-temperature", ["airState.tempState.current", "TempCur"], .decimal, false⟩,
  ⟨"min-temperature", ["airState.tempState.min"], .decimal, false⟩,
  ⟨"max-temperature", ["airState.tempState.max"], .decimal, false⟩]

def washer : Schema := ofSnapshotFields [
  ⟨"state", ["washerDryer.state", "State"], .text, true⟩,
  ⟨"process-state", ["washerDryer.processState", "ProcessState"], .text, false⟩,
  ⟨"course", ["washerDryer.courseFL24inchBaseTitan", "Course"], .text, false⟩,
  ⟨"spin", ["washerDryer.spin", "SpinSpeed"], .text, false⟩,
  ⟨"rinse", ["washerDryer.rinse", "RinseOption"], .text, false⟩,
  ⟨"remain-time", ["washerDryer.remainTimeMinute", "Remain_Time_M"], .integer, false⟩,
  ⟨"door-lock", ["washerDryer.doorLock", "DoorLock"], .boolean, false⟩,
  ⟨"remote-start-flag", ["washerDryer.remoteStart", "RemoteStart"], .boolean, false⟩]

def fridge : Schema := ofSnapshotFields [
  ⟨"fridge-temperature", ["refState.fridgeTemp", "TempRefrigerator"], .decimal, true⟩,
  ⟨"freezer-temperature", ["refState.freezerTemp", "TempFreezer"], .decimal, true⟩,
  ⟨"temp-unit", ["refState.tempUnit", "TempUnit"], .text, false⟩,
  ⟨"some-door-open", ["refState.atLeastOneDoorOpen", "DoorOpenState"], .boolean, false⟩,
  ⟨"fr-express-mode", ["refState.expressMode", "IcePlus"], .text, false⟩,
  ⟨"fr-eco-friendly-mode", ["refState.ecoFriendly", "EcoFriendly"], .boolean, false⟩,
  ⟨"fr-water-filter", ["refState.waterFilterUsedMonth", "WaterFilterUsedMonth"], .text, false⟩]

/-- A channel of a video recorder answers with a picture. -/
def dvrChannel : Schema := ⟨none, none, [⟨"snapshot", [wholePayload], .binary, true⟩]⟩

end Schema

/-- The schemas by device type. -/
abbrev SchemaRegistry := Dict Schema

namespace SchemaRegistry

def builtins : SchemaRegistry := Dict.ofList [
  ("air_conditioner", .airConditioner), ("heat_pump", .heatPump), ("washer", .washer),
  ("fridge", .fridge), ("dvr_channel", .dvrChannel)]

end SchemaRegistry

end DeviceHub
