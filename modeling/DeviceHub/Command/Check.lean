import DeviceHub.Command.Failure
import DeviceHub.Command.Interval
import DeviceHub.Config.Check

/-!
# Checking a configuration

The command prints a summary of a configuration that is in order: bridges, devices and further device
types, in columns.

Mirrors the handler of `check`.
-/
namespace DeviceHub.Command

/-- A text with spaces behind it up to a width. -/
def column (width : Nat) (s : String) : String :=
  s ++ String.ofList (List.replicate (width - s.length) ' ')

def bridgeLine (e : String × BridgeSection) : String :=
  "  " ++ column 16 e.1 ++ " " ++ column 7 e.2.auth.name ++ " " ++ e.2.baseUrl

def deviceLine (d : DeviceConfig) : String :=
  "  " ++ column 16 d.identity.device ++ " " ++ column 16 d.identity.bridge ++ " " ++
    column 18 d.identity.deviceType ++ " " ++ intervalText d.interval

/-- The lines of a summary. -/
def summary (c : Configuration) (devices : List DeviceConfig) : List String :=
  ["bridges (" ++ toString c.bridges.length ++ "):"] ++ c.bridges.map bridgeLine ++
    ["devices (" ++ toString c.devices.length ++ "):"] ++ devices.map deviceLine ++
    (if c.deviceTypes = [] then []
     else ["custom device types: " ++ String.intercalate ", " c.deviceTypes.keys]) ++
    ["configuration OK"]

/-- What the command prints; `default` is where a configuration is looked for. -/
def check (default : String) (env : Environment) (c : Configuration) :
    Except CommandFailure String :=
  match (do c.check env; c.deviceConfigs) with
  | .ok devices => .ok (String.join ((summary c devices).map (· ++ "\n")))
  | .error e => .error (.ofConfig default e)

end DeviceHub.Command
