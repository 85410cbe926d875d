import DeviceHub.Json.Decode

/-!
# Failures of configurations

What can be wrong with a configuration: the file, the values in it, or the secrets it names.

Mirrors `ConfigError`.
-/
namespace DeviceHub

/-- A failure of a configuration. -/
inductive ConfigError where
  | notFound (path : String)
  | unreadable (fault : Json.Fault)
  | invalid (field reason : String)
  | noCredentials (bridge reason : String)
  deriving DecidableEq

/-- The text of a failure; a file that cannot be read as a configuration has none of its own. -/
def ConfigError.message : ConfigError → String
  | .notFound path => "config file not found: " ++ path
  | .unreadable _ => "config file not readable"
  | .invalid field reason => "invalid " ++ field ++ ": " ++ reason
  | .noCredentials bridge reason => "no credentials for bridge '" ++ bridge ++ "': " ++ reason

end DeviceHub
