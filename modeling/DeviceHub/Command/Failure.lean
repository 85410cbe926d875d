import DeviceHub.Config.Error
import DeviceHub.HubError

/-!
# How commands fail

Every failure of a command has a text, a code by which to look it up, the status the program exits
with and sometimes advice. What the failure was decides which of them it is.

Mirrors `CliError` with `exit_code`, and how it is made from `ConfigError` and `CoreError`.
-/
namespace DeviceHub

/-- A failure of a command. -/
inductive CommandFailure where
  | noConfig (path default : String)
  | config
  | validation (field reason : String)
  | unknownDevice (device available : String)
  | authFailed (text : String)
  | connectionFailed (text : String)
  | timeout (seconds : Nat)
  | deviceOffline (device : String)
  | malformed (text : String)
  | requestFailed (text : String)
  deriving DecidableEq

namespace CommandFailure

def message : CommandFailure → String
  | .noConfig path _ => "Configuration file not found: " ++ path
  | .config => "Invalid configuration"
  | .validation field reason => "Invalid value for " ++ field ++ ": " ++ reason
  | .unknownDevice device _ => "Device '" ++ device ++ "' is not configured"
  | .authFailed text => "Authentication failed: " ++ text
  | .connectionFailed text => "Could not reach the vendor endpoint: " ++ text
  | .timeout seconds => "Request timed out after " ++ toString seconds ++ "s"
  | .deviceOffline device => "Device '" ++ device ++ "' is offline"
  | .malformed text => "Unexpected response: " ++ text
  | .requestFailed text => "Request failed: " ++ text

/-- The status that the program exits with. -/
def exitStatus : CommandFailure → Nat
  | .noConfig .. | .config | .validation .. => 2
  | .authFailed _ => 3
  | .unknownDevice .. => 4
  | .connectionFailed _ | .deviceOffline _ => 7
  | .timeout _ => 8
  | .malformed _ | .requestFailed _ => 1

def code : CommandFailure → String
  | .noConfig .. => "bindery::no_config"
  | .config => "bindery::config"
  | .validation .. => "bindery::validation"
  | .unknownDevice .. => "bindery::unknown_device"
  | .authFailed _ => "bindery::auth_failed"
  | .connectionFailed _ => "bindery::connection_failed"
  | .timeout _ => "bindery::timeout"
  | .deviceOffline _ => "bindery::offline"
  | .malformed _ => "bindery::malformed"
  | .requestFailed _ => "bindery::request_failed"

def help? : CommandFailure → Option String
  | .noConfig _ default =>
    some ("Pass one with --config or set BINDERY_CONFIG.\nDefault location: " ++ default)
  | .config => some "Run: bindery check --config <PATH> to see the full summary"
  | .unknownDevice _ available => some ("Configured devices: " ++ available)
  | .authFailed _ =>
    some "Verify the bridge credentials; *_env variables take precedence over plaintext."
  | .timeout _ => some "Raise `timeout` in the bridge or [defaults] section."
  | .malformed _ => some "Check the device type's schema and the request `format`."
  | _ => none

/-- What a failure of a configuration is for a command; `default` is where a configuration is looked
for when none is named. -/
def ofConfig (default : String) : ConfigError → CommandFailure
  | .notFound path => .noConfig path default
  | .invalid field reason => .validation field reason
  | .unreadable _ | .noCredentials .. => .config

/-- What a failure with a text is by its class alone. -/
def ofClass (kind : FailureClass) (text : String) : CommandFailure :=
  match kind with
  | .auth => .authFailed text
  | .config => .validation "configuration" text
  | .transient => .connectionFailed text
  | .malformed => .malformed text
  | .offline | .permanent => .requestFailed text

/-- What a failure of the hub is for a command. -/
def ofHub : HubError → CommandFailure
  | .request (.timeout seconds) => .timeout seconds
  | .request (.deviceOffline device _) => .deviceOffline device
  | .unknownDevice device => .unknownDevice device ""
  | e => ofClass e.kind e.message

end CommandFailure

end DeviceHub
