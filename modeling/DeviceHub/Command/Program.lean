import DeviceHub.Command.Arguments
import DeviceHub.Command.Check
import DeviceHub.Command.Run
import DeviceHub.Config.Layers

/-!
# The program

From arguments, environment and files to what the program prints and the status it exits with.

Mirrors `main`, `run`, `load` and `config_path`.
-/
namespace DeviceHub.Command

variable {τ : Type}

/-- A path inside a directory. -/
def inDirectory (directory name : String) : String :=
  if directory.endsWith "/" then directory ++ name else directory ++ "/" ++ name

/-- Where a configuration is looked for when none is named. -/
def defaultPath (env : Environment) : String :=
  let under (directory : String) : String :=
    inDirectory (inDirectory directory "bindery") "config.toml"
  match (env.get? "XDG_CONFIG_HOME").filter (·.startsWith "/") with
  | some directory => under directory
  | none =>
    match (env.get? "HOME").filter (· ≠ "") with
    | some home => under (inDirectory home ".config")
    | none => "./bindery.toml"

/-- The configuration of a call. -/
def load (o : Outside τ) (config : Option String) : Except CommandFailure Configuration :=
  let default := defaultPath o.env
  let path := config.getD default
  let loaded : Except ConfigError Configuration := match o.file? path with
    | none => .error (.notFound path)
    | some text => Layers.load text o.env
  match loaded with
  | .ok c => .ok c
  | .error e => .error (.ofConfig default e)

/-- How a call of the program ends. -/
inductive Ending where
  | done (output : String)
  | failed (e : CommandFailure)
  /-- The arguments were no call. -/
  | misused
  deriving DecidableEq

/-- The status that the program exits with. -/
def Ending.status : Ending → Nat
  | .done _ => 0
  | .failed e => e.exitStatus
  | .misused => 2

/-- The version of the program. -/
def version : String := "0.1.0"

def Ending.ofResult : Except CommandFailure String → Ending
  | .ok output => .done output
  | .error e => .failed e

/-- What a call that is none ends in. -/
def Ending.ofStop : Arguments.Stop → Ending
  | .help => .done ""
  | .version name => .done (name ++ " " ++ version ++ "\n")
  | .misuse => .misused

/-- The start of the command that polls until it is interrupted. -/
def serve (o : Outside τ) (config : Option String) (world : τ) :
    Except CommandFailure (Service τ) := do
  let c ← load o config
  Service.start o (defaultPath o.env) c world

/-- What had been logged when the start of that command failed. -/
def serveLog (o : Outside τ) (config : Option String) (world : τ) : List LogRecord :=
  match load o config with
  | .ok c => Service.logOfFailure o c world
  | .error _ => []

/-- Carries a call out. Polling is left right after its start: who can wait goes on from `serve`. -/
def carryOut (o : Outside τ) (call : Invocation) (world : τ) : Ending :=
  match call.task with
  | .run =>
    match serve o call.config world with
    | .ok _ => .done ""
    | .error e => .failed e
  | .check =>
    .ofResult (do
      let c ← load o call.config
      check (defaultPath o.env) o.env c)
  | .poll device isCompact =>
    match load o call.config with
    | .ok c => .ofResult (poll o (defaultPath o.env) c device isCompact world).1
    | .error e => .failed e

/-- Carries out what some arguments ask for. -/
def execute (o : Outside τ) (args : List String) (world : τ) : Ending :=
  match Arguments.read args o.env with
  | .ok call => carryOut o call world
  | .error stop => .ofStop stop

end DeviceHub.Command
