import DeviceHub.Command.Program

/-!
# The command line

The arguments, the environment, the files and the streams of the process. No message leaves it: every
request goes unanswered.
-/
namespace DeviceHub.Main

open Command

/-- The variables in the form `name=value`, each ended by a zero. -/
def environmentOf (text : String) : Environment :=
  Dict.ofList ((Text.pieces '\x00' text.toList).filterMap fun entry =>
    (Text.cut '=' entry).map fun (name, value) => (String.ofList name, String.ofList value))

def fileText (path : String) : IO (Option String) := do
  try
    let text ← IO.FS.readFile path
    return some text
  catch _ => return none

/-- The fault of a certificate that cannot be read. -/
def noCertificate : String := "failed to read CA cert: No such file or directory (os error 2)"

/-- The paths of the files that a call may need. -/
def configPath (env : Environment) (args : List String) : String :=
  match Arguments.read args env with
  | .ok call => call.config.getD (defaultPath env)
  | .error _ => defaultPath env

/-- A record on one line. -/
def logLine (format : LogFormat) (r : LogRecord) : String :=
  match format with
  | .json => (Json.object (("level", .text r.level) :: r.members)).compact
  | .text => r.level ++ " " ++ r.message ++
      String.join (r.fields.map fun e => " " ++ e.1 ++ "=" ++ e.2.compact)

def report (format : LogFormat) (records : List LogRecord) : IO Unit := do
  for r in records do
    IO.eprintln (logLine format r)

/-- How long the clock is left alone. -/
def stride : Nat := 1000

/-- Polls until the process is ended from outside. -/
partial def keepServing (format : LogFormat) (s : Service Unit) : IO Unit := do
  IO.sleep 1000
  let later := s.advance stride
  report format (later.log.drop s.log.length)
  keepServing format later

def tell (ending : Ending) : IO UInt32 := do
  match ending with
  | .done output => IO.print output
  | .failed e =>
    IO.eprintln (e.code ++ ": " ++ e.message)
    match e.help? with
    | some help => IO.eprintln help
    | none => pure ()
  | .misused => IO.eprintln "usage: bindery [OPTIONS] <run|check|poll>"
  return ending.status.toUInt32

def start (args : List String) : IO UInt32 := do
  let entries ← fileText "/proc/self/environ"
  let env := environmentOf (entries.getD "")
  let path := configPath env args
  let text ← fileText path
  let o : Outside Unit :=
    { env := env
      file? := fun p => if p = path then text else none
      certificateFault := fun _ => some noCertificate
      wire := .silent
      now := .epoch }
  match Arguments.read args env with
  | .ok ⟨config, _, format, .run⟩ =>
    match serve o config () with
    | .ok s =>
      report format s.log
      keepServing format s
      return 0
    | .error e =>
      report format (serveLog o config ())
      tell (.failed e)
  | _ => tell (execute o args ())

end DeviceHub.Main

def main (args : List String) : IO UInt32 := DeviceHub.Main.start args
