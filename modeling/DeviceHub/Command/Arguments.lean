import DeviceHub.Config.Basic

/-!
# Arguments of the program

The program has three commands. Options may stand before the command or behind it; what stands behind
it counts more, and variables of the environment count least. An option that takes a value takes the
next argument or what is attached to it.

Mirrors `Cli` with `GlobalOpts`, `Command` and `PollArgs`.
-/
namespace DeviceHub

/-- The form of log records. -/
inductive LogFormat where
  | text
  | json
  deriving DecidableEq

def LogFormat.ofName? (name : String) : Option LogFormat :=
  if name = "text" then some .text else if name = "json" then some .json else none

/-- What the program shall do. -/
inductive Task where
  | run
  | check
  | poll (device : String) (isCompact : Bool)
  deriving DecidableEq

/-- A call of the program. -/
structure Invocation where
  /-- The configuration file, if one is named. -/
  config : Option String
  verbosity : Nat
  logFormat : LogFormat
  task : Task
  deriving DecidableEq

namespace Arguments

/-- Why arguments are no call. -/
inductive Stop where
  /-- Help is asked for. -/
  | help
  /-- The version of the program is asked for, under a name. -/
  | version (name : String)
  | misuse
  deriving DecidableEq

/-- The commands. -/
inductive CommandName where
  | run
  | check
  | poll
  deriving DecidableEq

def CommandName.ofName? (name : String) : Option CommandName :=
  if name = "run" then some .run
  else if name = "check" then some .check
  else if name = "poll" then some .poll
  else none

def CommandName.text : CommandName → String
  | .run => "run"
  | .check => "check"
  | .poll => "poll"

/-- The options that take a value. -/
inductive ValueOption where
  | config
  | logFormat
  deriving DecidableEq

/-- What was given on one side of the command. -/
structure Given where
  config : Option String
  logFormat : Option LogFormat
  verbosity : Nat
  isCompact : Bool
  device : Option String
  /-- The option whose value has to come next. -/
  awaiting : Option ValueOption
  deriving DecidableEq

def Given.nothing : Given := ⟨none, none, 0, false, none, none⟩

/-- How an argument reads. -/
inductive Word where
  | long (name : List Char) (value : Option (List Char))
  | short (letters : List Char)
  /-- From here on nothing is an option. -/
  | divider
  | plain (text : String)
  deriving DecidableEq

def word (text : String) : Word :=
  match text.toList with
  | ['-', '-'] => .divider
  | '-' :: '-' :: cs =>
    match cs.dropWhile (· ≠ '=') with
    | '=' :: value => .long (cs.takeWhile (· ≠ '=')) (some value)
    | _ => .long cs none
  | '-' :: c :: cs => .short (c :: cs)
  | _ => .plain text

/-- Gives an option its value. No option is given twice, and a path is not empty. -/
def Given.give (g : Given) (o : ValueOption) (value : String) : Except Stop Given :=
  let g := { g with awaiting := none }
  match o with
  | .config =>
    if g.config.isSome ∨ value = "" then .error .misuse else .ok { g with config := some value }
  | .logFormat =>
    match LogFormat.ofName? value with
    | some f => if g.logFormat.isSome then .error .misuse else .ok { g with logFormat := some f }
    | none => .error .misuse

/-- Takes a value that is attached to its option, or waits for it. -/
def Given.take (g : Given) (o : ValueOption) (value : Option (List Char)) : Except Stop Given :=
  match value with
  | some v => g.give o (String.ofList v)
  | none => .ok { g with awaiting := some o }

/-- Takes an option by its name. `command` is the command that it stands behind, if any. -/
def Given.long (command : Option CommandName) (program : String) (g : Given) (name : String)
    (value : Option (List Char)) : Except Stop Given :=
  match name, value with
  | "config", v => g.take .config v
  | "log-format", v => g.take .logFormat v
  | "verbose", none => .ok { g with verbosity := g.verbosity + 1 }
  | "help", none => .error .help
  | "version", none => .error (.version program)
  | "compact", none =>
    if command = some .poll ∧ ¬g.isCompact then .ok { g with isCompact := true } else .error .misuse
  | _, _ => .error .misuse

/-- Takes options by their letters. -/
def Given.short (program : String) (g : Given) : List Char → Except Stop Given
  | [] => .ok g
  | 'v' :: cs => { g with verbosity := g.verbosity + 1 }.short program cs
  | 'h' :: _ => .error .help
  | 'V' :: _ => .error (.version program)
  | ['c'] => .ok { g with awaiting := some .config }
  | 'c' :: '=' :: cs => g.give .config (String.ofList cs)
  | 'c' :: cs => g.give .config (String.ofList cs)
  | _ => .error .misuse

/-- Takes an argument that is no option. -/
def Given.plain (command : CommandName) (g : Given) (text : String) : Except Stop Given :=
  if command = .poll ∧ g.device = none then .ok { g with device := some text } else .error .misuse

/-- What stands behind a command. -/
def behind (command : CommandName) (program : String) : Given → List String → Except Stop Given
  | g, [] => if g.awaiting.isSome then .error .misuse else .ok g
  | g, text :: rest =>
    match word text, g.awaiting with
    | .plain value, some o => do
      let g ← g.give o value
      behind command program g rest
    | _, some _ => .error .misuse
    | .plain text, none => do
      let g ← g.plain command text
      behind command program g rest
    | .long name value, none => do
      let g ← g.long (some command) program (String.ofList name) value
      behind command program g rest
    | .short letters, none => do
      let g ← g.short program letters
      behind command program g rest
    | .divider, none => rest.foldlM (Given.plain command) g

/-- Asking for help by name. -/
def helpOn : List String → Stop
  | [] => .help
  | [name] => if name = "help" ∨ (CommandName.ofName? name).isSome then .help else .misuse
  | _ => .misuse

/-- What stands before the command, the command, and what stands behind it. -/
def before (program : String) : Given → List String → Except Stop (Given × CommandName × List String)
  | _, [] => .error .misuse
  | g, text :: rest =>
    match word text, g.awaiting with
    | .plain value, some o => do
      let g ← g.give o value
      before program g rest
    | _, some _ => .error .misuse
    | .plain name, none =>
      if name = "help" then .error (helpOn rest)
      else match CommandName.ofName? name with
        | some command => .ok (g, command, rest)
        | none => .error .misuse
    | .long name value, none => do
      let g ← g.long none program (String.ofList name) value
      before program g rest
    | .short letters, none => do
      let g ← g.short program letters
      before program g rest
    | .divider, none => .error .misuse

/-- The variables that stand for options. -/
def optionVariables : List (ValueOption × String) :=
  [(.config, "BINDERY_CONFIG"), (.logFormat, "BINDERY_LOG_FORMAT")]

/-- Options that were not given, by their variables. -/
def Given.fromEnvironment (g : Given) (env : Environment) : Except Stop Given :=
  optionVariables.foldlM (fun g (o, name) =>
    let isGiven := match o with
      | .config => g.config.isSome
      | .logFormat => g.logFormat.isSome
    match env.get? name with
    | some value => if isGiven then .ok g else g.give o value
    | none => .ok g) g

/-- What the command shall do. -/
def task (command : CommandName) (g : Given) : Except Stop Task :=
  match command with
  | .run => .ok .run
  | .check => .ok .check
  | .poll =>
    match g.device with
    | some device => .ok (.poll device g.isCompact)
    | none => .error .misuse

/-- The name of the program. -/
def programName : String := "bindery"

/-- The call that some arguments are. The variables have to be in order on either side of the command
where the option is not given. -/
def read (args : List String) (env : Environment) : Except Stop Invocation := do
  let (first, command, rest) ← before programName .nothing args
  let second ← behind command (programName ++ "-" ++ command.text) .nothing rest
  let task ← task command second
  let withFirst ← first.fromEnvironment env
  let withSecond ← second.fromEnvironment env
  .ok {
    config := second.config <|> first.config <|> withFirst.config
    verbosity := if second.verbosity = 0 then first.verbosity else second.verbosity
    logFormat := ((second.logFormat <|> first.logFormat) <|> withSecond.logFormat).getD .text
    task := task }

end Arguments

end DeviceHub
