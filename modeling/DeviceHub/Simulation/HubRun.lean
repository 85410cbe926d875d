import DeviceHub.Hub.Cycle
import DeviceHub.Simulation.Script

/-!
# Runs of the hub

A hub whose bridges answer by scripts, on a clock in milliseconds that moves only in steps that wait.
Poll tasks have their turns only then; the request of a cycle is answered after the planned time.
Requests over HTTP go through a wire and are answered at once.

The calendar does not move in a run.
-/
namespace DeviceHub

/-- What a scripted bridge answers to one request. -/
structure AnswerPlan where
  delay : Nat
  answer : Except RequestError Payload

/-- A bridge that answers by scripts: those of the devices, or the one for all. -/
structure ScriptedBridge where
  name : String
  scripts : Dict (List AnswerPlan)
  /-- How often it was asked about each device. -/
  counts : Dict Nat

namespace ScriptedBridge

/-- What stands for a script for all devices. -/
def anyDevice : String := "*"

/-- What a bridge without a script for a device answers. -/
def noScript : AnswerPlan := ⟨0, .error (.http 404 "no script")⟩

/-- A bridge that was not asked yet. -/
def new (name : String) (scripts : Dict (List AnswerPlan)) : ScriptedBridge := ⟨name, scripts, []⟩

/-- What the bridge answers next about a device. -/
def ask (b : ScriptedBridge) (device : String) : AnswerPlan × ScriptedBridge :=
  let count := (b.counts.get? device).getD 0
  let plan := match b.scripts.get? device <|> b.scripts.get? anyDevice with
    | some script => (Simulation.entry? script count).getD noScript
    | none => noScript
  (plan, { b with counts := b.counts.insert device (count + 1) })

end ScriptedBridge

/-- A request that was sent. -/
structure SentRequest where
  time : Nat
  bridge : String
  method : Method
  path : String
  device : String
  deriving DecidableEq

/-- A request whose answer is under way to a poll task. -/
structure Flight where
  task : Nat
  due : Nat
  answer : Except RequestError Payload

/-- A hub, its bridges and their clock. -/
structure HubRun (τ : Type) where
  wire : Wire τ
  world : τ
  hub : Hub Nat
  /-- The scripted bridges, each known by its place. -/
  bridges : List ScriptedBridge
  now : Nat
  flights : List Flight
  /-- All requests to scripted bridges, the latest first. -/
  sent : List SentRequest

namespace HubRun

variable {τ : Type}

def new (wire : Wire τ) (world : τ) (schemas : SchemaRegistry) : HubRun τ :=
  ⟨wire, world, .new schemas, [], 0, [], []⟩

/-- Gives a bridge a scripted client. -/
def attach (r : HubRun τ) (b : ScriptedBridge) : HubRun τ :=
  { r with
    hub := r.hub.attach b.name (.attached r.bridges.length)
    bridges := r.bridges ++ [b] }

/-- Sends a request; the answer and how long it takes. -/
def send (r : HubRun τ) (client : Client Nat) (device : String) (request : DeviceRequest) :
    AnswerPlan × HubRun τ :=
  match client with
  | .http c =>
    let (answer, refresher, world) :=
      c.fetch r.wire .epoch device request r.hub.refresher r.world
    (⟨0, answer⟩, { r with hub := { r.hub with refresher := refresher }, world := world })
  | .attached number =>
    match r.bridges[number]? with
    | none => (ScriptedBridge.noScript, r)
    | some b =>
      let (plan, b) := b.ask device
      let sent := ⟨r.now, b.name, request.method, request.pathFor device, device⟩
      (plan, { r with bridges := r.bridges.set number b, sent := sent :: r.sent })

/-- Starts the request of a task's cycle. -/
def depart (r : HubRun τ) (n : Nat) : HubRun τ :=
  match r.hub.task? n with
  | none => r
  | some task =>
    let (plan, r) := r.send task.client task.identity.device task.request
    { r with flights := r.flights ++ [⟨n, r.now + plan.delay, plan.answer⟩] }

/-- Gives a task a turn. -/
def wake (r : HubRun τ) (n : Nat) : HubRun τ :=
  let (starts, hub) := r.hub.wake n r.now
  let r := { r with hub := hub }
  if starts then r.depart n else r

/-- The first request whose answer has come, and the others. -/
def landed? (now : Nat) : List Flight → Option (Flight × List Flight)
  | [] => none
  | f :: fs =>
    if f.due ≤ now then some (f, fs)
    else (landed? now fs).map fun (found, others) => (found, f :: others)

/-- The next thing that happens without the clock moving. -/
def turn? (r : HubRun τ) : Option (HubRun τ) :=
  match landed? r.now r.flights with
  | some (f, others) =>
    some { r with hub := r.hub.finish f.task r.now .epoch f.answer, flights := others }
  | none => (r.hub.tasks.findIdx? fun t => t.poller.isReady r.now).map r.wake

/-- When the next thing happens. -/
def next? (r : HubRun τ) : Option Nat :=
  (r.flights.map (·.due) ++ r.hub.tasks.filterMap fun t => t.poller.timer?).min?

/-- Lets everything happen that is due until a time. -/
def runUntil (deadline : Nat) : Nat → HubRun τ → HubRun τ
  | 0, r => { r with now := max r.now deadline }
  | fuel + 1, r =>
    match r.turn? with
    | some r => runUntil deadline fuel r
    | none =>
      match r.next? with
      | some t =>
        if t ≤ deadline then runUntil deadline fuel { r with now := max r.now t }
        else { r with now := max r.now deadline }
      | none => { r with now := max r.now deadline }

/-- Waits until a time. In every millisecond each task may end one cycle, start another and let the
clock move. -/
def waitUntil (r : HubRun τ) (deadline : Nat) : HubRun τ :=
  r.runUntil deadline (4 * (r.hub.tasks.length + 1) * (deadline - r.now + 2))

/-- Lets time pass. -/
def advance (r : HubRun τ) (millis : Nat) : HubRun τ := r.waitUntil (r.now + millis)

/-- Does something to the hub that takes no time. -/
def apply {α : Type} (r : HubRun τ) (f : Hub Nat → α × Hub Nat) : α × HubRun τ :=
  let (a, hub) := f r.hub
  (a, { r with hub := hub })

/-- Sends a command and waits for its answer. -/
def command (r : HubRun τ) (device : String) (request : DeviceRequest) :
    Except HubError Payload × HubRun τ :=
  match r.hub.commandClient device with
  | .error e => (.error e, r)
  | .ok client =>
    let (plan, r) := r.send client device request
    let r := r.advance plan.delay
    r.apply fun hub => hub.commandDone device plan.answer

/-- Asks for a device once, whether the hub has it or not. -/
def pollOnce (r : HubRun τ) (d : DeviceConfig) : Except HubError Snapshot × HubRun τ :=
  match r.hub.resolve d with
  | .error e => (.error e, r)
  | .ok (client, schema) =>
    let (plan, r) := r.send client d.identity.device d.request
    let r := r.advance plan.delay
    (readAnswer schema d.identity .epoch plan.answer, r)

/-- Waits until a cancelled poll task has ended: for the answer to its request, if a cycle is under way. -/
def awaitEnd (r : HubRun τ) (n : Nat) : HubRun τ :=
  if r.hub.hasEnded n then r
  else r.waitUntil (((r.flights.find? fun f => f.task = n).map (·.due)).getD r.now)

/-- Goes on with a call to shut down, step by step. -/
def carryOn : Nat → Hub.ShutdownCall → HubRun τ → HubRun τ
  | 0, _, r => r
  | fuel + 1, call, r =>
    if call.hasReturned then r
    else
      let r := match call.awaited with
        | some n => r.awaitEnd n
        | none => r
      let (call, hub) := call.goOn r.hub
      carryOn fuel call { r with hub := hub }

/-- Shuts the hub down and waits for the cycles under way of its devices. Each device takes a step of the
call to let it go and one to be done with its task. -/
def shutDown (r : HubRun τ) : HubRun τ :=
  let (call, hub) := r.hub.shutdown
  carryOn (2 * call.left.length) call { r with hub := hub }

end HubRun

end DeviceHub
