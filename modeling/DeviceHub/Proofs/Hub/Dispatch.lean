import DeviceHub.Proofs.Http.Traffic
import DeviceHub.Proofs.Hub.Clients

/-!
# Requests on their way

A hub with all the requests that it sends over HTTP: for the cycles of its poll tasks, for commands, and
for devices that are asked once. Each asks for a credential of its client's bridge, goes out when it has
one, and once more with another when the first was refused; each of these steps comes when it likes,
and between them the hub goes on, also with the registration of bridges. Sources answer refreshes
whenever and with whatever they like. To ask for a credential takes one turn, in which nothing else
happens.

Which bridges were taken in is noted on the way: of a request, until its client was chosen and until it
asked for its credential.

The requests are those of `HttpDeviceClient.fetch`, for the cycles of `Engine.initialize_device`, for
`send_command` and for `poll_once`.

* `Dispatch.step`: what can happen.
* `Hub.turnover_step`: what that is for clients and credentials.
-/
namespace DeviceHub

variable {κ : Type}

/-- A time at which the source of a bridge was replaced. -/
structure Intake where
  config : BridgeConfig
  /-- Whether the bridge got its client as well. -/
  isComplete : Bool
  /-- Whether all refreshes of the bridge were decided. -/
  isQuiet : Bool
  deriving DecidableEq

namespace Intake

/-- Whether nothing is left of what the bridge was before. -/
def isClean (i : Intake) : Bool := i.isComplete && i.isQuiet

/-- The latest of a bridge. -/
def latest? (log : List Intake) (bridge : String) : Option Intake :=
  log.find? fun i => i.config.id = bridge

/-- The latest of a bridge that gave it its client. -/
def complete? (log : List Intake) (bridge : String) : Option Intake :=
  log.find? fun i => i.config.id = bridge && i.isComplete

end Intake

/-- A request for a device. -/
structure Errand where
  client : HttpClient
  device : String
  request : DeviceRequest
  phase : Fetch.Phase
  /-- The number of the refresh that it waits for. -/
  awaited : Option Nat
  /-- What was noted when its client was chosen, and when it last asked for a credential. -/
  chosen : List Intake
  asked : List Intake

namespace Errand

/-- Whether it is about to ask for a credential. -/
def isAsking (e : Errand) : Bool := e.phase.isAcquiring && e.awaited.isNone

/-- What is sent once there is a credential. -/
def message? (e : Errand) : Option HttpRequest :=
  e.phase.sent?.bind fun c => (e.client.message e.device e.request c).toOption

end Errand

/-- The client, if it is one over HTTP. -/
def Client.http? : Client κ → Option HttpClient
  | .http client => some client
  | .attached _ => none

namespace Refresher

/-- Whether all refreshes of a bridge are decided. -/
def isQuiet {σ : Type} (r : Refresher σ) (bridge : String) : Bool :=
  r.refreshes.all fun f => f.bridge ≠ bridge || f.phase.outcome?.isSome

end Refresher

namespace Hub

/-- The intake of a bridge in an act, if there is one. -/
def intake? (h : Hub κ) : Act κ → Option Intake
  | .register fault b =>
    match (h.register fault b).1 with
    | .ok () => some ⟨b, true, h.refresher.isQuiet b.id⟩
    | .error _ =>
      if b.fault?.isNone && !b.auth.connects then some ⟨b, false, h.refresher.isQuiet b.id⟩ else none
  | _ => none

/-- The task that starts a cycle in an act, and its number. -/
def starts? (h : Hub κ) : Act κ → Option (Nat × PollTask κ)
  | .wake n time => if (h.wake n time).1 then (h.task? n).map fun t => (n, t) else none
  | _ => none

/-- What only bridges that are taken in and their requests do themselves. -/
def Act.isReserved : Act κ → Bool
  | .renew _ | .attach _ (.http _) => true
  | _ => false

end Hub

/-- A hub and its requests. -/
structure Dispatch (κ : Type) where
  hub : Hub κ
  now : Instant
  /-- All intakes, the latest first. -/
  intakes : List Intake
  /-- The intakes until each poll task was started. -/
  origins : List (List Intake)
  errands : List Errand
  /-- The requests that went out, as they were then, the latest first. -/
  sent : List Errand

namespace Dispatch

/-- What can happen. -/
inductive Act (κ : Type) where
  /-- Anything that happens to a hub, but for what its requests do. -/
  | hub (a : Hub.Act κ)
  | tick (now : Instant)
  | command (device : String) (request : DeviceRequest)
  /-- A device is asked once. -/
  | pollOnce (d : DeviceConfig)
  /-- A request asks for a credential. -/
  | ask (i : Nat)
  /-- A request hears of the refresh that it waits for. -/
  | hear (i : Nat)
  /-- A request is answered. -/
  | answer (i : Nat) (result : Except RequestError Payload)
  | begin (n : Nat)
  | receive (n : Nat) (result : Except RequestError Credential)
  | resume (n : Nat)
  | close (n : Nat)

def new (schemas : SchemaRegistry) : Dispatch κ := ⟨.new schemas, .epoch, [], [], [], []⟩

def withRefresher (s : Dispatch κ) (r : Refresher TokenSource) : Dispatch κ :=
  { s with hub := { s.hub with refresher := r } }

/-- A request that has just begun. -/
def errand (s : Dispatch κ) (client : HttpClient) (device : String) (request : DeviceRequest)
    (chosen : List Intake) : Errand :=
  ⟨client, device, request, .acquiring, none, chosen, s.intakes⟩

/-- The request of a cycle that starts. -/
def departing? (s : Dispatch κ) (a : Hub.Act κ) : Option Errand := do
  let (n, t) ← s.hub.starts? a
  let client ← t.client.http?
  let chosen ← s.origins[n]?
  some (s.errand client t.identity.device t.request chosen)

/-- Begins a request for which a client was chosen just now. -/
def depart (s : Dispatch κ) (device : String) (request : DeviceRequest)
    (client : Except HubError (Client κ)) : Dispatch κ :=
  match client with
  | .ok (.http client) =>
    { s with errands := s.errands ++ [s.errand client device request s.intakes] }
  | _ => s

/-- A request has its credential, or cannot have one; with a credential it goes out. -/
def credit (s : Dispatch κ) (i : Nat) (e : Errand) (result : Except RequestError Credential) :
    Dispatch κ :=
  let e := { e with phase := e.phase.credited result, awaited := none }
  { s with
    errands := s.errands.set i e
    sent := (if e.message?.isSome then [e] else []) ++ s.sent }

/-- What becomes of a request that has asked. -/
def called (s : Dispatch κ) (i : Nat) (e : Errand) : Refresher.Call → Dispatch κ
  | .awaits n => { s with errands := s.errands.set i { e with awaited := some n } }
  | .granted c => s.credit i e (.ok c)
  | .refused fault => s.credit i e (.error fault)

/-- The dispatch with another hub, and the notes about what has made another of it. -/
def noted (s : Dispatch κ) (hub : Hub κ) (intake : Option Intake) : Dispatch κ :=
  let intakes := intake.toList ++ s.intakes
  { s with
    hub := hub
    intakes := intakes
    origins := s.origins ++ List.replicate (hub.tasks.length - s.hub.tasks.length) intakes }

/-- What happens to the hub, and the request that it starts, if it does. -/
def follow (s : Dispatch κ) (a : Hub.Act κ) : Dispatch κ :=
  { s.noted (s.hub.step a) (s.hub.intake? a) with errands := s.errands ++ (s.departing? a).toList }

/-- The dispatch after an act; as before when the act cannot happen. -/
def step (s : Dispatch κ) : Act κ → Dispatch κ
  | .hub a => if a.isReserved then s else s.follow a
  | .tick now => { s with now := now }
  | .command device request => s.depart device request (s.hub.commandClient device)
  | .pollOnce d => s.depart d.identity.device d.request ((s.hub.resolve d).map Prod.fst)
  | .ask i =>
    match s.errands[i]? with
    | some e =>
      if e.isAsking then
        let (call, refresher) := s.hub.refresher.call e.client.bridge s.now
        (s.withRefresher refresher).called i { e with asked := s.intakes } call
      else s
    | none => s
  | .hear i =>
    match s.errands[i]? with
    | some e =>
      match e.awaited.bind s.hub.refresher.outcome? with
      | some result => s.credit i e result
      | none => s
    | none => s
  | .answer i result =>
    match s.errands[i]? with
    | some e =>
      let s := { s with errands := s.errands.set i { e with phase := e.phase.answered result } }
      match e.phase.refused? result with
      | some c => s.withRefresher (s.hub.refresher.invalidateIf e.client.bridge c)
      | none => s
    | none => s
  | .begin n => s.withRefresher (s.hub.refresher.begin n)
  | .receive n result => s.withRefresher (s.hub.refresher.receive n result)
  | .resume n => s.withRefresher (s.hub.refresher.resume n)
  | .close n => s.withRefresher (s.hub.refresher.close n)

def run (s : Dispatch κ) (acts : List (Act κ)) : Dispatch κ := acts.foldl step s

end Dispatch

/-! ## What that is for clients and credentials -/

namespace Hub

/-- What an act can do to the clients and the credentials of a hub, and the intake that it is. -/
inductive Turnover (h : Hub κ) : Hub κ → Option Intake → Prop where
  | kept {h' : Hub κ} (keeps : KeepsClients h h') : Turnover h h' none
  | attached (bridge : String) (client : κ) :
      Turnover h (h.attach bridge (.attached client)) none
  /-- The source of a bridge is replaced, but its client is not. -/
  | replaced (b : BridgeConfig) :
      Turnover h (h.withSource b) (some ⟨b, false, h.refresher.isQuiet b.id⟩)
  | taken (b : BridgeConfig) :
      Turnover h ((h.withSource b).attach b.id (.http b.client))
        (some ⟨b, true, h.refresher.isQuiet b.id⟩)

theorem turnover_step (h : Hub κ) {a : Act κ} (ha : a.isReserved = false) :
    Turnover h (h.step a) (h.intake? a) := by
  cases a with
  | attach bridge client =>
    cases client with
    | http => cases ha
    | attached client => exact .attached bridge client
  | renew => cases ha
  | register fault b =>
    simp only [step, intake?]
    rcases register_cases fault h b with ⟨hanswer, hafter, hkept⟩ | ⟨hanswer, hafter, hvalid, hfixed⟩ |
      ⟨hanswer, hafter⟩
    · rw [hafter]
      have hnone : (b.fault?.isNone && !b.auth.connects) = false := by
        rcases hkept with hfault | hconnects
        · simp [Option.isNone_iff_eq_none, hfault]
        · simp [hconnects]
      split
      · next hok => exact absurd hok hanswer
      · rw [if_neg (by rw [hnone]; exact Bool.false_ne_true)]
        exact .kept (keepsClients_of_eq rfl rfl rfl)
    · rw [hafter]
      split
      · next hok => exact absurd hok hanswer
      · rw [if_pos (by simp [hvalid, hfixed])]
        exact .replaced b
    · rw [hafter, hanswer]
      exact .taken b
  | _ => exact .kept (keepsClients_step h rfl)

end Hub

end DeviceHub
