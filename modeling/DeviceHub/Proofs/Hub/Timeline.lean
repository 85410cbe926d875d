import DeviceHub.Proofs.Hub.Run

/-!
# A hub on a clock

A hub with all requests about its devices, on a clock that counts milliseconds. Calls come whenever
they like, also several at one time; poll tasks have their turns and reports are heard in any order; but
the clock moves only while nothing is left to do. What vendors report, and when, is up to them: it may
depend on all that they were asked so far, by whomever.

A command and the single poll of a device are two acts each, since other things happen while they wait.

The calls are those of `Engine`; `send_command` and `poll_once` are the two that wait.

* `Timeline.step`: what can happen.
* `Timeline.isSettled`: when the clock may move.
-/
namespace DeviceHub

variable {κ : Type}

/-- What a vendor is asked about a device. -/
structure Inquiry (κ : Type) where
  time : Nat
  client : Client κ
  request : DeviceRequest

/-- Who waits for a report. -/
inductive Waiter where
  | task (n : Nat)
  | command
  | pollOnce (identity : Identity) (schema : Schema)

/-- A request about a device, and who still waits for the report. -/
structure Query (κ : Type) where
  inquiry : Inquiry κ
  waiter : Option Waiter

/-- What an operation on a device answers. -/
inductive Answer where
  | done (result : Except HubError Unit)
  | refreshed (result : Except HubError RefreshAnswer)
  | commanded (result : Except HubError Payload)
  | polled (result : Except HubError Snapshot)

/-- What a vendor can report about a device. -/
abbrev Report := { answer : Except RequestError Payload // answerIsFinite answer = true }

/-- What is reported on the request of a number about a device, if the report is there at a time, when
the vendors have been asked this much about each device. -/
abbrev Vendor (κ : Type) :=
  (asked : String → List (Inquiry κ)) → (device : String) → (number time : Nat) → Option Report

/-- A hub, the time, the requests about each device, the earliest first, and what the operations on it
answered, the latest first. -/
structure Timeline (κ : Type) where
  hub : Hub κ
  now : Nat
  queries : Dict (List (Query κ))
  answers : Dict (List (Nat × Answer))

namespace Hub

/-- The acts that are calls: all but what poll tasks and commands do by themselves. -/
def Act.isCall : Act κ → Bool
  | .wake .. | .finish .. | .commandDone .. => false
  | _ => true

/-- What a call on a device answers. -/
def answer? (h : Hub κ) : Act κ → Option (String × Answer)
  | .enroll c => some (c.identity.device, .done (h.enroll c).1)
  | .dispose device => some (device, .done (h.dispose device).1)
  | .restart device => some (device, .done (h.restart device).1)
  | .update c => some (c.identity.device, .done (h.update c).1)
  | .refresh device => some (device, .refreshed (h.refresh device).1)
  | _ => none

end Hub

namespace Timeline

/-- What can happen. -/
inductive Act (κ : Type) where
  /-- The clock moves on. -/
  | tick
  /-- A poll task has its turn. -/
  | turn (n : Nat)
  /-- The report on a request about a device is heard. -/
  | hear (device : String) (number : Nat)
  | call (a : Hub.Act κ)
  | command (device : String) (request : DeviceRequest)
  /-- A device is asked once. -/
  | pollOnce (c : DeviceConfig)

def new (schemas : SchemaRegistry) : Timeline κ := ⟨.new schemas, 0, [], []⟩

def log (s : Timeline κ) (device : String) : List (Query κ) := (s.queries.get? device).getD []

/-- What operations on a device answered, and when. -/
def answersOf (s : Timeline κ) (device : String) : List (Nat × Answer) :=
  (s.answers.get? device).getD []

/-- All that was asked about a device. -/
def asked (s : Timeline κ) (device : String) : List (Inquiry κ) := (s.log device).map (·.inquiry)

/-- Writes down another log of a device. -/
def withLog (s : Timeline κ) (device : String) (log : List (Query κ)) : Timeline κ :=
  { s with queries := s.queries.insert device log }

/-- Sends a request about a device. -/
def ask (s : Timeline κ) (client : Client κ) (device : String) (request : DeviceRequest)
    (waiter : Waiter) : Timeline κ :=
  s.withLog device (s.log device ++ [⟨⟨s.now, client, request⟩, some waiter⟩])

/-- Notes what an operation on a device answered. -/
def tell (s : Timeline κ) (device : String) (a : Answer) : Timeline κ :=
  { s with answers := s.answers.insert device ((s.now, a) :: s.answersOf device) }

section

variable (calendar : Nat → Instant) (vendor : Vendor κ) (s : Timeline κ)

/-- The report on a request, if it is there. -/
def report? (device : String) (number : Nat) : Option Report := vendor s.asked device number s.now

/-- Whether somebody waits for a report that is there. -/
def isDue (device : String) (number : Nat) : Bool :=
  ((s.log device)[number]?.bind (·.waiter)).isSome && (s.report? vendor device number).isSome

/-- Whether nothing is left to do at this time. -/
def isSettled : Bool :=
  (s.hub.tasks.all fun t => !t.poller.isReady s.now) &&
    s.queries.all fun e => (List.range e.2.length).all fun number => !s.isDue vendor e.1 number

/-- Gives a poll task a turn; if it starts a cycle, its device is asked. -/
def turn (n : Nat) : Timeline κ :=
  match s.hub.task? n with
  | none => s
  | some t =>
    let (starts, hub) := s.hub.wake n s.now
    let s := { s with hub := hub }
    if starts then s.ask t.client t.identity.device t.request (.task n) else s

/-- Hands a report about a device to who waits for it. -/
def deliver (device : String) (report : Report) : Waiter → Timeline κ
  | .task n => { s with hub := s.hub.finish n s.now (calendar s.now) report }
  | .command =>
    let (result, hub) := s.hub.commandDone device report
    { s with hub := hub }.tell device (.commanded result)
  | .pollOnce identity schema =>
    s.tell device (.polled (readAnswer schema identity (calendar s.now) report))

/-- Hears the report on a request. -/
def hear (device : String) (number : Nat) : Timeline κ :=
  match (s.log device)[number]?, s.report? vendor device number with
  | some q, some report =>
    match q.waiter with
    | some waiter =>
      (s.withLog device ((s.log device).set number { q with waiter := none })).deliver calendar device
        report waiter
    | none => s
  | _, _ => s

/-- The timeline after an act; as before when the act cannot happen. -/
def step : Act κ → Timeline κ
  | .tick => if s.isSettled vendor then { s with now := s.now + 1 } else s
  | .turn n => s.turn n
  | .hear device number => s.hear calendar vendor device number
  | .call a =>
    if a.isCall then
      let s' := { s with hub := s.hub.step a }
      match s.hub.answer? a with
      | some (device, answer) => s'.tell device answer
      | none => s'
    else s
  | .command device request =>
    match s.hub.commandClient device with
    | .error e => s.tell device (.commanded (.error e))
    | .ok client => s.ask client device request .command
  | .pollOnce c =>
    match s.hub.resolve c with
    | .error e => s.tell c.identity.device (.polled (.error e))
    | .ok (client, schema) =>
      s.ask client c.identity.device c.request (.pollOnce c.identity schema)

def run (acts : List (Act κ)) : Timeline κ := acts.foldl (step calendar vendor) s

end

end Timeline

end DeviceHub
