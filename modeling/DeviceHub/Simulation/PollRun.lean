import DeviceHub.Poller
import DeviceHub.Simulation.Script

/-!
# Runs of one poll task

A poll task whose cycles take a planned time and end as planned, on a clock of its own in
milliseconds. The clock moves only in steps that wait, and the task has its turns only then.
-/
namespace DeviceHub

/-- What one cycle does. -/
structure CyclePlan where
  work : Nat
  verdict : Verdict
  deriving DecidableEq

/-- A poll task and its clock. -/
structure PollRun where
  script : List CyclePlan
  poller : Poller
  now : Nat
  /-- When the cycle under way ends, and how. -/
  cycle : Option (Nat × Verdict)
  /-- Start and end of every cycle, the latest first. -/
  cycles : List (Nat × Option Nat)
  /-- Whether somebody has waited for the task to stop. -/
  isOver : Bool

namespace PollRun

/-- A task that has not had a turn yet. -/
def start (interval : Nat) (script : List CyclePlan) (isCancelled : Bool) : PollRun :=
  let poller := Poller.start interval
  ⟨script, if isCancelled then poller.cancel else poller, 0, none, [], false⟩

/-- The run with the end of its last cycle noted. -/
def closed (r : PollRun) : List (Nat × Option Nat) :=
  match r.cycles with
  | (begun, _) :: rest => (begun, some r.now) :: rest
  | [] => []

/-- Ends the cycle under way. -/
def finish (r : PollRun) (verdict : Verdict) : PollRun :=
  { r with poller := r.poller.finish r.now verdict, cycle := none, cycles := r.closed }

/-- Gives the task a turn. -/
def wake (r : PollRun) : PollRun :=
  let (starts, poller) := r.poller.wake r.now
  let r := { r with poller := poller }
  if starts then
    let plan := (Simulation.entry? r.script r.cycles.length).getD ⟨0, .goOn⟩
    { r with cycle := some (r.now + plan.work, plan.verdict), cycles := (r.now, none) :: r.cycles }
  else r

/-- The next thing that happens without the clock moving. -/
def turn? (r : PollRun) : Option PollRun :=
  match r.cycle with
  | some (due, verdict) => if due ≤ r.now then some (r.finish verdict) else none
  | none => if r.poller.isReady r.now then some r.wake else none

/-- When the next thing happens. -/
def next? (r : PollRun) : Option Nat :=
  match r.cycle with
  | some (due, _) => some due
  | none => r.poller.timer?

/-- Lets everything happen that is due until a time. -/
def runUntil (deadline : Nat) : Nat → PollRun → PollRun
  | 0, r => { r with now := max r.now deadline }
  | fuel + 1, r =>
    match r.turn? with
    | some r => runUntil deadline fuel r
    | none =>
      match r.next? with
      | some t =>
        if t ≤ deadline then runUntil deadline fuel { r with now := max r.now t }
        else { r with now := max r.now deadline }
      | none => { r with now := max r.now deadline }

/-- Waits until a time. In every millisecond a cycle may start, end and let the next be waited
for. -/
def waitUntil (r : PollRun) (deadline : Nat) : PollRun :=
  r.runUntil deadline (4 * (deadline - r.now + 2))

/-- What can be done in a step. -/
inductive Step where
  | advance (millis : Nat)
  | refresh
  | cancel
  /-- Cancels the task and waits until it has ended. -/
  | stop

/-- What a step answers. -/
inductive Answer where
  | nothing
  | refresh (answer : RefreshAnswer)
  /-- The task was stopped earlier. -/
  | stopped

/-- Does a step. After the task was stopped only the clock moves. -/
def step (r : PollRun) : Step → Answer × PollRun
  | .advance millis => (.nothing, r.waitUntil (r.now + millis))
  | s =>
    if r.isOver then (.stopped, r)
    else match s with
      | .refresh =>
        let (answer, poller) := r.poller.refresh
        (.refresh answer, { r with poller := poller })
      | .cancel => (.nothing, { r with poller := r.poller.cancel })
      | _ =>
        let r := { r with poller := r.poller.cancel, isOver := true }
        (.nothing, r.waitUntil ((r.cycle.map Prod.fst).getD r.now))

end PollRun

end DeviceHub
