/-!
# Polling at a fixed delay

A poll task runs one cycle after the other, never two at once: the next starts a full interval after
the last has ended, or earlier when a refresh is asked for between two cycles. Without an interval
only refreshes start cycles. A cancelled task starts no cycle; one that is under way runs to its end.

The task is a state machine. `wake` lets it do what it can do now, `finish` ends a cycle.

Mirrors `Poller` with `refresh_now` and `cancel`, and `poll_loop`, cut where it waits.

* `wake_of_isCancelled`: a cancelled task starts no cycle.
* `wake_of_not_isReady`: a task that is not ready stays as it is.
* `wake_wake`: one turn is all that a task can do at one time.
* `refresh_isCancelled`, `refresh_phase`, `refresh_state`, `refresh_interval`: asking for a refresh
  starts nothing by itself.
* `refresh_of_waits`: a task that waits takes note of it.
* `wake_isCancelled`, `finish_isCancelled`: only `cancel` cancels.
* `finish_interval`: a task keeps its interval.
-/
namespace DeviceHub

/-- What a poll task shows of itself. -/
inductive PollState where
  /-- It waits for the next cycle. -/
  | scheduled
  | running
  /-- It waits for a refresh; there is no timer. -/
  | idle
  /-- It has stopped until the device gets a new start. -/
  | suspended
  | stopped
  deriving DecidableEq

/-- What follows from a cycle. -/
inductive Verdict where
  | goOn
  | suspend
  deriving DecidableEq

/-- The answer to asking for a refresh. -/
inductive RefreshAnswer where
  | accepted
  | skippedRunning
  | inactive
  deriving DecidableEq

namespace PollState

def name : PollState → String
  | .scheduled => "scheduled"
  | .running => "running"
  | .idle => "idle"
  | .suspended => "suspended"
  | .stopped => "stopped"

end PollState

namespace RefreshAnswer

def name : RefreshAnswer → String
  | .accepted => "Accepted"
  | .skippedRunning => "SkippedRunning"
  | .inactive => "Inactive"

end RefreshAnswer

namespace Poller

/-- Where a poll task is. -/
inductive Phase where
  /-- It has not had a turn yet. -/
  | fresh
  | cycling
  /-- It waits, for a time when it has a timer. -/
  | waiting (due : Option Nat)
  | ended
  deriving DecidableEq

end Poller

/-- A poll task. -/
structure Poller where
  /-- The time between two cycles; 0 for no timer. -/
  interval : Nat
  state : PollState
  phase : Poller.Phase
  /-- Whether a refresh was asked for that no cycle has served yet. -/
  isTriggered : Bool
  isCancelled : Bool
  deriving DecidableEq

namespace Poller

/-- A task that has not had a turn yet. -/
def start (interval : Nat) : Poller := ⟨interval, .scheduled, .fresh, false, false⟩

instance : Inhabited Poller := ⟨start 0⟩

/-- Asks for a cycle now. A refresh that is pending already serves every further one. -/
def refresh (p : Poller) : RefreshAnswer × Poller :=
  match p.state with
  | .running => (.skippedRunning, p)
  | .stopped | .suspended => (.inactive, p)
  | .scheduled | .idle => (.accepted, { p with isTriggered := true })

/-- Forbids further cycles. -/
def cancel (p : Poller) : Poller := { p with isCancelled := true }

/-- The task with a cycle under way. -/
def beginCycle (p : Poller) : Poller := { p with state := .running, phase := .cycling }

def stop (p : Poller) : Poller := { p with state := .stopped, phase := .ended }

/-- Gives the task a turn; whether it starts a cycle. -/
def wake (p : Poller) (now : Nat) : Bool × Poller :=
  match p.phase with
  | .fresh => if p.isCancelled then (false, p.stop) else (true, p.beginCycle)
  | .waiting due =>
    if p.isCancelled then (false, p.stop)
    else if p.isTriggered then (true, { p with isTriggered := false }.beginCycle)
    else if due.any fun d => d ≤ now then (true, p.beginCycle)
    else (false, p)
  | .cycling | .ended => (false, p)

/-- Ends the cycle under way. Refreshes asked for meanwhile are dropped. -/
def finish (p : Poller) (now : Nat) (verdict : Verdict) : Poller :=
  let p := { p with isTriggered := false }
  if p.isCancelled then p.stop
  else match verdict with
    | .suspend => { p with state := .suspended, phase := .ended }
    | .goOn =>
      if p.interval = 0 then { p with state := .idle, phase := .waiting none }
      else { p with state := .scheduled, phase := .waiting (some (now + p.interval)) }

/-- When the task wants its next turn because of its timer. -/
def timer? (p : Poller) : Option Nat :=
  match p.phase with
  | .waiting due => due
  | _ => none

/-- Whether the task could do something in a turn now. -/
def isReady (p : Poller) (now : Nat) : Bool :=
  match p.phase with
  | .fresh => true
  | .waiting due => p.isCancelled || p.isTriggered || due.any fun d => d ≤ now
  | .cycling | .ended => false

theorem wake_of_isCancelled (p : Poller) (now : Nat) (h : p.isCancelled = true) :
    (p.wake now).1 = false := by
  unfold wake
  split <;> simp [h]

theorem wake_of_not_isReady {p : Poller} {now : Nat} (h : p.isReady now = false) :
    p.wake now = (false, p) := by
  unfold isReady at h
  unfold wake
  cases hp : p.phase with
  | fresh => simp [hp] at h
  | cycling | ended => rfl
  | waiting due => simp_all

theorem wake_wake (p : Poller) (now : Nat) :
    ((p.wake now).2.wake now) = (false, (p.wake now).2) := by
  unfold wake
  cases hp : p.phase with
  | fresh => by_cases hc : p.isCancelled <;> simp [hc, stop, beginCycle]
  | cycling => simp [hp]
  | ended => simp [hp]
  | waiting due =>
    by_cases hc : p.isCancelled
    · simp [hc, stop]
    · by_cases ht : p.isTriggered
      · simp [hc, ht, beginCycle]
      · by_cases hd : (due.any fun d => decide (d ≤ now)) = true
        · simp [hc, ht, hd, beginCycle]
        · simp [hc, ht, hd, hp]

theorem refresh_isCancelled (p : Poller) : p.refresh.2.isCancelled = p.isCancelled := by
  unfold refresh
  split <;> rfl

theorem wake_isCancelled (p : Poller) (now : Nat) :
    (p.wake now).2.isCancelled = p.isCancelled := by
  unfold wake
  split
  · split <;> rfl
  · split
    · rfl
    · split
      · rfl
      · split <;> rfl
  · rfl
  · rfl

theorem finish_isCancelled (p : Poller) (now : Nat) (verdict : Verdict) :
    (p.finish now verdict).isCancelled = p.isCancelled := by
  unfold finish
  simp only
  split
  · rfl
  · split
    · rfl
    · split <;> rfl

theorem finish_interval (p : Poller) (now : Nat) (verdict : Verdict) :
    (p.finish now verdict).interval = p.interval := by
  unfold finish
  simp only
  split
  · rfl
  · split
    · rfl
    · split <;> rfl

/-- A task that waits for its next cycle keeps in mind that it was asked for one. -/
theorem refresh_of_waits {p : Poller} (h : p.state = .scheduled ∨ p.state = .idle) :
    p.refresh = (.accepted, { p with isTriggered := true }) := by
  unfold refresh
  rcases h with h | h <;> rw [h]

theorem refresh_phase (p : Poller) : p.refresh.2.phase = p.phase := by
  unfold refresh
  split <;> rfl

theorem refresh_state (p : Poller) : p.refresh.2.state = p.state := by
  unfold refresh
  split <;> rfl

theorem refresh_interval (p : Poller) : p.refresh.2.interval = p.interval := by
  unfold refresh
  split <;> rfl

end Poller

end DeviceHub
