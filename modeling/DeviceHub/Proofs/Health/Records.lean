import DeviceHub.Health
import Mathlib.Data.List.Induction

/-!
# What a health tracker records

A tracker is changed by calls about any devices, in any order. What it records about one device
depends on the calls about that device alone, and of these on the outcomes since the device was last
reset or removed: the last outcome gives status and detail, failures are counted back to the last
success, and the last success and the last fault stay in memory. A device that was never reset begins
with its first outcome as if it had been.

`calls` reads the calls about a device off a history, the latest first, and `recordOf` says in closed
form what their outcomes leave behind.

* `health_recordOf`: one more outcome leaves behind what it makes of the record before.
* `get?_run`: a record is what the calls about its device leave behind.
* `records`: what the tracker says, in terms of the calls.
-/
namespace DeviceHub

namespace HealthOutcome

/-- The time of a success. -/
def success? : HealthOutcome → Option Instant
  | .success _ now => some now
  | _ => none

/-- What was wrong. -/
def fault? : HealthOutcome → Option String
  | .success .. => none
  | .failure _ message => some message
  | .configError detail => some detail

def isFailure : HealthOutcome → Bool
  | .failure .. => true
  | _ => false

/-- The failures since the last success, of outcomes that come the latest first. A refused configuration
is no failure and ends no row of failures. -/
def failuresSinceSuccess (outcomes : List HealthOutcome) : Nat :=
  (outcomes.takeWhile fun o => o.success?.isNone).countP isFailure

/-- What outcomes leave behind, the latest first. -/
def recordOf (outcomes : List HealthOutcome) : DeviceHealth where
  status := (outcomes.head?.map status).getD .offline
  detail := (outcomes.head?.map detail).getD (some "not yet polled")
  failures := min (failuresSinceSuccess outcomes) failureLimit
  lastSuccess := outcomes.findSome? success?
  lastError := outcomes.findSome? fault?

theorem health_recordOf (o : HealthOutcome) (earlier : List HealthOutcome) :
    o.health (recordOf earlier) = recordOf (o :: earlier) := by
  cases o with
  | success | configError => rfl
  | failure kind message =>
    have hmore : failuresSinceSuccess (.failure kind message :: earlier) =
        failuresSinceSuccess earlier + 1 := List.countP_cons_of_pos rfl
    have hcount : min (min (failuresSinceSuccess earlier) failureLimit + 1) failureLimit =
        min (failuresSinceSuccess (.failure kind message :: earlier)) failureLimit := by
      omega
    exact congrArg (fun n => DeviceHealth.mk _ _ n _ _) hcount

theorem suspends_iff (o : HealthOutcome) :
    o.suspends = true ↔ (∃ detail, o = .configError detail) ∨
      ∃ kind message, o = .failure kind message ∧ (kind = .auth ∨ kind = .config) := by
  cases o with
  | success => simp [suspends]
  | failure kind message => cases kind <;> simp [suspends, FailureClass.needsAttention]
  | configError => simp [suspends]

end HealthOutcome

namespace HealthTracker

/-! ## Histories -/

/-- A call that can change a tracker. -/
inductive Act where
  | reset (device : String)
  | remove (device : String)
  | outcome (device : String) (o : HealthOutcome)
  deriving DecidableEq

namespace Act

/-- The device that a call is about. -/
def device : Act → String
  | .reset device | .remove device | .outcome device _ => device

def outcome? : Act → Option HealthOutcome
  | .outcome _ o => some o
  | _ => none

/-- Whether the device is tracked after a call about it. -/
def tracks : Act → Bool
  | .remove _ => false
  | _ => true

end Act

def step (t : HealthTracker) : Act → HealthTracker
  | .reset device => t.reset device
  | .remove device => t.remove device
  | .outcome device o => t.apply device o

/-- A tracker after some calls, the first call first. -/
def run (acts : List Act) : HealthTracker := acts.foldl step []

/-- The calls about a device, the latest first. -/
def calls (device : String) (acts : List Act) : List Act :=
  (acts.filter fun a => a.device = device).reverse

/-- The outcomes of a device since it was last reset or removed, the latest first. -/
def outcomes (device : String) (acts : List Act) : List HealthOutcome :=
  ((calls device acts).takeWhile fun a => a.outcome?.isSome).filterMap Act.outcome?

/-- Whether a device is tracked: there was a call about it, and the last one did not remove it. -/
def isTracked (device : String) (acts : List Act) : Bool := (calls device acts).head?.any Act.tracks

/-- What calls leave behind about a device. -/
def record? (device : String) (acts : List Act) : Option DeviceHealth :=
  if isTracked device acts then some (HealthOutcome.recordOf (outcomes device acts)) else none

variable {device : String} {acts : List Act} {a : Act}

theorem run_concat (acts : List Act) (a : Act) : run (acts ++ [a]) = (run acts).step a := by
  simp [run]

theorem calls_concat (device : String) (acts : List Act) (a : Act) :
    calls device (acts ++ [a]) =
      if a.device = device then a :: calls device acts else calls device acts := by
  unfold calls
  by_cases h : a.device = device <;> simp [h]

theorem calls_concat_self (acts : List Act) (a : Act) :
    calls a.device (acts ++ [a]) = a :: calls a.device acts :=
  (calls_concat ..).trans (if_pos rfl)

theorem outcomes_concat (acts : List Act) (device : String) (o : HealthOutcome) :
    outcomes device (acts ++ [.outcome device o]) = o :: outcomes device acts := by
  have hcalls : calls device (acts ++ [.outcome device o]) =
      .outcome device o :: calls device acts := calls_concat_self acts (.outcome device o)
  unfold outcomes
  rw [hcalls]
  rfl

/-- A device that is not tracked has no outcomes that count. -/
theorem outcomes_of_not_isTracked (h : isTracked device acts = false) :
    outcomes device acts = [] := by
  unfold isTracked at h
  unfold outcomes
  cases hcalls : calls device acts with
  | nil => rfl
  | cons a past =>
    rw [hcalls] at h
    cases a with
    | reset | outcome => cases h
    | remove => rfl

/-- What an outcome finds: a device that is not tracked counts as one that was just reset. -/
theorem record?_getD (device : String) (acts : List Act) :
    (record? device acts).getD .initial = HealthOutcome.recordOf (outcomes device acts) := by
  unfold record?
  split
  · rfl
  · next h =>
    rw [outcomes_of_not_isTracked (by simpa using h)]
    rfl

/-! ## What is kept of a device -/

theorem get?_step_of_ne (t : HealthTracker) (h : a.device ≠ device) :
    Dict.get? (t.step a) device = Dict.get? t device := by
  cases a with
  | reset d => exact (get?_reset ..).trans (if_neg h)
  | remove d => exact (get?_remove ..).trans (if_neg h)
  | outcome d o => exact get?_apply_other t o h

/-- A call about the device leaves behind what is said of the calls so far and this one. -/
theorem get?_step_self {t : HealthTracker} (h : Dict.get? t a.device = record? a.device acts) :
    Dict.get? (t.step a) a.device = record? a.device (acts ++ [a]) := by
  cases a with
  | reset d =>
    have hcalls : calls d (acts ++ [.reset d]) = .reset d :: calls d acts :=
      calls_concat_self acts (.reset d)
    refine (get?_reset ..).trans ((if_pos rfl).trans ?_)
    simp only [Act.device, record?, isTracked, outcomes, hcalls]
    rfl
  | remove d =>
    have hcalls : calls d (acts ++ [.remove d]) = .remove d :: calls d acts :=
      calls_concat_self acts (.remove d)
    refine (get?_remove ..).trans ((if_pos rfl).trans ?_)
    simp only [Act.device, record?, isTracked, hcalls]
    rfl
  | outcome d o =>
    have h : Dict.get? t d = record? d acts := h
    have hcalls : calls d (acts ++ [.outcome d o]) = .outcome d o :: calls d acts :=
      calls_concat_self acts (.outcome d o)
    have htracked : isTracked d (acts ++ [.outcome d o]) = true := by
      unfold isTracked
      rw [hcalls]
      rfl
    calc Dict.get? (t.apply d o) d
      _ = some (o.health ((record? d acts).getD .initial)) := by
        rw [get?_apply, transition, h]
      _ = some (HealthOutcome.recordOf (o :: outcomes d acts)) := by
        rw [record?_getD, HealthOutcome.health_recordOf]
      _ = record? d (acts ++ [.outcome d o]) := by
        rw [record?, if_pos htracked, outcomes_concat]

theorem record?_concat_of_ne (h : a.device ≠ device) :
    record? device (acts ++ [a]) = record? device acts := by
  have hcalls : calls device (acts ++ [a]) = calls device acts :=
    (calls_concat ..).trans (if_neg h)
  unfold record? isTracked outcomes
  rw [hcalls]

/-- By induction on the calls, the last one first. -/
theorem get?_run (device : String) (acts : List Act) :
    Dict.get? (run acts) device = record? device acts := by
  induction acts using List.reverseRecOn with
  | nil => rfl
  | append_singleton acts a ih =>
    rw [run_concat]
    by_cases h : a.device = device
    · subst h
      exact get?_step_self ih
    · rw [get?_step_of_ne _ h, record?_concat_of_ne h, ih]

/-! ## What a tracker says -/

/-- What a tracker says of a device after some calls. -/
structure Records (device : String) (acts : List Act) : Prop where
  /-- A device is tracked when there was a call about it and the last one did not remove it. -/
  tracked : (Dict.get? (run acts) device).isSome = isTracked device acts
  /-- Right after a reset, and before any outcome, the record is the initial one. -/
  initial : ∀ health, Dict.get? (run acts) device = some health → outcomes device acts = [] →
    health = .initial
  /-- The last outcome alone gives status and detail. -/
  shown : ∀ health, Dict.get? (run acts) device = some health → ∀ last earlier,
    outcomes device acts = last :: earlier → health.status = last.status ∧ health.detail = last.detail
  /-- Failures are counted back to the last success, as far as 32 bits go. -/
  failures : ∀ health, Dict.get? (run acts) device = some health →
    health.failures = min (HealthOutcome.failuresSinceSuccess (outcomes device acts)) 0xffffffff
  lastSuccess : ∀ health, Dict.get? (run acts) device = some health →
    health.lastSuccess = (outcomes device acts).findSome? HealthOutcome.success?
  lastError : ∀ health, Dict.get? (run acts) device = some health →
    health.lastError = (outcomes device acts).findSome? HealthOutcome.fault?
  /-- An outcome answers the record that there is after it. -/
  answered : ∀ o, Dict.get? (run (acts ++ [.outcome device o])) device =
    some ((run acts).transition device o).health
  /-- It answers a change when status or detail are others than before. -/
  changed : ∀ o, ((run acts).transition device o).isChange = true ↔
    let before := (Dict.get? (run acts) device).getD .initial
    o.status ≠ before.status ∨ o.detail ≠ before.detail
  /-- It answers that polling has to stop for refused configurations, and for failures that only a new
  configuration can help. -/
  suspends : ∀ o, ((run acts).transition device o).suspends = true ↔
    (∃ detail, o = .configError detail) ∨
      ∃ kind message, o = .failure kind message ∧ (kind = .auth ∨ kind = .config)
  /-- A call about another device is not noticed. -/
  others : ∀ a : Act, a.device ≠ device →
    Dict.get? (run (acts ++ [a])) device = Dict.get? (run acts) device

theorem recordOf_of_get? {health : DeviceHealth}
    (h : Dict.get? (run acts) device = some health) :
    health = HealthOutcome.recordOf (outcomes device acts) := by
  rw [get?_run] at h
  rw [← record?_getD, h, Option.getD_some]

/-- The record of a device, after any calls about any devices. -/
theorem records (device : String) (acts : List Act) : Records device acts where
  tracked := by
    rw [get?_run, record?]
    cases isTracked device acts <;> rfl
  initial health h houtcomes := by
    rw [recordOf_of_get? h, houtcomes]
    rfl
  shown health h last earlier houtcomes := by
    rw [recordOf_of_get? h, houtcomes]
    exact ⟨rfl, rfl⟩
  failures health h := by
    rw [recordOf_of_get? h]
    rfl
  lastSuccess health h := by
    rw [recordOf_of_get? h]
    rfl
  lastError health h := by
    rw [recordOf_of_get? h]
    rfl
  answered o := by
    rw [run_concat]
    exact get?_apply ..
  changed o := by
    simp only [transition, HealthOutcome.health, decide_eq_true_eq, ne_comm]
  suspends := HealthOutcome.suspends_iff
  others a ha := by rw [run_concat, get?_step_of_ne _ ha]

/-- A refused configuration keeps the count of failures and the time of the last success. -/
example :
    let acts : List Act := [.reset "d", .outcome "d" (.success true .epoch),
      .outcome "d" (.failure .transient "timeout"), .outcome "e" (.success true .epoch),
      .outcome "d" (.configError "bad")]
    Dict.get? (run acts) "d" =
      some ⟨.configError, some "bad", 1, some .epoch, some "bad"⟩ := by
  decide +kernel

end HealthTracker

end DeviceHub
