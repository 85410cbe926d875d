import DeviceHub.Poller

/-!
# Runs of a poll task

A poll task on a clock: turns of the task, ends of cycles with any verdict and after any time, calls
that ask for a refresh or cancel the task, in any order. The clock moves by one unit at a time, and
only while the task has nothing to do, so that a timer fires exactly when it is due; at one time any
number of other things can happen. What cannot happen is skipped.

What has happened to the task is kept as a history, and every statement about its schedule is one
about histories. `stage` reads off a history what the task is waiting for. A history `Fits` when its
cycles start and end as they may.

The task is that of `Poller.spawn`, with `poll_loop`.

* `run_extends`: what happens next depends on the task and the time alone.
* `stage_of_unbegun`, `stage_since_begun`, `stage_since_ended`, `stage_since_closed`: what a history has
  come to.
* `Fits.begun_notMem`: no cycle starts once the task is cancelled.
-/
namespace DeviceHub

namespace Polling

/-- Something that has happened to a poll task, and when. -/
inductive Note where
  | begun (time : Nat)
  | ended (time : Nat) (verdict : Verdict)
  /-- Somebody asked for a refresh. -/
  | asked (time : Nat) (answer : RefreshAnswer)
  | cancelled (time : Nat)
  deriving DecidableEq

def Note.time : Note → Nat
  | .begun t | .ended t _ | .asked t _ | .cancelled t => t

/-- What can happen. -/
inductive Act where
  /-- The clock moves on. -/
  | tick
  /-- The task has its turn. -/
  | turn
  /-- The cycle under way ends. -/
  | finish (verdict : Verdict)
  | refresh
  | cancel

end Polling

/-- A poll task, the time, and what has happened to the task, the latest first. -/
structure Polling where
  poller : Poller
  now : Nat
  history : List Polling.Note

namespace Polling

/-- A task that is started at a time. -/
def start (interval spawned : Nat) : Polling := ⟨.start interval, spawned, []⟩

def note (s : Polling) (n : Note) : Polling := { s with history := n :: s.history }

/-- The run after an act; as before when the act cannot happen. -/
def step (s : Polling) : Act → Polling
  | .tick => if s.poller.isReady s.now then s else { s with now := s.now + 1 }
  | .turn =>
    let (starts, poller) := s.poller.wake s.now
    let s' := { s with poller := poller }
    if starts then s'.note (.begun s.now) else s'
  | .finish verdict =>
    if s.poller.phase = .cycling then
      { s with poller := s.poller.finish s.now verdict }.note (.ended s.now verdict)
    else s
  | .refresh =>
    let (answer, poller) := s.poller.refresh
    { s with poller := poller }.note (.asked s.now answer)
  | .cancel => { s with poller := s.poller.cancel }.note (.cancelled s.now)

def run (s : Polling) (acts : List Act) : Polling := acts.foldl step s

/-- What an act does depends on the task and the time, and not on what happened before. -/
theorem step_extends (poller : Poller) (now : Nat) (a : Act) :
    ∃ poller' now' added, ∀ history,
      step ⟨poller, now, history⟩ a = ⟨poller', now', added ++ history⟩ := by
  cases a with
  | tick =>
    by_cases hready : poller.isReady now = true
    · exact ⟨poller, now, [], fun history => by simp [step, hready]⟩
    · exact ⟨poller, now + 1, [], fun history => by simp [step, hready]⟩
  | turn =>
    by_cases hstarts : (poller.wake now).1 = true
    · exact ⟨_, now, [.begun now], fun history => by simp [step, hstarts, note]; rfl⟩
    · exact ⟨_, now, [], fun history => by simp [step, hstarts]; rfl⟩
  | finish verdict =>
    by_cases hphase : poller.phase = .cycling
    · exact ⟨_, now, [.ended now verdict], fun history => by simp [step, hphase, note]; rfl⟩
    · exact ⟨poller, now, [], fun history => by simp [step, hphase]⟩
  | refresh => exact ⟨poller.refresh.2, now, [.asked now poller.refresh.1], fun history => rfl⟩
  | cancel => exact ⟨poller.cancel, now, [.cancelled now], fun history => rfl⟩

theorem run_extends (poller : Poller) (now : Nat) (acts : List Act) :
    ∃ poller' now' added, ∀ history,
      run ⟨poller, now, history⟩ acts = ⟨poller', now', added ++ history⟩ := by
  induction acts generalizing poller now with
  | nil => exact ⟨poller, now, [], fun history => rfl⟩
  | cons a acts ih =>
    obtain ⟨poller₁, now₁, one, hone⟩ := step_extends poller now a
    obtain ⟨poller₂, now₂, added, hadded⟩ := ih poller₁ now₁
    refine ⟨poller₂, now₂, added ++ one, fun history => ?_⟩
    have hrun : run ⟨poller, now, history⟩ (a :: acts) = run ⟨poller₁, now₁, one ++ history⟩ acts := by
      rw [← hone history]
      rfl
    rw [hrun, hadded, List.append_assoc]

/-! ## Histories -/

/-- Whether a cycle is under way. -/
def isUnderWay : List Note → Bool
  | [] => false
  | .begun _ :: _ => true
  | .ended .. :: _ => false
  | .asked .. :: earlier | .cancelled _ :: earlier => isUnderWay earlier

/-- Whether the task was cancelled. -/
def isCancelled : List Note → Bool
  | [] => false
  | .cancelled _ :: _ => true
  | .begun _ :: earlier | .ended .. :: earlier | .asked .. :: earlier => isCancelled earlier

/-- When a refresh was asked for first. -/
def firstAsked : List Note → Option Nat
  | [] => none
  | .asked t _ :: earlier => (firstAsked earlier).or (some t)
  | .begun _ :: earlier | .ended .. :: earlier | .cancelled _ :: earlier => firstAsked earlier

/-- When the timer is due that is set at the end of a cycle. -/
def timer (interval ended : Nat) : Option Nat :=
  if interval = 0 then none else some (ended + interval)

/-- When the next cycle is due: when the timer is, or when a refresh was asked for if that is earlier. -/
def due (interval ended : Nat) (asked : Option Nat) : Option Nat :=
  Option.merge min (timer interval ended) asked

/-- What a task shows between two cycles. -/
def resting (interval : Nat) : PollState := if interval = 0 then .idle else .scheduled

/-- What a history has come to. -/
inductive Stage where
  | unbegun
  | underWay
  /-- Polling goes on since a cycle ended; a refresh was asked for first at some time since. -/
  | between (ended : Nat) (asked : Option Nat)
  /-- No cycle follows any more. -/
  | closed (state : PollState)
  deriving DecidableEq

/-- The stage after a call that asks for a refresh. -/
def Stage.asked (t : Nat) : Stage → Stage
  | .between e none => .between e (some t)
  | st => st

/-- The stage after a cycle has ended. -/
def Stage.ended (isCancelled : Bool) (t : Nat) (verdict : Verdict) : Stage :=
  if isCancelled then .closed .stopped
  else match verdict with
    | .suspend => .closed .suspended
    | .goOn => .between t none

def stage : List Note → Stage
  | [] => .unbegun
  | .begun _ :: _ => .underWay
  | .ended t verdict :: earlier => .ended (isCancelled earlier) t verdict
  | .asked t _ :: earlier => (stage earlier).asked t
  | .cancelled _ :: earlier => stage earlier

/-- When a cycle may start in a stage. -/
def Stage.mayBegin (interval spawned t : Nat) : Stage → Prop
  | .unbegun => t = spawned
  | .between e asked => due interval e asked = some t
  | .underWay | .closed _ => False

/-- Cycles started only when they might, and only a cycle under way ended. -/
def Fits (interval spawned : Nat) : List Note → Prop
  | [] => True
  | .begun t :: earlier =>
    Fits interval spawned earlier ∧ isCancelled earlier = false ∧
      (stage earlier).mayBegin interval spawned t
  | .ended .. :: earlier => Fits interval spawned earlier ∧ stage earlier = .underWay
  | .asked .. :: earlier | .cancelled _ :: earlier => Fits interval spawned earlier

theorem isCancelled_eq_true {l : List Note} : isCancelled l = true ↔ ∃ c, .cancelled c ∈ l := by
  induction l with
  | nil => simp [isCancelled]
  | cons n l ih => cases n <;> simp [isCancelled, ih]

theorem isCancelled_eq_false {l : List Note} :
    isCancelled l = false ↔ ∀ c, .cancelled c ∉ l := by
  rw [← Bool.not_eq_true, isCancelled_eq_true, not_exists]

theorem isUnderWay_iff {l : List Note} : isUnderWay l = true ↔ stage l = .underWay := by
  induction l with
  | nil => simp [isUnderWay, stage]
  | cons n l ih =>
    cases n with
    | begun => simp [isUnderWay, stage]
    | ended t verdict =>
      simp only [isUnderWay, Bool.false_eq_true, stage, Stage.ended, false_iff]
      split
      · simp
      · cases verdict <;> simp
    | asked t a =>
      rw [isUnderWay, ih, stage]
      cases stage l with
      | between e asked => cases asked <;> simp [Stage.asked]
      | _ => simp [Stage.asked]
    | cancelled => rw [isUnderWay, ih, stage]

theorem firstAsked_append (later earlier : List Note) :
    firstAsked (later ++ earlier) = (firstAsked earlier).or (firstAsked later) := by
  induction later with
  | nil => simp [firstAsked]
  | cons n later ih => cases n <;> simp [firstAsked, ih]

theorem mem_of_firstAsked {l : List Note} {t : Nat} (h : firstAsked l = some t) :
    ∃ a, .asked t a ∈ l := by
  induction l with
  | nil => cases h
  | cons n l ih =>
    cases n with
    | asked u a =>
      rw [firstAsked] at h
      cases hl : firstAsked l with
      | none =>
        rw [hl, Option.none_or] at h
        cases h
        exact ⟨a, List.mem_cons_self⟩
      | some v =>
        rw [hl, Option.some_or] at h
        obtain ⟨b, hb⟩ := ih (hl.trans h)
        exact ⟨b, List.mem_cons_of_mem _ hb⟩
    | _ =>
      obtain ⟨b, hb⟩ := ih h
      exact ⟨b, List.mem_cons_of_mem _ hb⟩

section

variable {interval spawned : Nat}

theorem Fits.of_append {later earlier : List Note} (h : Fits interval spawned (later ++ earlier)) :
    Fits interval spawned earlier := by
  induction later with
  | nil => exact h
  | cons n later ih =>
    cases n with
    | begun | ended => exact ih h.1
    | asked | cancelled => exact ih h

/-- Without a cycle nothing ends. -/
theorem stage_of_unbegun {l : List Note} (hl : Fits interval spawned l) (hb : ∀ t, .begun t ∉ l) :
    stage l = .unbegun := by
  induction l with
  | nil => rfl
  | cons n l ih =>
    have hrest : ∀ t, .begun t ∉ l := fun t ht => hb t (List.mem_cons_of_mem _ ht)
    cases n with
    | begun t => exact absurd List.mem_cons_self (hb t)
    | ended t verdict =>
      have hstage := ih hl.1 hrest
      rw [hl.2] at hstage
      cases hstage
    | asked => rw [stage, ih hl hrest]; rfl
    | cancelled => rw [stage, ih hl hrest]

theorem stage_since_begun {t : Nat} {since earlier : List Note}
    (hends : ∀ e v, .ended e v ∉ since) : stage (since ++ .begun t :: earlier) = .underWay := by
  induction since with
  | nil => rfl
  | cons n since ih =>
    have hrest : ∀ e v, .ended e v ∉ since := fun e v hev => hends e v (List.mem_cons_of_mem _ hev)
    rw [List.cons_append]
    cases n with
    | begun => rfl
    | ended e v => exact absurd List.mem_cons_self (hends e v)
    | asked => rw [stage, ih hrest]; rfl
    | cancelled => rw [stage, ih hrest]

/-- Since a cycle has ended and polling goes on, calls are all that can have happened before the next
cycle. -/
theorem stage_since_ended {e : Nat} {since earlier : List Note}
    (hfits : Fits interval spawned (since ++ .ended e .goOn :: earlier))
    (hb : ∀ t, .begun t ∉ since)
    (hc : isCancelled (since ++ .ended e .goOn :: earlier) = false) :
    stage (since ++ .ended e .goOn :: earlier) = .between e (firstAsked since) := by
  induction since with
  | nil =>
    have hearlier : isCancelled earlier = false := hc
    simp [stage, hearlier, Stage.ended, firstAsked]
  | cons n since ih =>
    have hrest : ∀ t, .begun t ∉ since := fun t ht => hb t (List.mem_cons_of_mem _ ht)
    rw [List.cons_append] at hfits hc ⊢
    cases n with
    | begun t => exact absurd List.mem_cons_self (hb t)
    | ended u v =>
      have hstage := ih hfits.1 hrest hc
      rw [hfits.2] at hstage
      cases hstage
    | asked t a =>
      rw [stage, ih hfits hrest hc, firstAsked]
      cases firstAsked since <;> rfl
    | cancelled => cases hc

/-- Once no cycle follows any more none does. -/
theorem stage_since_closed {state : PollState} {since earlier : List Note}
    (hfits : Fits interval spawned (since ++ earlier)) (hclosed : stage earlier = .closed state) :
    (∀ t, .begun t ∉ since) ∧ stage (since ++ earlier) = .closed state := by
  induction since with
  | nil => exact ⟨by simp, hclosed⟩
  | cons n since ih =>
    rw [List.cons_append] at hfits ⊢
    cases n with
    | begun t =>
      obtain ⟨-, hstage⟩ := ih hfits.1
      have hmay := hfits.2.2
      rw [hstage] at hmay
      exact hmay.elim
    | ended u v =>
      obtain ⟨-, hstage⟩ := ih hfits.1
      have hway := hfits.2
      rw [hstage] at hway
      cases hway
    | asked =>
      obtain ⟨hbegun, hstage⟩ := ih hfits
      refine ⟨by simpa using hbegun, ?_⟩
      rw [stage, hstage]
      rfl
    | cancelled =>
      obtain ⟨hbegun, hstage⟩ := ih hfits
      refine ⟨by simpa using hbegun, ?_⟩
      rw [stage, hstage]

/-- What no cycle follows is a suspension, or the end of the cycle in which the task was cancelled. -/
theorem exists_of_stage_closed {state : PollState} {l : List Note} (h : stage l = .closed state) :
    ∃ later e v earlier, l = later ++ .ended e v :: earlier ∧
      (if isCancelled earlier then state = .stopped else v = .suspend ∧ state = .suspended) := by
  induction l with
  | nil => cases h
  | cons n l ih =>
    cases n with
    | begun => cases h
    | ended e v =>
      refine ⟨[], e, v, l, rfl, ?_⟩
      cases hc : isCancelled l <;> cases v <;> simp_all [stage, Stage.ended]
    | asked t =>
      have hl : stage l = .closed state := by
        rw [stage] at h
        cases hst : stage l with
        | between e asked => cases asked <;> simp [hst, Stage.asked] at h
        | closed => simpa [hst, Stage.asked] using h
        | unbegun | underWay => simp [hst, Stage.asked] at h
      obtain ⟨later, e, v, earlier, rfl, hstate⟩ := ih hl
      exact ⟨_ :: later, e, v, earlier, rfl, hstate⟩
    | cancelled =>
      obtain ⟨later, e, v, earlier, rfl, hstate⟩ := ih h
      exact ⟨_ :: later, e, v, earlier, rfl, hstate⟩

/-- Since the task was cancelled no cycle has started. -/
theorem Fits.begun_notMem {c : Nat} {since earlier : List Note}
    (hfits : Fits interval spawned (since ++ .cancelled c :: earlier)) (t : Nat) :
    .begun t ∉ since := by
  intro ht
  obtain ⟨rest, before, rfl⟩ := List.append_of_mem ht
  rw [List.append_assoc, List.cons_append] at hfits
  obtain ⟨-, hcancelled, -⟩ := hfits.of_append
  rw [isCancelled_eq_false] at hcancelled
  exact hcancelled c (by simp)

end

end Polling

end DeviceHub
