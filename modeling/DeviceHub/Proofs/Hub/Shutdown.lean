import DeviceHub.Proofs.Hub.WindDown

/-!
# Shutting down

A hub while calls that shut it down go on, each a step at a time, between whatever else happens to the
hub. Several such calls share the devices: each lets go of those that it still finds, and waits for their
poll tasks. A call returns when it has nothing left to do, which is so at last if every task gets its
turns and every cycle under way its answer.

The calls are those of `Engine.shutdown`.

* `Sound.step`, `windsDown_step`: what always holds, and what can still become of the hub.
* `kept_step`: what devices reported stays, but for those that are disposed of.
* `Tended.step`: a poll task that is parted from its device is waited for, or has ended.
* `eventually_hasEnded`, `eventually_hasReturned`: tasks end, and calls return.
-/
namespace DeviceHub

variable {κ : Type}

namespace Hub.ShutdownCall

/-- How many steps of a call are still for something. -/
def toDo (c : ShutdownCall) : Nat := 2 * c.left.length + if c.awaited.isSome then 1 else 0

variable {c : ShutdownCall}

theorem hasReturned_iff : c.hasReturned = true ↔ c.left = [] ∧ c.awaited = none := by
  simp [hasReturned]

variable (c) (h : Hub κ)

/-- What a step of a call can do: nothing, be done with a task, or let a device go. -/
theorem goOn_cases :
    c.goOn h = (c, h) ∨
    (∃ n, c.awaited = some n ∧ h.hasEnded n = true ∧ c.goOn h = ({ c with awaited := none }, h)) ∨
    ∃ device rest, c.awaited = none ∧ c.left = device :: rest ∧
      c.goOn h = (⟨rest, h.current? device⟩, h.release device) := by
  cases ha : c.awaited with
  | some n =>
    cases hn : h.hasEnded n with
    | true => exact .inr (.inl ⟨n, rfl, hn, by simp [goOn, ha, hn]⟩)
    | false => exact .inl (by simp [goOn, ha, hn])
  | none =>
    cases hl : c.left with
    | nil => exact .inl (by simp [goOn, ha, hl])
    | cons device rest => exact .inr (.inr ⟨device, rest, rfl, rfl, by simp [goOn, ha, hl, current?]⟩)

/-- A step changes nothing of the call, or there is less to do afterwards. -/
theorem goOn_eq_or_toDo_lt : (c.goOn h).1 = c ∨ (c.goOn h).1.toDo < c.toDo := by
  rcases c.goOn_cases h with heq | ⟨n, ha, -, heq⟩ | ⟨device, rest, ha, hl, heq⟩
  · exact .inl (by rw [heq])
  · exact .inr (by simp [heq, toDo, ha])
  · refine .inr ?_
    simp only [heq, toDo, ha, hl, List.length_cons, Option.isSome_none, Bool.false_eq_true, if_false]
    split <;> omega

/-- A call that has not returned does something in its step if it need not wait. -/
theorem goOn_ne (hopen : c.hasReturned = false)
    (hready : ∀ n, c.awaited = some n → h.hasEnded n = true) : (c.goOn h).1 ≠ c := by
  intro heq
  have hsame : (c.goOn h).1.awaited = c.awaited ∧ (c.goOn h).1.left = c.left := by simp [heq]
  cases ha : c.awaited with
  | some n => simp [goOn, ha, hready n ha] at hsame
  | none =>
    cases hl : c.left with
    | nil => simp [hasReturned, ha, hl] at hopen
    | cons device rest => simp [goOn, ha, hl] at hsame

variable {h}

/-- A step of a call is one of the changes that a hub that was shut down may see. -/
theorem changes_goOn (hshut : h.isShutDown = true) : h.Changes (c.goOn h).2 := by
  rcases c.goOn_cases h with heq | ⟨_, -, -, heq⟩ | ⟨device, _, -, -, heq⟩
  · rw [heq]
  · rw [heq]
  · rw [heq]; exact .single (.release hshut)

theorem windsDown_goOn (hshut : h.isShutDown = true) : h.WindsDown (c.goOn h).2 := by
  rcases c.goOn_cases h with heq | ⟨_, -, -, heq⟩ | ⟨device, _, -, -, heq⟩
  · rw [heq]; exact windsDown_refl hshut
  · rw [heq]; exact windsDown_refl hshut
  · rw [heq]; exact windsDown_release hshut device

variable {c}

/-- A device that a step does not let go is still left to the call. -/
theorem mem_left_goOn {device : String} (hd : device ∈ c.left)
    (hstays : ((c.goOn h).2.devices.get? device).isSome = true) : device ∈ (c.goOn h).1.left := by
  rcases c.goOn_cases h with heq | ⟨_, -, -, heq⟩ | ⟨released, rest, -, hl, heq⟩
  · rwa [heq]
  · rwa [heq]
  · rw [heq, get?_devices_release] at hstays
    rw [heq]
    rw [hl, List.mem_cons] at hd
    refine hd.resolve_left fun hdevice => ?_
    rw [if_pos hdevice.symm] at hstays
    cases hstays

end Hub.ShutdownCall

/-- A hub and the calls that shut it down, the earliest first. -/
structure Closing (κ : Type) where
  hub : Hub κ
  calls : List Hub.ShutdownCall

namespace Closing

/-- What can happen to a hub and to the calls that shut it down. -/
inductive Move (κ : Type) where
  /-- Something that is no part of shutting down. -/
  | act (a : Hub.Act κ) (ha : a.closes = false)
  /-- Another call to shut down. -/
  | shutdown
  /-- A call takes a step. -/
  | goOn (i : Nat)

/-- A hub without bridges and devices that nobody has shut down. -/
def new (schemas : SchemaRegistry) : Closing κ := ⟨.new schemas, []⟩

def step (c : Closing κ) : Move κ → Closing κ
  | .act a _ => { c with hub := c.hub.step a }
  | .shutdown =>
    let (call, hub) := c.hub.shutdown
    ⟨hub, c.calls ++ [call]⟩
  | .goOn i =>
    match c.calls[i]? with
    | none => c
    | some call =>
      let (call, hub) := call.goOn c.hub
      ⟨hub, c.calls.set i call⟩

def run (c : Closing κ) (moves : List (Move κ)) : Closing κ := moves.foldl step c

/-- Whether a call has returned. -/
def hasReturned (c : Closing κ) (i : Nat) : Bool := c.calls[i]?.any (·.hasReturned)

/-- The poll task that a call waits for. -/
def awaited? (c : Closing κ) (i : Nat) : Option Nat := c.calls[i]?.bind (·.awaited)

/-- Whether a device that is registered is disposed of by a move. -/
def Move.disposes (device : String) (c : Closing κ) : Move κ → Bool
  | .act a _ => a.disposes device && c.hub.devices.contains device
  | _ => false

/-- Whether a device that is registered is disposed of by one of some moves. -/
def isDisposed (device : String) : Closing κ → List (Move κ) → Bool
  | _, [] => false
  | c, m :: moves => m.disposes device c || isDisposed device (c.step m) moves

variable {c : Closing κ} {device : String} {i n : Nat} {call : Hub.ShutdownCall}

theorem step_goOn (hcall : c.calls[i]? = some call) :
    c.step (.goOn i) = ⟨(call.goOn c.hub).2, c.calls.set i (call.goOn c.hub).1⟩ := by
  simp [step, hcall]

theorem step_goOn_none (hcall : c.calls[i]? = none) : c.step (.goOn i) = c := by
  simp [step, hcall]

/-! ## What always holds -/

/-- The hub is one that can come about, it is shut down once a call has shut it down, and each call
still has to let all devices go that are registered. -/
structure Sound (c : Closing κ) : Prop where
  reachable : c.hub.Reachable
  isShutDown : c.calls ≠ [] → c.hub.isShutDown = true
  left : ∀ call ∈ c.calls, ∀ d e, c.hub.devices.get? d = some e → d ∈ call.left

theorem Sound.wired (hs : Sound c) : c.hub.Wired := hs.reachable.wired

theorem sound_new (schemas : SchemaRegistry) : Sound (new schemas : Closing κ) :=
  ⟨⟨schemas, .refl⟩, fun hne => absurd rfl hne, by simp [new]⟩

theorem Sound.goOn (hs : Sound c) (hcall : c.calls[i]? = some call) : Sound (c.step (.goOn i)) := by
  obtain ⟨schemas, hr⟩ := hs.reachable
  have hmem : call ∈ c.calls := List.mem_of_getElem? hcall
  have hshut := hs.isShutDown (List.ne_nil_of_mem hmem)
  have hdown := call.windsDown_goOn hshut
  rw [step_goOn hcall]
  refine ⟨⟨schemas, hr.trans (call.changes_goOn hshut)⟩, fun _ => hdown.isShutDown, ?_⟩
  intro call' hcall' d e he
  have hregistered := hdown.devices d e he
  rcases List.mem_or_eq_of_mem_set hcall' with hold | rfl
  · exact hs.left call' hold d e hregistered
  · exact Hub.ShutdownCall.mem_left_goOn (hs.left call hmem d e hregistered)
      (Option.isSome_of_eq_some he)

theorem Sound.step (hs : Sound c) (m : Move κ) : Sound (c.step m) := by
  obtain ⟨schemas, hr⟩ := hs.reachable
  cases m with
  | act a ha =>
    have hdown (hne : c.calls ≠ []) : c.hub.WindsDown (c.hub.step a) :=
      Hub.windsDown_step hs.wired (hs.isShutDown hne) ha
    refine ⟨⟨schemas, hr.trans (c.hub.changes_step a)⟩, fun hne => (hdown hne).isShutDown, ?_⟩
    intro call hcall d e he
    exact hs.left call hcall d e ((hdown (List.ne_nil_of_mem hcall)).devices d e he)
  | shutdown =>
    refine ⟨⟨schemas, hr.tail .beginShutdown⟩, fun _ => rfl, fun call hcall d e he => ?_⟩
    rcases List.mem_append.1 hcall with hold | hnew
    · exact hs.left call hold d e he
    · rw [List.mem_singleton.1 hnew]
      exact Dict.contains_iff_mem_keys.1 (Option.isSome_of_eq_some he)
  | goOn i =>
    cases hcall : c.calls[i]? with
    | none => rwa [step_goOn_none hcall]
    | some call => exact hs.goOn hcall

theorem Sound.run (hs : Sound c) (moves : List (Move κ)) : Sound (c.run moves) := by
  induction moves generalizing c with
  | nil => exact hs
  | cons m moves ih => exact ih (hs.step m)

/-! ## After the call -/

/-- Whatever happens to a hub that was shut down, it winds down. -/
theorem windsDown_step (hs : Sound c) (hshut : c.hub.isShutDown = true) (m : Move κ) :
    c.hub.WindsDown (c.step m).hub := by
  cases m with
  | act a ha => exact Hub.windsDown_step hs.wired hshut ha
  | shutdown => exact c.hub.windsDown_beginShutdown
  | goOn i =>
    cases hcall : c.calls[i]? with
    | none =>
      rw [step_goOn_none hcall]
      exact Hub.windsDown_refl hshut
    | some call =>
      rw [step_goOn hcall]
      exact call.windsDown_goOn hshut

theorem windsDown_run (hs : Sound c) (hshut : c.hub.isShutDown = true) (moves : List (Move κ)) :
    c.hub.WindsDown (c.run moves).hub := by
  induction moves generalizing c with
  | nil => exact Hub.windsDown_refl hshut
  | cons m moves ih =>
    have hstep := windsDown_step hs hshut m
    exact hstep.trans (ih (hs.step m) hstep.isShutDown)

/-- What a device reported stays, unless it is disposed of. -/
theorem kept_step (hs : Sound c) (hshut : c.hub.isShutDown = true) {m : Move κ}
    (hm : m.disposes device c = false) :
    (c.step m).hub.store.get? device = c.hub.store.get? device ∧
      Dict.get? (c.step m).hub.health device = Dict.get? c.hub.health device := by
  cases m with
  | act a ha =>
    have hother := Bool.and_eq_false_iff.1 hm
    have hspared := Hub.spared_step hs.wired hshut ha hother
    exact ⟨hspared.snapshot, hspared.health⟩
  | shutdown => exact ⟨rfl, rfl⟩
  | goOn i =>
    cases hcall : c.calls[i]? with
    | none => rw [step_goOn_none hcall]; exact ⟨rfl, rfl⟩
    | some call =>
      rw [step_goOn hcall]
      rcases call.goOn_cases c.hub with heq | ⟨_, -, -, heq⟩ | ⟨_, _, -, -, heq⟩
      all_goals rw [heq]; exact ⟨rfl, rfl⟩

theorem kept_run (hs : Sound c) (hshut : c.hub.isShutDown = true) {moves : List (Move κ)}
    (hmoves : isDisposed device c moves = false) :
    (c.run moves).hub.store.get? device = c.hub.store.get? device ∧
      Dict.get? (c.run moves).hub.health device = Dict.get? c.hub.health device := by
  induction moves generalizing c with
  | nil => exact ⟨rfl, rfl⟩
  | cons m moves ih =>
    obtain ⟨hm, hrest⟩ := Bool.or_eq_false_iff.1 hmoves
    obtain ⟨hstore, hhealth⟩ := kept_step hs hshut hm
    obtain ⟨hstore', hhealth'⟩ := ih (hs.step m) (windsDown_step hs hshut m).isShutDown hrest
    exact ⟨hstore'.trans hstore, hhealth'.trans hhealth⟩

/-! ## Who waits for a task -/

/-- A poll task is the device's, or a call waits for it, or it has ended. -/
inductive Tended (c : Closing κ) (device : String) (n : Nat) : Prop where
  | current (hn : c.hub.current? device = some n)
  | awaited (i : Nat) (hi : c.awaited? i = some n)
  | ended (hn : c.hub.hasEnded n = true)

theorem awaited?_set {calls : List Hub.ShutdownCall} {hub : Hub κ} (hcall : calls[i]? = some call)
    (call' : Hub.ShutdownCall) (j : Nat) :
    (⟨hub, calls.set i call'⟩ : Closing κ).awaited? j =
      if i = j then call'.awaited else (⟨hub, calls⟩ : Closing κ).awaited? j := by
  have hi : i < calls.length := (List.getElem?_eq_some_iff.1 hcall).1
  simp only [awaited?, List.getElem?_set]
  split
  · next hj => subst hj; rfl
  · rfl

theorem Tended.goOn (ht : Tended c device n) (hcall : c.calls[i]? = some call) :
    Tended (c.step (.goOn i)) device n := by
  rw [step_goOn hcall]
  have hown : c.awaited? i = call.awaited := by rw [awaited?, hcall, Option.bind_some]
  rcases call.goOn_cases c.hub with heq | ⟨m, ha, hm, heq⟩ | ⟨released, rest, ha, -, heq⟩
  · rw [heq]
    obtain ⟨hi, rfl⟩ := List.getElem?_eq_some_iff.1 hcall
    rwa [List.set_getElem_self hi]
  · rw [heq]
    cases ht with
    | current hn => exact .current hn
    | ended hn => exact .ended hn
    | awaited j hj =>
      by_cases hij : i = j
      · subst hij
        rw [hown, ha] at hj
        cases hj
        exact .ended hm
      · exact .awaited j (by rw [awaited?_set hcall, if_neg hij]; exact hj)
  · rw [heq]
    cases ht with
    | current hn =>
      by_cases hd : released = device
      · exact .awaited i (by rw [awaited?_set hcall, if_pos rfl, hd]; exact hn)
      · exact .current (by rw [Hub.current?_release, if_neg hd]; exact hn)
    | ended hn => exact .ended hn
    | awaited j hj =>
      have hij : i ≠ j := by
        rintro rfl
        rw [hown, ha] at hj
        cases hj
      exact .awaited j (by rw [awaited?_set hcall, if_neg hij]; exact hj)

/-- A device is parted from its poll task by a call that waits for the task, unless it is disposed
of. -/
theorem Tended.step (ht : Tended c device n) (hs : Sound c) (hshut : c.hub.isShutDown = true)
    {m : Move κ} (hm : m.disposes device c = false) : Tended (c.step m) device n := by
  cases m with
  | act a ha =>
    cases ht with
    | current hn =>
      have hspared := Hub.spared_step hs.wired hshut ha (Bool.and_eq_false_iff.1 hm)
      refine .current ?_
      rw [← hn]
      exact congrArg (·.bind (·.task)) hspared.entry
    | awaited i hi => exact .awaited i hi
    | ended hn => exact .ended ((Hub.windsDown_step hs.wired hshut ha).hasEnded hn)
  | shutdown =>
    cases ht with
    | current hn => exact .current hn
    | awaited i hi =>
      obtain ⟨call, hcall, hn⟩ := Option.bind_eq_some_iff.1 hi
      have hi : i < c.calls.length := (List.getElem?_eq_some_iff.1 hcall).1
      refine .awaited i ?_
      rw [Closing.awaited?, Closing.step, List.getElem?_append_left hi, hcall, Option.bind_some, hn]
    | ended hn => exact .ended (c.hub.windsDown_beginShutdown.hasEnded hn)
  | goOn i =>
    cases hcall : c.calls[i]? with
    | none => rwa [step_goOn_none hcall]
    | some call => exact ht.goOn hcall

theorem Tended.run (ht : Tended c device n) (hs : Sound c) (hshut : c.hub.isShutDown = true)
    {moves : List (Move κ)} (hmoves : isDisposed device c moves = false) :
    Tended (c.run moves) device n := by
  induction moves generalizing c with
  | nil => exact ht
  | cons m moves ih =>
    obtain ⟨hm, hrest⟩ := Bool.or_eq_false_iff.1 hmoves
    exact ih (ht.step hs hshut hm) (hs.step m) (windsDown_step hs hshut m).isShutDown hrest

/-- When a call has returned there are no devices any more. -/
theorem Sound.devices_eq_nil (hs : Sound c) (hret : c.hasReturned i = true) : c.hub.devices = [] := by
  obtain ⟨call, hcall, hreturned⟩ := Option.any_eq_true _ _ |>.1 hret
  obtain ⟨hleft, -⟩ := Hub.ShutdownCall.hasReturned_iff.1 hreturned
  cases hd : c.hub.devices with
  | nil => rfl
  | cons e rest =>
    have hget : c.hub.devices.get? e.1 = some e.2 := by simp [hd, Dict.get?]
    have hmem := hs.left call (List.mem_of_getElem? hcall) e.1 e.2 hget
    rw [hleft] at hmem
    cases hmem

theorem awaited?_eq_none (hret : c.hasReturned i = true) : c.awaited? i = none := by
  obtain ⟨call, hcall, hreturned⟩ := Option.any_eq_true _ _ |>.1 hret
  rw [awaited?, hcall, Option.bind_some, (Hub.ShutdownCall.hasReturned_iff.1 hreturned).2]

/-- When a call has returned every task has ended of the devices that it let go. -/
theorem Tended.hasEnded_or_awaited (ht : Tended c device n) (hs : Sound c)
    (hret : c.hasReturned i = true) : c.hub.hasEnded n = true ∨ ∃ j ≠ i, c.awaited? j = some n := by
  cases ht with
  | current hn =>
    rw [Hub.current?, hs.devices_eq_nil hret] at hn
    cases hn
  | awaited j hj =>
    refine .inr ⟨j, ?_, hj⟩
    rintro rfl
    rw [awaited?_eq_none hret] at hj
    cases hj
  | ended hn => exact .inl hn

/-! ## Calls return -/

/-- The state after the first moves of an endless sequence. -/
def after (c : Closing κ) (σ : Nat → Move κ) : Nat → Closing κ
  | 0 => c
  | k + 1 => (c.after σ k).step (σ k)

/-- In an endless sequence of moves, poll tasks that have not ended get their turns, cycles under way
their answers, and a call that has not returned goes on. -/
structure Fair (i : Nat) (c : Closing κ) (σ : Nat → Move κ) : Prop where
  turns : ∀ k n, (c.after σ k).hub.hasEnded n = false → (c.after σ k).hub.isCycling n = false →
    ∃ k' ≥ k, ∃ time, σ k' = .act (.wake n time) rfl
  answers : ∀ k n, (c.after σ k).hub.isCycling n = true → ∃ k' ≥ k, ∃ time now answer,
    answerIsFinite answer = true ∧ σ k' = .act (.finish n time now answer) rfl
  goesOn : ∀ k, (c.after σ k).hasReturned i = false → ∃ k' ≥ k, σ k' = .goOn i

section

variable {σ : Nat → Move κ} {k k' : Nat}

theorem Sound.after (hs : Sound c) (σ : Nat → Move κ) (k : Nat) : Sound (c.after σ k) := by
  induction k with
  | zero => exact hs
  | succ k ih => exact ih.step (σ k)

variable (hs : Sound c) (hshut : c.hub.isShutDown = true)

include hs hshut

theorem isShutDown_after (σ : Nat → Move κ) (k : Nat) : (c.after σ k).hub.isShutDown = true := by
  induction k with
  | zero => exact hshut
  | succ k ih => exact (windsDown_step (hs.after σ k) ih (σ k)).isShutDown

theorem windsDown_after (hk : k ≤ k') : (c.after σ k).hub.WindsDown (c.after σ k').hub := by
  induction hk with
  | refl => exact Hub.windsDown_refl (isShutDown_after hs hshut σ k)
  | @step k' _ ih =>
    exact ih.trans (windsDown_step (hs.after σ k') (isShutDown_after hs hshut σ k') (σ k'))

/-- A poll task ends: at its next turn, or with its cycle. -/
theorem eventually_hasEnded (hf : Fair i c σ) (k n : Nat) :
    ∃ k' ≥ k, (c.after σ k').hub.hasEnded n = true := by
  cases hended : (c.after σ k).hub.hasEnded n with
  | true => exact ⟨k, Nat.le_refl k, hended⟩
  | false =>
    cases hcycling : (c.after σ k).hub.isCycling n with
    | false =>
      obtain ⟨k', hk, time, hturn⟩ := hf.turns k n hended hcycling
      have hidle : (c.after σ k').hub.isCycling n = false := by
        rw [← Bool.not_eq_true] at hcycling ⊢
        exact fun hn => hcycling ((windsDown_after hs hshut hk).isCycling hn)
      refine ⟨k' + 1, Nat.le_succ_of_le hk, ?_⟩
      rw [Closing.after, hturn]
      exact Hub.hasEnded_wake (hs.after σ k').wired (isShutDown_after hs hshut σ k') hidle time
    | true =>
      obtain ⟨k', hk, time, now, answer, hfinite, hanswer⟩ := hf.answers k n hcycling
      rcases (windsDown_after hs hshut hk).isCycling_or_hasEnded hcycling with hstill | hended'
      · refine ⟨k' + 1, Nat.le_succ_of_le hk, ?_⟩
        rw [Closing.after, hanswer]
        exact Hub.hasEnded_finish (hs.after σ k').wired (isShutDown_after hs hshut σ k') hstill time
          now hfinite
      · exact ⟨k', hk, hended'⟩

omit hs hshut

/-- A move leaves a call as it is, or with less to do. -/
theorem calls_step (hcall : c.calls[i]? = some call) (m : Move κ) :
    ∃ call', (c.step m).calls[i]? = some call' ∧ (call' = call ∨ call'.toDo < call.toDo) := by
  have hi : i < c.calls.length := (List.getElem?_eq_some_iff.1 hcall).1
  cases m with
  | act => exact ⟨call, hcall, .inl rfl⟩
  | shutdown =>
    refine ⟨call, ?_, .inl rfl⟩
    rw [Closing.step, List.getElem?_append_left hi, hcall]
  | goOn j =>
    cases hother : c.calls[j]? with
    | none => exact ⟨call, by rw [step_goOn_none hother, hcall], .inl rfl⟩
    | some other =>
      rw [step_goOn hother]
      by_cases hij : j = i
      · subst hij
        rw [hcall] at hother
        cases hother
        exact ⟨_, by rw [List.getElem?_set_self hi], call.goOn_eq_or_toDo_lt c.hub⟩
      · exact ⟨call, by rw [List.getElem?_set_ne hij, hcall], .inl rfl⟩

theorem calls_after (hcall : (c.after σ k).calls[i]? = some call) (hk : k ≤ k') :
    ∃ call', (c.after σ k').calls[i]? = some call' ∧ (call' = call ∨ call'.toDo < call.toDo) := by
  induction hk with
  | refl => exact ⟨call, hcall, .inl rfl⟩
  | @step k' _ ih =>
    obtain ⟨call', hcall', hless⟩ := ih
    obtain ⟨call'', hcall'', hless'⟩ := calls_step hcall' (σ k')
    refine ⟨call'', hcall'', ?_⟩
    rcases hless' with rfl | hless'
    · exact hless
    · rcases hless with rfl | hless
      · exact .inr hless'
      · exact .inr (Nat.lt_trans hless' hless)

include hs hshut

/-- A call that has not returned has less to do at some time: when its task has ended and it goes on. -/
theorem eventually_toDo_lt (hf : Fair i c σ) (hcall : (c.after σ k).calls[i]? = some call)
    (hopen : call.hasReturned = false) :
    ∃ k' ≥ k, ∃ call', (c.after σ k').calls[i]? = some call' ∧ call'.toDo < call.toDo := by
  obtain ⟨j, hkj, hready⟩ :
      ∃ j ≥ k, ∀ n, call.awaited = some n → (c.after σ j).hub.hasEnded n = true := by
    cases ha : call.awaited with
    | none => exact ⟨k, Nat.le_refl k, nofun⟩
    | some n =>
      obtain ⟨j, hkj, hended⟩ := eventually_hasEnded hs hshut hf k n
      exact ⟨j, hkj, fun m hm => by cases hm; exact hended⟩
  obtain ⟨callj, hcallj, rfl | hless⟩ := calls_after hcall hkj
  · have hopenj : (c.after σ j).hasReturned i = false := by
      rw [Closing.hasReturned, hcallj, Option.any_some, hopen]
    obtain ⟨k', hjk, hgoOn⟩ := hf.goesOn j hopenj
    obtain ⟨call', hcall', rfl | hless⟩ := calls_after hcallj hjk
    · refine ⟨k' + 1, Nat.le_succ_of_le (Nat.le_trans hkj hjk), (call'.goOn (c.after σ k').hub).1, ?_, ?_⟩
      · have hi : i < (c.after σ k').calls.length := (List.getElem?_eq_some_iff.1 hcall').1
        rw [Closing.after, hgoOn, step_goOn hcall', List.getElem?_set_self hi]
      · refine (call'.goOn_eq_or_toDo_lt _).resolve_left (call'.goOn_ne _ hopen fun n hn => ?_)
        exact (windsDown_after hs hshut hjk).hasEnded (hready n hn)
    · exact ⟨k', Nat.le_trans hkj hjk, call', hcall', hless⟩
  · exact ⟨j, hkj, callj, hcallj, hless⟩

/-- A call returns at last, since it cannot have less and less to do for ever. -/
theorem eventually_hasReturned (hf : Fair i c σ) (hcall : (c.after σ k).calls[i]? = some call) :
    ∃ k' ≥ k, (c.after σ k').hasReturned i = true := by
  induction hw : call.toDo using Nat.strongRecOn generalizing k call with
  | _ w ih =>
    cases hopen : call.hasReturned with
    | true => exact ⟨k, Nat.le_refl k, by rw [Closing.hasReturned, hcall, Option.any_some, hopen]⟩
    | false =>
      obtain ⟨k', hk, call', hcall', hless⟩ := eventually_toDo_lt hs hshut hf hcall hopen
      obtain ⟨m, hm, hreturned⟩ := ih call'.toDo (hw ▸ hless) hcall' rfl
      exact ⟨m, Nat.le_trans hk hm, hreturned⟩

end

/-! ## Shutting down -/

/-- The call to shut down that comes after some moves, and the state with it. -/
theorem exists_call (c : Closing κ) : ∃ call, (c.step .shutdown).calls[c.calls.length]? = some call :=
  ⟨c.hub.shutdown.1, List.getElem?_concat_length⟩

theorem exists_call_run (hcall : c.calls[i]? = some call) (moves : List (Move κ)) :
    ∃ call', (c.run moves).calls[i]? = some call' := by
  induction moves generalizing c call with
  | nil => exact ⟨call, hcall⟩
  | cons m moves ih =>
    obtain ⟨call', hcall', -⟩ := calls_step hcall m
    exact ih hcall'

/-- Shutting down is final. Whatever happened before a call to shut down and whatever happens after it,
other calls included: from the call on no cycle starts, and none that was under way writes anything when
it ends; a device is not taken in, and none is registered that was not; what the devices reported that
nobody disposed of stays as it was at the call. When the call has returned no device is registered any
more. The poll task has ended that a device had at the call, unless somebody disposed of the device; only a
task that another call to shut down has taken over may still have a cycle under way, and that call waits
for it. The call does return, if cycles under way get their answers, poll tasks their turns, and the call
goes on. -/
theorem shutdown_final (schemas : SchemaRegistry) (earlier later : List (Move κ)) :
    let atCall := (new schemas).run earlier
    let i := atCall.calls.length
    let c := (atCall.step .shutdown).run later
    (∀ n time, (c.hub.wake n time).1 = false) ∧
    (∀ n, c.hub.isCycling n = true → atCall.hub.isCycling n = true) ∧
    (∀ n time now answer, ¬Hub.Writes c.hub (c.hub.step (.finish n time now answer))) ∧
    c.hub.journal = atCall.hub.journal ∧
    (∀ d, c.hub.enroll d = (.error .shutDown, c.hub)) ∧
    (∀ device entry, c.hub.devices.get? device = some entry →
      atCall.hub.devices.get? device = some entry) ∧
    (∀ device, isDisposed device (atCall.step .shutdown) later = false →
      c.hub.store.get? device = atCall.hub.store.get? device ∧
      Dict.get? c.hub.health device = Dict.get? atCall.hub.health device) ∧
    (c.hasReturned i = true → c.hub.devices = [] ∧
      ∀ device n, atCall.hub.current? device = some n →
        isDisposed device (atCall.step .shutdown) later = false →
        c.hub.hasEnded n = true ∨ ∃ j ≠ i, c.awaited? j = some n) ∧
    ∀ σ, Fair i c σ → ∃ k, (c.after σ k).hasReturned i = true := by
  intro atCall i c
  have hcalled : Sound (atCall.step .shutdown) := ((sound_new schemas).run earlier).step .shutdown
  have hs : Sound c := hcalled.run later
  have hrun := windsDown_run hcalled rfl later
  have hshut : c.hub.isShutDown = true := hrun.isShutDown
  have hdown : atCall.hub.WindsDown c.hub := atCall.hub.windsDown_beginShutdown.trans hrun
  refine ⟨Hub.wake_of_isShutDown hs.wired hshut, fun n => hdown.isCycling, ?_, hdown.journal,
    Hub.enroll_of_isShutDown hshut, hdown.devices, fun device => kept_run hcalled rfl, ?_, ?_⟩
  · exact Hub.not_writes_of_isShutDown hs.wired hshut
  · refine fun hret => ⟨hs.devices_eq_nil hret, fun device n hn hspared => ?_⟩
    have htended : Tended (atCall.step .shutdown) device n := .current hn
    exact (htended.run hcalled rfl hspared).hasEnded_or_awaited hs hret
  · intro σ hf
    obtain ⟨call, hcall⟩ := exists_call atCall
    obtain ⟨call', hcall'⟩ := exists_call_run hcall later
    have hstart : (c.after σ 0).calls[i]? = some call' := hcall'
    obtain ⟨k, -, hreturned⟩ := eventually_hasReturned hs hshut hf hstart
    exact ⟨k, hreturned⟩

/-- A plug is asked for the first time. -/
def plugIsAsked : List (Move Unit) :=
  [.act (.attach "hub" (.attached ())) rfl, .act (.enroll Hub.plug) rfl, .act (.wake 0 0) rfl]

/-- The hub of the plug that is asked. -/
def plugHub : Closing Unit := (new [("plug", Hub.plugSchema)]).run plugIsAsked

/-- The plug's cycle is answered, its poll task has a turn and the call goes on, again and again. -/
def plugRounds (k : Nat) : Move Unit :=
  match k % 3 with
  | 0 => .act (.finish 0 5 .epoch (Hub.plugSays true)) rfl
  | 1 => .act (.wake 0 5) rfl
  | _ => .goOn 0

theorem plugRounds_fair : Fair 0 (plugHub.step .shutdown) plugRounds := by
  have hs : Sound (plugHub.step .shutdown) := ((sound_new _).run plugIsAsked).step .shutdown
  -- there is no poll task but the plug's
  have hnone (k n : Nat) : ((plugHub.step .shutdown).after plugRounds k).hub.task? (n + 1) = none := by
    have hlength := (windsDown_after hs rfl (σ := plugRounds) (Nat.zero_le k)).length
    have hone : (plugHub.step .shutdown).hub.tasks.length = 1 := by decide +kernel
    exact List.getElem?_eq_none (by rw [hlength, Closing.after, hone]; omega)
  refine ⟨fun k n hended _ => ?_, fun k n hcycling => ?_, fun k _ => ⟨3 * k + 2, by omega, ?_⟩⟩
  · cases n with
    | zero =>
      have hk : (3 * k + 1) % 3 = 1 := by omega
      exact ⟨3 * k + 1, by omega, 5, by simp only [plugRounds, hk]⟩
    | succ n => simp [Hub.hasEnded, hnone k n] at hended
  · cases n with
    | zero =>
      have hk : 3 * k % 3 = 0 := by omega
      exact ⟨3 * k, by omega, 5, .epoch, Hub.plugSays true, by decide +kernel,
        by simp only [plugRounds, hk]⟩
    | succ n => simp [Hub.isCycling, hnone k n] at hcycling
  · have hk : (3 * k + 2) % 3 = 2 := by omega
    simp only [plugRounds, hk]

/-- The hub is shut down while the plug is asked. The call waits for the answer, which is not written,
and then returns. -/
theorem shutdown_final_plug :
    let c := plugHub.step .shutdown
    let answered := c.run [.goOn 0, .act (.finish 0 5 .epoch (Hub.plugSays true)) rfl, .goOn 0]
    plugHub.hub.current? "p1" = some 0 ∧ plugHub.hub.isCycling 0 = true ∧
    c.hub.isCycling 0 = true ∧
    answered.hasReturned 0 = true ∧ answered.hub.devices = [] ∧ answered.hub.hasEnded 0 = true ∧
    answered.hub.store.get? "p1" = plugHub.hub.store.get? "p1" ∧
    Fair 0 c plugRounds ∧ ∃ k, (c.after plugRounds k).hasReturned 0 = true := by
  intro c answered
  have hcurrent : plugHub.hub.current? "p1" = some 0 := by decide +kernel
  have hreturned : answered.hasReturned 0 = true := by decide +kernel
  obtain ⟨-, -, -, -, -, -, hkept, hdone, -⟩ := shutdown_final [("plug", Hub.plugSchema)] plugIsAsked
    [.goOn 0, .act (.finish 0 5 .epoch (Hub.plugSays true)) rfl, .goOn 0]
  obtain ⟨-, -, -, -, -, -, -, -, hreturns⟩ :=
    shutdown_final [("plug", Hub.plugSchema)] plugIsAsked []
  obtain ⟨hnil, hended⟩ := hdone hreturned
  refine ⟨hcurrent, by decide +kernel, by decide +kernel, hreturned, hnil, ?_,
    (hkept "p1" (by decide +kernel)).1, plugRounds_fair, hreturns plugRounds plugRounds_fair⟩
  refine (hended "p1" 0 hcurrent (by decide +kernel)).resolve_right ?_
  rintro ⟨j, hj, hawaited⟩
  have hj : 1 ≤ j := Nat.one_le_iff_ne_zero.2 hj
  have hone : answered.calls.length = 1 := by decide +kernel
  have hnone : answered.calls[j]? = none := List.getElem?_eq_none (hone ▸ hj)
  have hfree : answered.awaited? j = none := by rw [awaited?, hnone, Option.bind_none]
  exact nomatch hfree.symm.trans hawaited

/-- Two plugs are asked for the first time. -/
def plugsAreAsked : List (Move Unit) :=
  plugIsAsked ++ [.act (.enroll ⟨⟨"hub", "p2", "plug"⟩, 5, Hub.plug.request⟩) rfl,
    .act (.wake 1 0) rfl]

/-- A call to shut down may return while the cycle goes on of a device that was registered at the call and
that nobody disposed of. It does not wait for a device that another call has let go meanwhile; that call
does. And it does not wait for the cycle that was under way when the device was restarted, before the
call. -/
theorem returned_while_cycling :
    (let atCall := (new [("plug", Hub.plugSchema)]).run plugsAreAsked
    let later := [.goOn 0, .shutdown, .goOn 1, .act (.finish 0 5 .epoch (Hub.plugSays true)) rfl,
      .goOn 0, .goOn 0]
    let c := (atCall.step .shutdown).run later
    atCall.calls = [] ∧ atCall.hub.current? "p2" = some 1 ∧ atCall.hub.isCycling 1 = true ∧
    isDisposed "p2" (atCall.step .shutdown) later = false ∧
    c.hasReturned 0 = true ∧ c.hub.isCycling 1 = true ∧ c.awaited? 1 = some 1) ∧
    (let atCall := (new [("plug", Hub.plugSchema)]).run (plugIsAsked ++
      [.act (.restart "p1") rfl, .act (.wake 1 0) rfl,
        .act (.finish 1 5 .epoch (Hub.plugSays true)) rfl])
    let later := [.goOn 0, .act (.wake 1 5) rfl, .goOn 0]
    let c := (atCall.step .shutdown).run later
    atCall.calls = [] ∧ atCall.hub.current? "p1" = some 1 ∧
    (atCall.hub.task? 0).map (·.identity.device) = some "p1" ∧ atCall.hub.isCycling 0 = true ∧
    isDisposed "p1" (atCall.step .shutdown) later = false ∧
    c.hasReturned 0 = true ∧ c.hub.isCycling 0 = true) := by
  exact ⟨⟨rfl, by decide +kernel, by decide +kernel, by decide +kernel, by decide +kernel,
    by decide +kernel, by decide +kernel⟩, rfl, by decide +kernel, by decide +kernel,
    by decide +kernel, by decide +kernel, by decide +kernel, by decide +kernel⟩

end Closing

end DeviceHub
