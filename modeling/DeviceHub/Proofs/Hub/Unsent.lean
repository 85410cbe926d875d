import DeviceHub.Proofs.Hub.Errands
import Mathlib.Data.List.InsertIdx

/-!
# As if an errand had not been sent

What would have happened without an errand? The same, if the vendors report on all other requests what
they do report, and, when the errand is a command that was carried out while its device waits for its
next cycle, somebody asks for that cycle in its place. So an errand has no other effect than that.

* `Sent`, `Vendor.without`, `without`: the timeline without an errand.
* `Omits`: two timelines that have the same but for an errand.
* `Omits.run`: that stays so.
* `run_undisturbed`: commands and single polls disturb nothing.
-/
namespace DeviceHub

variable {κ : Type}

/-- The request that was sent for an errand: the device that it is about, and its place among the requests
about that device. -/
structure Sent (κ : Type) where
  device : String
  place : Nat
  inquiry : Inquiry κ

namespace Sent

variable {α β : Type} (e : Sent κ)

/-- A device's list with something at the errand's place. -/
def amid (x : α) (device : String) (l : List α) : List α :=
  if device = e.device then l.insertIdx e.place x else l

/-- The number of another request, beside the errand. -/
def numberWith (device : String) (number : Nat) : Nat :=
  if device = e.device ∧ e.place ≤ number then number + 1 else number

/-- The number of another request, without the errand. -/
def numberWithout (device : String) (number : Nat) : Nat :=
  if device = e.device ∧ e.place < number then number - 1 else number

theorem numberWith_numberWithout {device : String} {number : Nat}
    (hne : ¬(device = e.device ∧ number = e.place)) :
    e.numberWith device (e.numberWithout device number) = number := by
  unfold numberWith numberWithout
  by_cases hdevice : device = e.device
  · have hnumber : number ≠ e.place := fun h => hne ⟨hdevice, h⟩
    simp only [hdevice, true_and]
    split <;> split <;> omega
  · simp [hdevice]

theorem map_amid (f : α → β) (x : α) (device : String) (l : List α) :
    (e.amid x device l).map f = e.amid (f x) device (l.map f) := by
  unfold amid
  split
  · exact List.map_insertIdx ..
  · rfl

theorem getElem?_amid (x : α) (device : String) (l : List α) (number : Nat) :
    (e.amid x device l)[e.numberWith device number]? = l[number]? := by
  unfold amid numberWith
  by_cases hdevice : device = e.device
  · simp only [hdevice, if_true, true_and]
    split
    · next hle => rw [List.getElem?_insertIdx_of_gt (Nat.lt_succ_of_le hle)]; rfl
    · next hlt => rw [List.getElem?_insertIdx_of_lt (Nat.lt_of_not_le hlt)]
  · simp [hdevice]

theorem getElem?_amid_place {x : α} {l : List α} (hplace : e.place ≤ l.length) :
    (e.amid x e.device l)[e.place]? = some x := by
  rw [amid, if_pos rfl, List.getElem?_insertIdx_self, if_pos hplace]

theorem set_amid_place (x y : α) {l : List α} (hplace : e.place ≤ l.length) :
    (e.amid x e.device l).set e.place y = e.amid y e.device l := by
  refine List.ext_getElem? fun i => ?_
  simp only [amid, if_true, List.getElem?_set, List.length_insertIdx, List.getElem?_insertIdx]
  grind

theorem set_amid (x y : α) (device : String) (l : List α) (number : Nat) :
    (e.amid x device l).set (e.numberWith device number) y = e.amid x device (l.set number y) := by
  refine List.ext_getElem? fun i => ?_
  unfold amid numberWith
  by_cases hdevice : device = e.device
  · simp only [hdevice, if_true, true_and, List.getElem?_set, List.length_insertIdx,
      List.getElem?_insertIdx, List.length_set]
    grind
  · simp [hdevice]

theorem concat_amid (x y : α) {device : String} {l : List α}
    (hplace : device = e.device → e.place ≤ l.length) :
    e.amid x device l ++ [y] = e.amid x device (l ++ [y]) := by
  refine List.ext_getElem? fun i => ?_
  unfold amid
  by_cases hdevice : device = e.device
  · have hplace := hplace hdevice
    simp only [hdevice, if_true, getElem?_concat, List.getElem?_insertIdx, List.length_insertIdx,
      List.length_append, List.length_singleton]
    grind
  · simp [hdevice]

end Sent

/-- Vendors that report on each request what others report on it beside the errand. -/
def Vendor.without (vendor : Vendor κ) (e : Sent κ) : Vendor κ := fun asked device number time =>
  vendor (fun d => e.amid e.inquiry d (asked d)) device (e.numberWith device number) time

namespace Timeline

/-- The request that a command or a single poll sends. -/
def sent? (s : Timeline κ) : Act κ → Option (Sent κ)
  | .command device request =>
    match s.hub.commandClient device with
    | .ok client => some ⟨device, (s.log device).length, s.now, client, request⟩
    | .error _ => none
  | .pollOnce c =>
    match s.hub.resolve c with
    | .ok (client, _) =>
      some ⟨c.identity.device, (s.log c.identity.device).length, s.now, client, c.request⟩
    | .error _ => none
  | .tick | .turn _ | .hear .. | .call _ => none

section

variable (vendor : Vendor κ) (e : Sent κ)

/-- What happens without an errand, when an act happens beside it: the same, but that the report on the
errand is not heard. If the report makes a cycle due, somebody asks for the cycle then. -/
def instead (s : Timeline κ) : Act κ → List (Act κ)
  | .tick => if s.isSettled vendor then [.tick] else []
  | .hear device number =>
    if device = e.device ∧ number = e.place then
      if s.prompts vendor device number then [.call (.refresh device)] else []
    else [.hear device (e.numberWithout device number)]
  | a => [a]

/-- What happens without an errand. -/
def without (calendar : Nat → Instant) : Timeline κ → List (Act κ) → List (Act κ)
  | _, [] => []
  | s, a :: acts => s.instead vendor e a ++ without calendar (s.step calendar vendor a) acts

end

variable {calendar : Nat → Instant} {vendor : Vendor κ} {s s' w w' : Timeline κ} {device : String}
  {number n : Nat} {a : Act κ} {e : Sent κ}

/-- A timeline has what another has, but for an errand and what was answered to operations. -/
structure Omits (e : Sent κ) (s w : Timeline κ) : Prop where
  hub : w.hub = s.hub
  now : w.now = s.now
  place : e.place ≤ (w.log e.device).length
  log : ∃ waiter : Option Waiter, waiter.all (·.isErrand) = true ∧
    ∀ device, s.log device = e.amid ⟨e.inquiry, waiter⟩ device (w.log device)

/-! ## What is the same without an errand -/

theorem Omits.asked (ho : Omits e s w) : s.asked = fun d => e.amid e.inquiry d (w.asked d) := by
  obtain ⟨waiter, -, hlog⟩ := ho.log
  funext d
  rw [Timeline.asked, hlog, Sent.map_amid]
  rfl

theorem Omits.getElem? (ho : Omits e s w) (device : String) (number : Nat) :
    (s.log device)[e.numberWith device number]? = (w.log device)[number]? := by
  obtain ⟨waiter, -, hlog⟩ := ho.log
  rw [hlog, Sent.getElem?_amid]

theorem Omits.report? (ho : Omits e s w) (device : String) (number : Nat) :
    w.report? (vendor.without e) device number =
      s.report? vendor device (e.numberWith device number) := by
  rw [Timeline.report?, Timeline.report?, Vendor.without, ← ho.asked, ho.now]

theorem Omits.isDue (ho : Omits e s w) (device : String) (number : Nat) :
    w.isDue (vendor.without e) device number = s.isDue vendor device (e.numberWith device number) := by
  rw [Timeline.isDue, Timeline.isDue, ho.getElem?, ho.report?]

/-- The clock may move when it may beside the errand. -/
theorem Omits.isSettled (ho : Omits e s w) (hsettled : s.isSettled vendor = true) :
    w.isSettled (vendor.without e) = true := by
  rw [Timeline.isSettled, Bool.and_eq_true]
  constructor
  · rw [ho.hub, ho.now]
    exact (Bool.and_eq_true_iff.1 hsettled).1
  · simp only [List.all_eq_true, List.mem_range]
    intro entry _ number _
    rw [ho.isDue, isDue_of_isSettled hsettled]
    rfl

/-! ## What stays so -/

theorem Omits.congr (ho : Omits e s w) (hhub : w'.hub = s'.hub) (hnow : w'.now = s'.now)
    (hs : s'.queries = s.queries) (hw : w'.queries = w.queries) : Omits e s' w' := by
  have hslog : s'.log = s.log := by funext d; rw [Timeline.log, hs]; rfl
  have hwlog : w'.log = w.log := by funext d; rw [Timeline.log, hw]; rfl
  refine ⟨hhub, hnow, ?_, ?_⟩
  · rw [hwlog]
    exact ho.place
  · rw [hslog, hwlog]
    exact ho.log

theorem Omits.ask (ho : Omits e s w) (client : Client κ) (device : String) (request : DeviceRequest)
    (waiter : Waiter) : Omits e (s.ask client device request waiter) (w.ask client device request waiter) := by
  obtain ⟨own, howner, hlog⟩ := ho.log
  refine ⟨ho.hub, ho.now, ?_, own, howner, fun d => ?_⟩
  · rw [log_ask]
    split
    · exact Nat.le_trans ho.place (by simp)
    · exact ho.place
  · rw [log_ask, log_ask, ho.now]
    split
    · have hplace : d = e.device → e.place ≤ (w.log d).length := fun hd => hd ▸ ho.place
      rw [hlog, Sent.concat_amid e _ _ hplace]
    · exact hlog d

/-- Nobody waits any more for the report on another request. -/
theorem Omits.heard (ho : Omits e s w) (device : String) (number : Nat) (q : Query κ) :
    Omits e (s.withLog device ((s.log device).set (e.numberWith device number) q))
      (w.withLog device ((w.log device).set number q)) := by
  obtain ⟨own, howner, hlog⟩ := ho.log
  refine ⟨ho.hub, ho.now, ?_, own, howner, fun d => ?_⟩
  · rw [log_withLog]
    split
    · next hdevice =>
      rw [List.length_set, hdevice]
      exact ho.place
    · exact ho.place
  · rw [log_withLog, log_withLog]
    split
    · next hdevice =>
      subst hdevice
      rw [hlog, Sent.set_amid]
    · exact hlog d

/-- Nobody waits any more for the report on the errand. -/
theorem Omits.heard_errand (ho : Omits e s w) :
    Omits e (s.withLog e.device ((s.log e.device).set e.place ⟨e.inquiry, none⟩)) w := by
  obtain ⟨own, -, hlog⟩ := ho.log
  refine ⟨ho.hub, ho.now, ho.place, none, rfl, fun d => ?_⟩
  rw [log_withLog]
  split
  · next hdevice =>
    subst hdevice
    rw [hlog, Sent.set_amid_place e _ _ ho.place]
  · next hne =>
    rw [hlog, Sent.amid, Sent.amid, if_neg (Ne.symm hne), if_neg (Ne.symm hne)]

theorem Omits.deliver (ho : Omits e s w) (device : String) (report : Report) (waiter : Waiter) :
    Omits e (s.deliver calendar device report waiter) (w.deliver calendar device report waiter) := by
  cases waiter with
  | task n =>
    simp only [Timeline.deliver, ho.hub, ho.now]
    exact ho.congr rfl rfl rfl rfl
  | command =>
    simp only [Timeline.deliver, ho.hub]
    exact ho.congr rfl ho.now rfl rfl
  | pollOnce => exact ho.congr ho.hub ho.now rfl rfl

theorem queries_deliver (s : Timeline κ) (device : String) (report : Report) (waiter : Waiter) :
    (s.deliver calendar device report waiter).queries = s.queries := by
  cases waiter <;> rfl

theorem Omits.turn (ho : Omits e s w) (n : Nat) : Omits e (s.turn n) (w.turn n) := by
  unfold Timeline.turn
  rw [ho.hub]
  cases s.hub.task? n with
  | none => exact ho
  | some t =>
    have hwake : s.hub.wake n w.now = s.hub.wake n s.now := by rw [ho.now]
    have hawake : Omits e { s with hub := (s.hub.wake n s.now).2 }
        { w with hub := (s.hub.wake n s.now).2 } := ho.congr rfl ho.now rfl rfl
    simp only [hwake]
    split
    · exact hawake.ask ..
    · exact hawake

/-- The report on another request is heard. -/
theorem Omits.hear (ho : Omits e s w) (device : String) (number : Nat) :
    Omits e (s.hear calendar vendor device (e.numberWith device number))
      (w.hear calendar (vendor.without e) device number) := by
  have hdue : w.isDue (vendor.without e) device number =
      s.isDue vendor device (e.numberWith device number) := ho.isDue device number
  rcases hear_cases calendar vendor s device (e.numberWith device number) with
    ⟨hidle, hsame⟩ | ⟨q, waiter, report, hq, hwaiter, hreport, hheard⟩
  · rw [hsame, hear_of_not_isDue (hdue.trans hidle)]
    exact ho
  · have hq' : (w.log device)[number]? = some q := (ho.getElem? device number).symm.trans hq
    have hreport' := (ho.report? device number).trans hreport
    rw [hheard, hear_of_isDue calendar hq' hwaiter hreport']
    exact (ho.heard device number _).deliver device report waiter

/-- The report on the errand is heard: its device is asked for a cycle, if anything happens. -/
theorem Omits.hear_errand (ho : Omits e s w) :
    Omits e (s.hear calendar vendor e.device e.place)
      (w.run calendar (vendor.without e) (s.instead vendor e (.hear e.device e.place))) := by
  have hinstead : s.instead vendor e (.hear e.device e.place) =
      if s.prompts vendor e.device e.place then [.call (.refresh e.device)] else [] := by simp [instead]
  rw [hinstead]
  rcases hear_cases calendar vendor s e.device e.place with
    ⟨hidle, hsame⟩ | ⟨q, waiter, report, hq, hwaiter, -, hheard⟩
  · rw [hsame, prompts_of_not_isDue hidle]
    exact ho
  · obtain ⟨own, howner, hlog⟩ := ho.log
    obtain rfl : ⟨e.inquiry, own⟩ = q := by
      rw [hlog, Sent.getElem?_amid_place e ho.place] at hq
      exact Option.some.inj hq
    obtain rfl : own = some waiter := hwaiter
    have herrand : s.isErrand e.device e.place = true := by
      rw [isErrand, waiter?, hq]
      exact howner
    have hhub : (s.hear calendar vendor e.device e.place).hub =
        if s.prompts vendor e.device e.place = true then (s.hub.refresh e.device).2 else s.hub :=
      hub_hear herrand
    have hnow : (s.hear calendar vendor e.device e.place).now = s.now := now_hear s e.device e.place
    rw [hheard] at hhub hnow ⊢
    cases hprompts : s.prompts vendor e.device e.place with
    | false =>
      rw [hprompts, if_neg Bool.false_ne_true] at hhub
      exact ho.heard_errand.congr (ho.hub.trans hhub.symm) (ho.now.trans hnow.symm)
        (queries_deliver ..) rfl
    | true =>
      rw [hprompts, if_pos rfl, ← ho.hub] at hhub
      exact ho.heard_errand.congr hhub.symm (ho.now.trans hnow.symm) (queries_deliver ..) rfl

theorem Omits.step (ho : Omits e s w) (a : Act κ) :
    Omits e (s.step calendar vendor a) (w.run calendar (vendor.without e) (s.instead vendor e a)) := by
  cases a with
  | tick =>
    simp only [Timeline.step, instead]
    split
    · next hsettled =>
      have hmoves : w.run calendar (vendor.without e) [.tick] = { w with now := w.now + 1 } :=
        if_pos (ho.isSettled hsettled)
      rw [hmoves]
      exact ho.congr ho.hub (congrArg (· + 1) ho.now) rfl rfl
    · exact ho
  | turn n => exact ho.turn n
  | hear device number =>
    by_cases herrand : device = e.device ∧ number = e.place
    · obtain ⟨rfl, rfl⟩ := herrand
      exact ho.hear_errand
    · have hinstead : s.instead vendor e (.hear device number) =
          [.hear device (e.numberWithout device number)] := by simp [instead, herrand]
      have hheard : Omits e (s.hear calendar vendor device _)
          (w.hear calendar (vendor.without e) device _) := ho.hear device (e.numberWithout device number)
      rw [Sent.numberWith_numberWithout e herrand] at hheard
      rw [hinstead]
      exact hheard
  | call b =>
    show Omits e (s.step calendar vendor (.call b)) (w.step calendar (vendor.without e) (.call b))
    simp only [Timeline.step, ho.hub]
    split
    · split <;> exact ho.congr rfl ho.now rfl rfl
    · exact ho
  | command device request =>
    show Omits e (s.step calendar vendor (.command device request))
      (w.step calendar (vendor.without e) (.command device request))
    simp only [Timeline.step, ho.hub]
    split
    · exact ho.congr ho.hub ho.now rfl rfl
    · exact ho.ask ..
  | pollOnce c =>
    show Omits e (s.step calendar vendor (.pollOnce c)) (w.step calendar (vendor.without e) (.pollOnce c))
    simp only [Timeline.step, ho.hub]
    split
    · exact ho.congr ho.hub ho.now rfl rfl
    · exact ho.ask ..

/-- Whatever happens beside the errand happens without it. -/
theorem Omits.run (ho : Omits e s w) (acts : List (Act κ)) :
    Omits e (s.run calendar vendor acts)
      (w.run calendar (vendor.without e) (s.without vendor e calendar acts)) := by
  induction acts generalizing s w with
  | nil => exact ho
  | cons a acts ih =>
    have hruns : w.run calendar (vendor.without e) (s.without vendor e calendar (a :: acts)) =
        (w.run calendar (vendor.without e) (s.instead vendor e a)).run calendar (vendor.without e)
          ((s.step calendar vendor a).without vendor e calendar acts) := List.foldl_append ..
    rw [hruns]
    exact ih (ho.step a)

/-- A timeline has an errand besides, right after that was sent. -/
theorem omits_of_sent? (he : s.sent? a = some e) : Omits e (s.step calendar vendor a) s := by
  have hasked {client : Client κ} {device : String} {request : DeviceRequest} {waiter : Waiter}
      (hw : waiter.isErrand = true) :
      Omits ⟨device, (s.log device).length, s.now, client, request⟩
        (s.ask client device request waiter) s := by
    refine ⟨rfl, rfl, Nat.le_refl _, some waiter, hw, fun d => ?_⟩
    rw [log_ask, Sent.amid]
    by_cases hdevice : device = d
    · subst hdevice
      rw [if_pos rfl, if_pos rfl, List.insertIdx_length_self]
    · rw [if_neg hdevice, if_neg (Ne.symm hdevice)]
  cases a with
  | command device request =>
    simp only [sent?] at he
    simp only [Timeline.step]
    split at he
    · next client hclient =>
      cases he
      simp only [hclient]
      exact hasked rfl
    · cases he
  | pollOnce c =>
    simp only [sent?] at he
    simp only [Timeline.step]
    split at he
    · next client schema hclient =>
      cases he
      simp only [hclient]
      exact hasked rfl
    · cases he
  | tick | turn | hear | call => cases he

/-! ## Errands that cannot be sent -/

theorem exists_tell_of_sent? (ha : a.isErrand = true) (he : s.sent? a = none) :
    ∃ device answer, s.step calendar vendor a = s.tell device answer := by
  cases a with
  | command device request =>
    simp only [sent?] at he
    simp only [Timeline.step]
    split at he
    · cases he
    · next e hclient => exact ⟨device, .commanded (.error e), by simp only [hclient]⟩
  | pollOnce c =>
    simp only [sent?] at he
    simp only [Timeline.step]
    split at he
    · cases he
    · next e hclient => exact ⟨c.identity.device, .polled (.error e), by simp only [hclient]⟩
  | tick | turn | hear | call => cases ha

/-- What operations answered makes no difference to anything. -/
theorem step_answers (s : Timeline κ) (x : Dict (List (Nat × Answer))) (a : Act κ) :
    ∃ y, step calendar vendor { s with answers := x } a =
      { step calendar vendor s a with answers := y } := by
  cases a with
  | tick =>
    have hsettled : isSettled vendor { s with answers := x } = s.isSettled vendor := rfl
    simp only [Timeline.step, hsettled]
    split <;> exact ⟨x, rfl⟩
  | turn n =>
    simp only [Timeline.step, Timeline.turn]
    cases s.hub.task? n with
    | none => exact ⟨x, rfl⟩
    | some t =>
      simp only
      split <;> exact ⟨x, rfl⟩
  | hear device number =>
    rw [Timeline.step, Timeline.step]
    rcases hear_cases calendar vendor s device number with
      ⟨hidle, hsame⟩ | ⟨q, waiter, report, hq, hwaiter, hreport, hheard⟩
    · have hidle' : isDue vendor { s with answers := x } device number = false := hidle
      exact ⟨x, by rw [hsame, hear_of_not_isDue hidle']⟩
    · have hq' : (log { s with answers := x } device)[number]? = some q := hq
      have hreport' : report? vendor { s with answers := x } device number = some report := hreport
      rw [hheard, hear_of_isDue calendar hq' hwaiter hreport']
      cases waiter <;> exact ⟨_, rfl⟩
  | call b =>
    simp only [Timeline.step]
    split
    · split <;> exact ⟨_, rfl⟩
    · exact ⟨x, rfl⟩
  | command | pollOnce =>
    simp only [Timeline.step]
    split <;> exact ⟨_, rfl⟩

theorem run_answers (s : Timeline κ) (x : Dict (List (Nat × Answer))) (acts : List (Act κ)) :
    ∃ y, run calendar vendor { s with answers := x } acts =
      { run calendar vendor s acts with answers := y } := by
  induction acts generalizing s x with
  | nil => exact ⟨x, rfl⟩
  | cons a acts ih =>
    have hstep : ∃ y, step calendar vendor { s with answers := x } a =
        { step calendar vendor s a with answers := y } := step_answers s x a
    obtain ⟨y, hstep⟩ := hstep
    obtain ⟨z, hrun⟩ := ih (s.step calendar vendor a) y
    refine ⟨z, ?_⟩
    show run calendar vendor (step calendar vendor { s with answers := x } a) acts = _
    rw [hstep]
    exact hrun

/-! ## Every run -/

/-- Commands and single polls do not disturb the devices. -/
structure Undisturbed (calendar : Nat → Instant) (vendor : Vendor κ) (s : Timeline κ) : Prop where
  /-- Nothing of the hub changes when an errand is sent: no registration, no health, no snapshot, no poll
  task and nothing that listeners are told. -/
  sent : ∀ a, a.isErrand = true → (s.step calendar vendor a).hub = s.hub
  /-- Nor when it is answered, unless it is a command that was carried out while its device waits for its
  next cycle. -/
  answered : ∀ device number, s.isErrand device number = true →
    s.prompts vendor device number = false →
      (s.step calendar vendor (.hear device number)).hub = s.hub
  /-- Then nothing changes but that the poll task of the device was asked for a cycle. -/
  prompted : ∀ device number, s.prompts vendor device number = true →
    ∃ n t, s.hub.taskOf? device = some (n, t) ∧
      (s.step calendar vendor (.hear device number)).hub =
        s.hub.withPoller n { t.poller with isTriggered := true }
  /-- The cycle starts at that time, whatever happens then, unless a call cancels the task first. -/
  served : ∀ device number, s.prompts vendor device number = true → s.hub.isShutDown = false →
    ∃ n, ∀ acts,
      Served calendar vendor device n (s.step calendar vendor (.hear device number)) acts
  /-- Until it starts, all who ask for a cycle ask for this one, whether by a command or by themselves. -/
  together : ∀ device n, s.hub.Due device n → (s.hub.refresh device).2 = s.hub ∧
    ∀ number, s.isErrand device number = true →
      (s.step calendar vendor (.hear device number)).hub = s.hub
  /-- When a cycle ends, nobody has asked for another yet. -/
  once : ∀ device number n, s.Expects device number n → s.isDue vendor device number = true →
    ∀ t, (s.step calendar vendor (.hear device number)).hub.task? n = some t →
      t.poller.isTriggered = false
  /-- Once the hub was shut down no cycle starts, whoever asks for it. -/
  closed : s.hub.isShutDown = true → ∀ acts n,
    let s' := s.run calendar vendor acts
    (s'.hub.wake n s'.now).1 = false
  /-- What happens after an errand was sent happens without it, to the same hub at the same times, and the
  same is asked but for the errand itself. -/
  unnoticed : ∀ a e, s.sent? a = some e → ∀ acts,
    let s' := (s.step calendar vendor a).run calendar vendor acts
    let w := s.run calendar (vendor.without e) ((s.step calendar vendor a).without vendor e calendar acts)
    w.hub = s'.hub ∧ w.now = s'.now ∧ s'.asked = fun d => e.amid e.inquiry d (w.asked d)
  /-- It is the same with an errand that cannot be sent. -/
  unsent : ∀ a, a.isErrand = true → s.sent? a = none → ∀ acts,
    let s' := (s.step calendar vendor a).run calendar vendor acts
    let w := s.run calendar vendor acts
    w.hub = s'.hub ∧ w.now = s'.now ∧ s'.asked = w.asked

/-- Whatever has happened, whatever the vendors report, and whatever happens next: commands and single
polls change nothing of the devices, but that a command that was carried out gives its device a cycle at
once, if the device waits for one. All later cycles start when they would start without the errand, as
long as the vendors take the same time for them and report the same. -/
theorem run_undisturbed (calendar : Nat → Instant) (vendor : Vendor κ) (schemas : SchemaRegistry)
    (acts : List (Act κ)) : Undisturbed calendar vendor ((new schemas).run calendar vendor acts) := by
  have hs : Paired ((new schemas).run calendar vendor acts) := (paired_new schemas).run acts
  generalize (new schemas).run calendar vendor acts = s at hs
  exact
    { sent := fun a ha => hub_of_errand ha
      answered := fun device number he hp => by
        rw [Timeline.step, hub_hear he, hp, if_neg Bool.false_ne_true]
      prompted := fun device number hp => by
        obtain ⟨n, t, ht, hstate⟩ := Hub.exists_of_awaits (prompts_iff.1 hp).2.2
        refine ⟨n, t, ht, ?_⟩
        rw [Timeline.step, hub_hear (isErrand_of_prompts hp), if_pos hp, Hub.refresh_of_state ht hstate]
      served := fun device number hp hopen => by
        obtain ⟨n, t, ht, hstate⟩ := Hub.exists_of_awaits (prompts_iff.1 hp).2.2
        obtain ⟨life, hk⟩ := hs.kept hopen device
        refine ⟨n, fun later => served_of_due (hs.step _) ?_ later⟩
        rw [Timeline.step, hub_hear (isErrand_of_prompts hp), if_pos hp]
        exact Hub.due_refresh ht (hk.awaits ht hstate)
      together := fun device n hd => by
        refine ⟨hd.refresh, fun number he => ?_⟩
        rw [Timeline.step, hub_hear he, hd.refresh, ite_self]
      once := fun device number n hn hdue t ht => not_isTriggered_hear hn hdue ht
      closed := fun hshut later n =>
        Hub.wake_of_isShutDown (hs.run later).sound.wired (isShutDown_run hshut later) n _
      unnoticed := fun a e he later => by
        have ho : Omits e ((s.step calendar vendor a).run calendar vendor later) _ :=
          (omits_of_sent? he).run later
        exact ⟨ho.hub, ho.now, ho.asked⟩
      unsent := fun a ha he later => by
        obtain ⟨device, answer, htold⟩ := exists_tell_of_sent? ha he
        have hrun : ∃ y, run calendar vendor (s.tell device answer) later =
            { run calendar vendor s later with answers := y } := run_answers s _ later
        obtain ⟨y, hrun⟩ := hrun
        intro s' w
        have hsame : s' = { w with answers := y } := by
          show run calendar vendor (s.step calendar vendor a) later = _
          rw [htold, hrun]
        rw [hsame]
        exact ⟨rfl, rfl, rfl⟩ }

/-- Before anything happens the cycle is due. -/
theorem Served.due_nil (h : Served calendar vendor device n s []) : s.hub.Due device n := by
  cases h with
  | due _ due => exact due
  | started hacts => simp at hacts
  | cancelled hacts => simp at hacts

/-- A plug that has been polled once is sent two commands, which are both carried out a millisecond later.
One cycle starts then, and serves both; the next one would have started five seconds later. Nobody notices
that they were sent, nor that one was sent to a plug that is not there, and in a hub that was shut down no
cycle starts. -/
theorem run_undisturbed_commanded :
    let s := noDevices.run frozen grants plugAlone
    let command : Act Unit := .command "p1" Hub.plug.request
    let carriedOut := noDevices.run frozen grants (plugAlone ++ [command, command, .tick])
    let heard := carriedOut.step frozen grants (.hear "p1" 1)
    let closed := noDevices.run frozen grants (plugAlone ++ [command, .call .beginShutdown, .tick])
    (s.step frozen grants command).hub = s.hub ∧
    carriedOut.prompts grants "p1" 1 = true ∧
    (∃ n, ∀ acts, Served frozen grants "p1" n heard acts) ∧
    (heard.step frozen grants (.hear "p1" 2)).hub = heard.hub ∧
    (∀ acts n, let s' := closed.run frozen grants acts; (s'.hub.wake n s'.now).1 = false) ∧
    (∃ e, s.sent? command = some e ∧ ∀ acts,
      let sent := s.step frozen grants command
      (s.run frozen (grants.without e) (sent.without grants e frozen acts)).hub =
        (sent.run frozen grants acts).hub) ∧
    (∀ acts, (s.run frozen grants acts).asked =
      ((s.step frozen grants (.command "p3" Hub.plug.request)).run frozen grants acts).asked) ∧
    ((noDevices.run frozen grants (plugAlone ++ [command, command, .tick, .hear "p1" 1, .hear "p1" 2,
        .turn 0])).log "p1").map (fun q => (q.inquiry.time, q.waiter.isSome)) =
      [(0, false), (1, false), (1, false), (2, true)] := by
  intro s command carriedOut heard closed
  have hundisturbed (acts : List (Act Unit)) :
      Undisturbed frozen grants (noDevices.run frozen grants acts) :=
    run_undisturbed frozen grants [("plug", Hub.plugSchema)] acts
  have hprompts : carriedOut.prompts grants "p1" 1 = true := by decide +kernel
  obtain ⟨n, hserved⟩ := (hundisturbed (plugAlone ++ [command, command, .tick])).served "p1" 1 hprompts
    (by decide +kernel)
  refine ⟨(hundisturbed plugAlone).sent command rfl, hprompts, ⟨n, hserved⟩, ?_, ?_, ?_, ?_,
    by decide +kernel⟩
  · have hheard := hundisturbed (plugAlone ++ [command, command, .tick] ++ [.hear "p1" 1])
    rw [run_concat] at hheard
    exact (hheard.together "p1" n (hserved []).due_nil).2 2 (by decide +kernel)
  · have hclosed : Undisturbed frozen grants closed := hundisturbed _
    exact hclosed.closed (by decide +kernel)
  · obtain ⟨e, he⟩ : ∃ e, s.sent? command = some e :=
      Option.isSome_iff_exists.1 (by decide +kernel)
    exact ⟨e, he, fun acts => ((hundisturbed plugAlone).unnoticed command e he acts).1⟩
  · exact fun acts =>
      ((hundisturbed plugAlone).unsent (.command "p3" Hub.plug.request) rfl (by decide +kernel) acts).2.2.symm

end Timeline

end DeviceHub
