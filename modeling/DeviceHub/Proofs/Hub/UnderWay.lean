import DeviceHub.Proofs.Hub.Refusals
import DeviceHub.Proofs.Hub.Suspension

/-!
# Cycles that are under way on a timeline

A poll task that starts a cycle sends one request and waits for the report on it. The cycle is under way
until that report is heard, whatever is called meanwhile. So nobody's cycle is ever ended twice, and the
hub of a timeline is one that acts on it bring about.

* `Hub.Nudges`: what calls do to the poll tasks that are there.
* `Paired`: a cycle under way for every report that a poll task waits for, and one report for each.
* `Paired.run`: that holds whatever happens.
* `Paired.kept`: what a hub keeps of a device, on a timeline.
-/
namespace DeviceHub

variable {κ : Type}

/-- A poll task has been asked for a cycle, or forbidden further ones, if anything. -/
structure Poller.Nudged (p p' : Poller) : Prop where
  phase : p'.phase = p.phase
  state : p'.state = p.state
  triggered : p.isTriggered = true → p'.isTriggered = true

namespace Poller

variable {p p' p'' : Poller}

theorem nudged_refl (p : Poller) : p.Nudged p := ⟨rfl, rfl, id⟩

theorem Nudged.trans (h : p.Nudged p') (h' : p'.Nudged p'') : p.Nudged p'' :=
  ⟨h'.phase.trans h.phase, h'.state.trans h.state, fun ht => h'.triggered (h.triggered ht)⟩

theorem nudged_cancel (p : Poller) : p.Nudged p.cancel := ⟨rfl, rfl, id⟩

theorem nudged_refresh (p : Poller) : p.Nudged p.refresh.2 := by
  refine ⟨p.refresh_phase, p.refresh_state, fun ht => ?_⟩
  unfold refresh
  split
  · exact ht
  · exact ht
  · exact ht
  · rfl
  · rfl

theorem wake_of_cycling (hp : p.phase = .cycling) (time : Nat) : p.wake time = (false, p) := by
  simp [wake, hp]

/-- Only a task without a cycle under way starts one. -/
theorem phase_of_wake {time : Nat} (h : (p.wake time).1 = true) : p.phase ≠ .cycling := by
  intro hp
  rw [wake_of_cycling hp] at h
  cases h

theorem wake_starts {time : Nat} (h : (p.wake time).1 = true) :
    (p.wake time).2.phase = .cycling ∧ (p.wake time).2.state = .running := by
  unfold wake at h ⊢
  cases hp : p.phase with
  | cycling | ended => simp [hp] at h
  | fresh =>
    cases hc : p.isCancelled with
    | true => simp [hp, hc] at h
    | false => exact ⟨rfl, rfl⟩
  | waiting due =>
    cases hc : p.isCancelled with
    | true => simp [hp, hc] at h
    | false =>
      cases ht : p.isTriggered with
      | true => exact ⟨rfl, rfl⟩
      | false =>
        simp only [hp, hc, ht, Bool.false_eq_true, if_false] at h ⊢
        split at h
        · next hd =>
          rw [if_pos hd]
          exact ⟨rfl, rfl⟩
        · cases h

theorem finish_isTriggered (p : Poller) (time : Nat) (verdict : Verdict) :
    (p.finish time verdict).isTriggered = false := by
  unfold finish
  simp only
  split
  · rfl
  · split
    · rfl
    · split <;> rfl

end Poller

namespace Hub

variable {h h' h'' : Hub κ} {device : String} {a : Act κ}

/-! ## Shutting down is for good -/

theorem Change.isShutDown (hc : Change h h') (hshut : h.isShutDown = true) : h'.isShutDown = true := by
  cases hc with
  | alike ha => exact ha.isShutDown.trans hshut
  | accept hs | refuse hs =>
    rw [hs] at hshut
    cases hshut
  | dispose => exact (sameSetting_dispose h _).isShutDown.trans hshut
  | absorb => exact (absorb_isShutDown ..).trans hshut
  | beginShutdown => rfl
  | release => exact hshut

theorem Changes.isShutDown (hc : Changes h h') (hshut : h.isShutDown = true) :
    h'.isShutDown = true := by
  induction hc with
  | refl => exact hshut
  | tail _ hc ih => exact hc.isShutDown ih

/-! ## What calls do to poll tasks -/

/-- The poll tasks of one hub are there in another, and have been nudged at most. -/
def Nudges (h h' : Hub κ) : Prop :=
  ∀ n t, h.task? n = some t → ∃ p, h'.task? n = some { t with poller := p } ∧ t.poller.Nudged p

theorem nudges_of_tasks (ht : h'.tasks = h.tasks) : Nudges h h' := by
  intro n t hn
  refine ⟨t.poller, ?_, t.poller.nudged_refl⟩
  rw [task?, ht]
  exact hn

theorem Nudges.trans (hn : Nudges h h') (hn' : Nudges h' h'') : Nudges h h'' := by
  intro n t ht
  obtain ⟨p, hp, hnudged⟩ := hn n t ht
  obtain ⟨p', hp', hnudged'⟩ := hn' n _ hp
  exact ⟨p', hp', hnudged.trans hnudged'⟩

theorem Nudges.isCycling (hn : Nudges h h') {n : Nat} (hcycling : h.isCycling n = true) :
    h'.isCycling n = true := by
  simp only [Hub.isCycling, Option.any_eq_true, decide_eq_true_eq] at hcycling ⊢
  obtain ⟨t, ht, hphase⟩ := hcycling
  obtain ⟨p, hp, hnudged⟩ := hn n t ht
  exact ⟨_, hp, hnudged.phase.trans hphase⟩

theorem nudges_refresh (h : Hub κ) (device : String) : Nudges h (h.refresh device).2 := by
  unfold refresh
  split
  · exact nudges_of_tasks rfl
  · split
    · exact nudges_of_tasks rfl
    · next n t ht =>
      intro m u hu
      simp only
      rw [task?_withPoller, hu, Option.map_some]
      by_cases hm : n = m
      · subst hm
        obtain rfl : t = u := Option.some.inj ((taskOf?_eq_some ht).symm.trans hu)
        exact ⟨t.poller.refresh.2, by rw [if_pos rfl], t.poller.nudged_refresh⟩
      · exact ⟨u.poller, by rw [if_neg hm], u.poller.nudged_refl⟩

theorem nudges_dispose (h : Hub κ) (disposed : String) : Nudges h (h.dispose disposed).2 := by
  cases hd : h.devices.get? disposed with
  | none =>
    have hsame : (h.dispose disposed).2 = h := by simp [dispose, hd]
    exact nudges_of_tasks (by rw [hsame])
  | some entry =>
    intro n t ht
    rw [task?_dispose hd, ht, Option.map_some]
    split
    · exact ⟨t.poller.cancel, rfl, t.poller.nudged_cancel⟩
    · exact ⟨t.poller, rfl, t.poller.nudged_refl⟩

theorem nudges_enroll (h : Hub κ) (d : DeviceConfig) : Nudges h (h.enroll d).2 := by
  unfold enroll
  simp only
  split
  · exact nudges_of_tasks rfl
  · split
    · exact nudges_of_tasks rfl
    · split
      · intro n t ht
        refine ⟨t.poller, ?_, t.poller.nudged_refl⟩
        rw [task?_accept, if_neg (Nat.ne_of_lt (task?_lt ht)), ht]
      · exact nudges_of_tasks rfl

theorem nudges_call (h : Hub κ) (ha : a.isCall = true) : Nudges h (h.step a) := by
  cases a with
  | attach | renew | subscribe => exact nudges_of_tasks rfl
  | register fault b => exact nudges_of_tasks (tasks_register h fault b)
  | enroll d => exact nudges_enroll h d
  | dispose d => exact nudges_dispose h d
  | restart d =>
    rw [step, restart]
    split
    · exact nudges_of_tasks rfl
    · exact (nudges_dispose h d).trans (nudges_enroll _ _)
  | update c => exact (nudges_dispose h c.identity.device).trans (nudges_enroll _ c)
  | refresh d => exact nudges_refresh h d
  | beginShutdown =>
    intro n t ht
    exact ⟨t.poller.cancel, by rw [step, task?_beginShutdown, ht]; rfl, t.poller.nudged_cancel⟩
  | release d =>
    rw [step]
    split <;> exact nudges_of_tasks rfl
  | commandDone | wake | finish => cases ha

/-! ## Turns and the ends of cycles -/

/-- A turn of a task leaves the other tasks as they are, and a cycle under way as it is. -/
theorem isCycling_wake {n m time : Nat} (hm : h.isCycling m = true) :
    (h.wake n time).2.isCycling m = true := by
  unfold wake
  split
  · exact hm
  · next t ht =>
    simp only [Hub.isCycling, Option.any_eq_true, decide_eq_true_eq] at hm ⊢
    obtain ⟨u, hu, hphase⟩ := hm
    rw [task?_withPoller, hu]
    refine ⟨_, rfl, ?_⟩
    split
    · next hnm =>
      subst hnm
      obtain rfl : t = u := Option.some.inj (ht.symm.trans hu)
      rw [Poller.wake_of_cycling hphase]
      exact hphase
    · exact hphase

theorem isCycling_of_wake {n time : Nat} (h : Hub κ) (hstarts : (h.wake n time).1 = true) :
    h.isCycling n = false := by
  unfold wake at hstarts
  split at hstarts
  · cases hstarts
  · next t ht =>
    have hphase := Poller.phase_of_wake hstarts
    simp [Hub.isCycling, ht, hphase]

/-- After the turn that starts a cycle it is under way. -/
theorem isCycling_wake_self {n time : Nat} (hstarts : (h.wake n time).1 = true) :
    (h.wake n time).2.isCycling n = true := by
  unfold wake at hstarts ⊢
  split at hstarts
  · cases hstarts
  · next t ht =>
    simp [Hub.isCycling, task?_withPoller, ht, (Poller.wake_starts hstarts).1]

/-- The end of a cycle of one task leaves the other tasks as they are. -/
theorem task?_finish_of_ne {n m : Nat} (hne : n ≠ m) (h : Hub κ) (time : Nat) (now : Instant)
    (answer : Except RequestError Payload) : (h.finish n time now answer).task? m = h.task? m := by
  cases ht : h.task? n with
  | none => simp [finish, ht]
  | some t =>
    obtain ⟨p, -, hfinish⟩ := finish_eq ht time now answer
    have hothers (g : Hub κ) : (g.withPoller n p).task? m = g.task? m := by
      rw [task?_withPoller]
      simp [hne]
    rw [hfinish, hothers]
    split
    · rfl
    · rw [Hub.task?, absorb_tasks]
      rfl

/-- The task itself ends its cycle. -/
theorem exists_task?_finish {n time : Nat} {now : Instant} {answer : Except RequestError Payload}
    {t : PollTask κ} (ht : (h.finish n time now answer).task? n = some t) :
    ∃ p : Poller, ∃ verdict, t.poller = p.finish time verdict := by
  cases hu : h.task? n with
  | none => simp [finish, hu] at ht
  | some u =>
    cases hlive : u.poller.isCancelled with
    | true =>
      rw [finish_of_isCancelled hu hlive, task?_withPoller, hu] at ht
      obtain rfl := Option.some.inj ht
      exact ⟨u.poller, .goOn, by simp⟩
    | false =>
      have hkept (device : String) (r : Except HubError Snapshot) :
          (h.absorb device r now).task? n = some u := by
        rw [Hub.task?, absorb_tasks]
        exact hu
      rw [finish_of_live hu hlive, task?_withPoller, hkept] at ht
      obtain rfl := Option.some.inj ht
      exact ⟨u.poller, _, by simp; rfl⟩

theorem devices_finish (h : Hub κ) (n time : Nat) (now : Instant)
    (answer : Except RequestError Payload) : (h.finish n time now answer).devices = h.devices := by
  cases ht : h.task? n with
  | none => simp [finish, ht]
  | some t =>
    obtain ⟨p, -, hfinish⟩ := finish_eq ht time now answer
    rw [hfinish]
    show (if t.poller.isCancelled then h else h.absorb _ _ _).devices = h.devices
    split
    · rfl
    · exact absorb_devices ..

end Hub

namespace Timeline

variable {calendar : Nat → Instant} {vendor : Vendor κ} {s s' : Timeline κ} {device other : String}
  {number i j n : Nat}

/-! ## Who waits for what -/

/-- Who waits for the report on a request about a device. -/
def waiter? (s : Timeline κ) (device : String) (number : Nat) : Option Waiter :=
  (s.log device)[number]?.bind (·.waiter)

/-- A poll task waits for the report on a request about a device. -/
def Expects (s : Timeline κ) (device : String) (number n : Nat) : Prop :=
  s.waiter? device number = some (.task n)

theorem expects_of_queries (hq : s'.queries = s.queries) :
    s'.Expects device number n ↔ s.Expects device number n := by
  rw [Expects, Expects, waiter?, waiter?, Timeline.log, Timeline.log, hq]

/-- A request that was sent has the last place in its log. -/
theorem expects_ask {client : Client κ} {request : DeviceRequest} {waiter : Waiter}
    (h : (s.ask client other request waiter).Expects device number n) :
    s.Expects device number n ∨
      other = device ∧ number = (s.log device).length ∧ waiter = .task n := by
  rw [Expects, waiter?, log_ask] at h
  split at h
  · next hdevice =>
    rw [getElem?_concat] at h
    split at h
    · next hlast => exact .inr ⟨hdevice, hlast, Option.some.inj h⟩
    · exact .inl h
  · exact .inl h

/-- Nobody waits for a report that was heard. -/
theorem expects_heard {q : Query κ}
    (h : (s.withLog other ((s.log other).set i { q with waiter := none })).Expects device number n) :
    s.Expects device number n ∧ (other = device → i ≠ number) := by
  rw [Expects, waiter?, log_withLog] at h
  split at h
  · next hdevice =>
    subst hdevice
    rw [List.getElem?_set] at h
    split at h
    · split at h <;> cases h
    · next hne => exact ⟨h, fun _ => hne⟩
  · next hne => exact ⟨h, fun hdevice => absurd hdevice hne⟩

/-- A poll task asks about its own device. -/
theorem Sound.expects (hs : Sound s) (h : s.Expects device number n) :
    ∃ t, s.hub.task? n = some t ∧ t.identity.device = device := by
  obtain ⟨q, hq, hwaiter⟩ := Option.bind_eq_some_iff.1 h
  exact hs.owns device q (List.mem_of_getElem? hq) n hwaiter

theorem Sound.device_eq (hs : Sound s) (h : s.Expects device i n) (h' : s.Expects other j n) :
    device = other := by
  obtain ⟨t, ht, hdevice⟩ := hs.expects h
  obtain ⟨u, hu, hother⟩ := hs.expects h'
  rw [ht] at hu
  cases hu
  exact hdevice.symm.trans hother

theorem hear_of_isDue (calendar : Nat → Instant) {q : Query κ} {waiter : Waiter} {report : Report}
    (hq : (s.log device)[number]? = some q) (hwaiter : q.waiter = some waiter)
    (hreport : s.report? vendor device number = some report) :
    s.hear calendar vendor device number =
      (s.withLog device ((s.log device).set number { q with waiter := none })).deliver calendar
        device report waiter := by
  simp only [hear, hq, hreport, hwaiter]

theorem hear_of_not_isDue (h : s.isDue vendor device number = false) :
    s.hear calendar vendor device number = s := by
  unfold hear
  split
  · next q report hq hreport =>
    have hnobody : q.waiter = none := by simpa [isDue, hq, hreport] using h
    simp only [hnobody]
  · rfl

/-- The report on a request is heard if it is there and somebody waits for it. -/
theorem hear_cases (calendar : Nat → Instant) (vendor : Vendor κ) (s : Timeline κ) (device : String)
    (number : Nat) :
    (s.isDue vendor device number = false ∧ s.hear calendar vendor device number = s) ∨
      ∃ q waiter report, (s.log device)[number]? = some q ∧ q.waiter = some waiter ∧
        s.report? vendor device number = some report ∧
        s.hear calendar vendor device number =
          (s.withLog device ((s.log device).set number { q with waiter := none })).deliver calendar
            device report waiter := by
  cases hdue : s.isDue vendor device number with
  | false => exact .inl ⟨rfl, hear_of_not_isDue hdue⟩
  | true =>
    obtain ⟨hwaits, hthere⟩ := Bool.and_eq_true_iff.1 hdue
    obtain ⟨waiter, hwaiter⟩ := Option.isSome_iff_exists.1 hwaits
    obtain ⟨report, hreport⟩ := Option.isSome_iff_exists.1 hthere
    obtain ⟨q, hq, hwaiter⟩ := Option.bind_eq_some_iff.1 hwaiter
    exact .inr ⟨q, waiter, report, hq, hwaiter, hreport, hear_of_isDue calendar hq hwaiter hreport⟩

theorem isShutDown_step (hshut : s.hub.isShutDown = true) (a : Act κ) :
    (s.step calendar vendor a).hub.isShutDown = true := by
  have hcases := hubStep calendar vendor s a
  generalize (s.step calendar vendor a).hub = h at hcases ⊢
  cases hcases with
  | none => exact hshut
  | wake n => exact (Hub.alike_wake s.hub n s.now).isShutDown.trans hshut
  | finish n report => exact (Hub.changes_finish n _ _ report.2).isShutDown hshut
  | commandDone => exact (Hub.changes_step s.hub _).isShutDown hshut
  | call => exact (Hub.changes_step s.hub _).isShutDown hshut

theorem isShutDown_run (hshut : s.hub.isShutDown = true) (acts : List (Act κ)) :
    (s.run calendar vendor acts).hub.isShutDown = true := by
  induction acts generalizing s with
  | nil => exact hshut
  | cons a acts ih => exact ih (isShutDown_step hshut a)

/-! ## What always holds -/

/-- The hub is one that acts on it bring about. A poll task waits for a report only while its cycle is
under way, and for one only. -/
structure Paired (s : Timeline κ) : Prop where
  history : ∃ schemas acts, s.hub = Hub.run (.new schemas) acts
  sound : Sound s
  cycling : ∀ device number n, s.Expects device number n → s.hub.isCycling n = true
  once : ∀ device i j n, s.Expects device i n → s.Expects device j n → i = j

/-- Nobody waits for more than before, and the cycles that are waited for are still under way. -/
theorem Paired.next (hs : Paired s) (hsound : Sound s') (hhub : ∃ acts, s'.hub = s.hub.run acts)
    (hexpects : ∀ device number n, s'.Expects device number n →
      s.Expects device number n ∧ s'.hub.isCycling n = true) : Paired s' := by
  obtain ⟨schemas, acts, hhistory⟩ := hs.history
  obtain ⟨more, hhub⟩ := hhub
  refine ⟨⟨schemas, acts ++ more, ?_⟩, hsound, fun device number n h => (hexpects device number n h).2,
    fun device i j n hi hj => hs.once device i j n (hexpects device i n hi).1 (hexpects device j n hj).1⟩
  rw [hhub, hhistory, Hub.run, Hub.run, Hub.run, List.foldl_append]

theorem Paired.tell (hs : Paired s) (device : String) (a : Answer) : Paired (s.tell device a) :=
  hs.next (hs.sound.tell device a) ⟨[], rfl⟩ fun d number n h => ⟨h, hs.cycling d number n h⟩

/-- A request for which no poll task waits. -/
theorem Paired.ask (hs : Paired s) (client : Client κ) (device : String) (request : DeviceRequest)
    {waiter : Waiter} (hwaiter : ∀ n, waiter ≠ .task n) :
    Paired (s.ask client device request waiter) := by
  have hsound := hs.sound.ask client device request fun n hn => absurd hn (hwaiter n)
  refine hs.next hsound ⟨[], rfl⟩ fun d number n h => ?_
  rcases expects_ask h with h | ⟨-, -, hn⟩
  · exact ⟨h, hs.cycling d number n h⟩
  · exact absurd hn (hwaiter n)

theorem Paired.turn (hs : Paired s) (n : Nat) : Paired (s.turn n) := by
  have hsound := hs.sound.turn n
  unfold Timeline.turn at hsound ⊢
  split
  · exact hs
  · next t ht =>
    have hwake : Paired { s with hub := (s.hub.wake n s.now).2 } := by
      refine hs.next ?_ ⟨[.wake n s.now], rfl⟩ fun d number m h =>
        ⟨h, Hub.isCycling_wake (hs.cycling d number m h)⟩
      exact hs.sound.withHub (.single (.alike (Hub.alike_wake s.hub n s.now)))
    simp only [ht] at hsound ⊢
    split at hsound
    · next hstarts =>
      rw [if_pos hstarts]
      -- no cycle of the task was under way, so it has waited for nothing
      have hnew {d number} (h : s.Expects d number n) : False := by
        have hidle := s.hub.isCycling_of_wake hstarts
        rw [hs.cycling d number n h] at hidle
        cases hidle
      refine ⟨hwake.history, hsound, fun d number m h => ?_, fun d i j m hi hj => ?_⟩
      · rcases expects_ask h with h | ⟨-, -, hm⟩
        · exact hwake.cycling d number m h
        · cases hm
          exact Hub.isCycling_wake_self hstarts
      · rcases expects_ask hi with hi | ⟨-, hilast, him⟩
        · rcases expects_ask hj with hj | ⟨-, -, hjm⟩
          · exact hwake.once d i j m hi hj
          · cases hjm
            exact (hnew hi).elim
        · cases him
          rcases expects_ask hj with hj | ⟨-, hjlast, -⟩
          · exact (hnew hj).elim
          · exact hilast.trans hjlast.symm
    · next hstarts =>
      rw [if_neg hstarts]
      exact hwake

theorem Paired.hear (hs : Paired s) (device : String) (number : Nat) :
    Paired (s.hear calendar vendor device number) := by
  have hsound : Sound (s.hear calendar vendor device number) := hs.sound.hear device number
  rcases hear_cases calendar vendor s device number with
    ⟨-, hsame⟩ | ⟨q, waiter, report, hq, hwaiter, -, hheard⟩
  · rwa [hsame]
  · rw [hheard] at hsound ⊢
    -- whoever waits afterwards has waited before, for another report
    have hbefore {d i m} (h : ((s.withLog device ((s.log device).set number
        { q with waiter := none })).deliver calendar device report waiter).Expects d i m) :
        s.Expects d i m ∧ (device = d → number ≠ i) := by
      cases waiter <;> exact expects_heard (expects_of_queries rfl |>.1 h)
    cases waiter with
    | task n =>
      have hn : s.Expects device number n := by simp [Expects, waiter?, hq, hwaiter]
      refine hs.next hsound ⟨[.finish n s.now (calendar s.now) report], ?_⟩ fun d i m h => ?_
      · have hcan : (s.hub.isCycling n && answerIsFinite report.1) = true := by
          rw [hs.cycling device number n hn, report.2, Bool.and_self]
        exact (if_pos hcan).symm
      · obtain ⟨h, hother⟩ := hbefore h
        have hne : n ≠ m := by
          rintro rfl
          obtain rfl := hs.sound.device_eq hn h
          exact hother rfl (hs.once device number i n hn h)
        have hcycling := hs.cycling d i m h
        simp only [Timeline.deliver, Hub.isCycling, Hub.task?_finish_of_ne hne]
        exact ⟨h, hcycling⟩
    | command =>
      refine hs.next hsound ⟨[.commandDone device report], rfl⟩ fun d i m h => ?_
      have hcycling := hs.cycling d i m (hbefore h).1
      refine ⟨(hbefore h).1, ?_⟩
      show ((s.hub.commandDone device report).2).isCycling m = true
      unfold Hub.commandDone
      split
      · exact hcycling
      · exact (Hub.nudges_refresh s.hub device).isCycling hcycling
    | pollOnce =>
      exact hs.next hsound ⟨[], rfl⟩ fun d i m h =>
        ⟨(hbefore h).1, hs.cycling d i m (hbefore h).1⟩

theorem Paired.step (hs : Paired s) (a : Act κ) : Paired (s.step calendar vendor a) := by
  have hsound : Sound (s.step calendar vendor a) := hs.sound.step a
  cases a with
  | tick =>
    simp only [Timeline.step] at hsound ⊢
    split
    · next hsettled =>
      rw [if_pos hsettled] at hsound
      exact ⟨hs.history, hsound, hs.cycling, hs.once⟩
    · exact hs
  | turn n => exact hs.turn n
  | hear device number => exact hs.hear device number
  | call a =>
    simp only [Timeline.step] at hsound ⊢
    split
    · next hcall =>
      have hcalled : Paired { s with hub := s.hub.step a } := by
        refine hs.next (hs.sound.withHub (Hub.changes_step s.hub a)) ⟨[a], rfl⟩ fun d number n h => ?_
        exact ⟨h, (Hub.nudges_call s.hub hcall).isCycling (hs.cycling d number n h)⟩
      split
      · exact hcalled.tell _ _
      · exact hcalled
    · exact hs
  | command device request =>
    simp only [Timeline.step]
    split
    · exact hs.tell _ _
    · exact hs.ask _ _ _ fun n hn => by cases hn
  | pollOnce c =>
    simp only [Timeline.step]
    split
    · exact hs.tell _ _
    · exact hs.ask _ _ _ fun n hn => by cases hn

theorem paired_new (schemas : SchemaRegistry) : Paired (new schemas : Timeline κ) := by
  refine ⟨⟨schemas, [], rfl⟩, sound_new schemas, fun device number n h => ?_,
    fun device i j n h => ?_⟩
  all_goals cases h

theorem Paired.run (hs : Paired s) (acts : List (Act κ)) : Paired (s.run calendar vendor acts) := by
  induction acts generalizing s with
  | nil => exact hs
  | cons a acts ih => exact ih (hs.step a)

/-- Until the hub is shut down, what it keeps of a device follows some life. -/
theorem Paired.kept (hs : Paired s) (hopen : s.hub.isShutDown = false) (device : String) :
    ∃ life, s.hub.Kept device life := by
  obtain ⟨schemas, acts, hhistory⟩ := hs.history
  rw [hhistory] at hopen ⊢
  exact ⟨_, Hub.kept_run schemas acts device hopen⟩

end Timeline

end DeviceHub
