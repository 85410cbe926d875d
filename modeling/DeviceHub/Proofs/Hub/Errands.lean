import DeviceHub.Proofs.Hub.UnderWay

/-!
# Commands and single polls

Besides its cycles a device may be sent a command, and it may be asked once. Such an errand is a request
of its own, for which no poll task waits. It changes nothing of the hub when it is sent. Nor does it when
it is answered, but for a command that was carried out: if its device waits for its next cycle then, that
cycle is due at once.

* `hub_of_errand`, `hub_hear`: what an errand changes.
* `Hub.Due`: a cycle starts with the next turn of a poll task.
* `Served`, `served_of_due`: what becomes of a cycle that is due.
-/
namespace DeviceHub

variable {κ : Type}

/-- A poll task waits for its next cycle. -/
structure Poller.Awaits (p : Poller) : Prop where
  live : p.isCancelled = false
  state : p.state = .scheduled ∨ p.state = .idle
  phase : p.phase = .fresh ∨ ∃ due, p.phase = .waiting due

/-- Whether an errand waits for a report, and no poll task. -/
def Waiter.isErrand : Waiter → Bool
  | .task _ => false
  | .command | .pollOnce .. => true

def Waiter.isCommand : Waiter → Bool
  | .command => true
  | .task _ | .pollOnce .. => false

namespace Hub

variable {h h' : Hub κ} {device : String} {n : Nat} {t : PollTask κ} {life : Option (Life κ)}

/-- Whether a device shows that it waits for its next cycle. -/
def awaits (h : Hub κ) (device : String) : Bool :=
  (h.pollState? device).any fun p => p = .scheduled || p = .idle

/-- A device that waits has a poll task that says so. -/
theorem exists_of_awaits (ha : h.awaits device = true) :
    ∃ n t, h.taskOf? device = some (n, t) ∧
      (t.poller.state = .scheduled ∨ t.poller.state = .idle) := by
  simp only [awaits, Option.any_eq_true, Bool.or_eq_true, decide_eq_true_eq] at ha
  obtain ⟨p, hp, hstate⟩ := ha
  obtain ⟨entry, -, hshown⟩ := Option.map_eq_some_iff.1 hp
  cases ht : h.taskOf? device with
  | none =>
    rw [ht] at hshown
    subst hshown
    simp at hstate
  | some own =>
    rw [ht] at hshown
    subst hshown
    exact ⟨own.1, own.2, rfl, hstate⟩

theorem get?_devices_of_taskOf? (ht : h.taskOf? device = some (n, t)) :
    ∃ entry, h.devices.get? device = some entry := by
  obtain ⟨entry, hentry, -⟩ := Option.bind_eq_some_iff.1 (taskOf?_eq_some_iff.1 ht).1
  exact ⟨entry, hentry⟩

theorem pollState?_of_taskOf? (ht : h.taskOf? device = some (n, t)) :
    h.pollState? device = some t.poller.state := by
  obtain ⟨entry, hentry⟩ := get?_devices_of_taskOf? ht
  simp [pollState?, hentry, ht]

/-- Asking for a cycle of a device that does not wait for one changes nothing. -/
theorem refresh_of_not_awaits (ha : h.awaits device = false) : (h.refresh device).2 = h := by
  unfold refresh
  split
  · rfl
  · split
    · rfl
    · next n t ht =>
      have hstate : t.poller.refresh.2 = t.poller := by
        rw [awaits, pollState?_of_taskOf? ht] at ha
        unfold Poller.refresh
        cases hs : t.poller.state <;> simp [hs] at ha ⊢
      simp only [hstate]
      exact withPoller_self (taskOf?_eq_some ht)

/-- Asking for a cycle of a device that waits for one changes nothing but that the task knows. -/
theorem refresh_of_state (ht : h.taskOf? device = some (n, t))
    (hstate : t.poller.state = .scheduled ∨ t.poller.state = .idle) :
    (h.refresh device).2 = h.withPoller n { t.poller with isTriggered := true } := by
  obtain ⟨entry, hentry⟩ := get?_devices_of_taskOf? ht
  simp [refresh, hentry, ht, Poller.refresh_of_waits hstate]

/-- Before the hub is shut down, the poll task of a device that waits does wait. -/
theorem Kept.awaits (hk : Kept device h life) (ht : h.taskOf? device = some (n, t))
    (hstate : t.poller.state = .scheduled ∨ t.poller.state = .idle) : t.poller.Awaits := by
  cases hk with
  | absent entry => simp [taskOf?, entry] at ht
  | @present _ entry he config named polled =>
    generalize hn : entry.task = task at polled
    cases polled with
    | refused =>
      rw [taskOf?_of_none he hn] at ht
      cases ht
    | task opening hu identity schema live goes =>
      rw [taskOf?_of_task? he hn hu] at ht
      cases ht
      refine ⟨live, hstate, ?_⟩
      generalize Life.isSuspended _ = b at goes
      cases goes with
      | fresh phase => exact .inl phase
      | cycling phase state => simp [state] at hstate
      | waiting phase => exact .inr ⟨_, phase⟩
      | suspended phase state => simp [state] at hstate

/-! ## Cycles that are due -/

/-- A device waits, and its poll task was asked for a cycle. -/
def Due (h : Hub κ) (device : String) (n : Nat) : Prop :=
  ∃ t, h.taskOf? device = some (n, t) ∧ t.poller.Awaits ∧ t.poller.isTriggered = true

/-- A cycle that is due serves everyone who asks for one. -/
theorem Due.refresh (hd : Due h device n) : (h.refresh device).2 = h := by
  obtain ⟨t, ht, hawaits, htriggered⟩ := hd
  rw [refresh_of_state ht hawaits.state]
  have hsame : ({ t.poller with isTriggered := true } : Poller) = t.poller := by
    rw [← htriggered]
  rw [hsame, withPoller_self (taskOf?_eq_some ht)]

theorem due_refresh (ht : h.taskOf? device = some (n, t)) (ha : t.poller.Awaits) :
    Due (h.refresh device).2 device n := by
  rw [refresh_of_state ht ha.state]
  obtain ⟨hcurrent, htask⟩ := taskOf?_eq_some_iff.1 ht
  refine ⟨{ t with poller := { t.poller with isTriggered := true } }, taskOf?_eq_some_iff.2 ⟨hcurrent, ?_⟩,
    ⟨ha.live, ha.state, ha.phase⟩, rfl⟩
  rw [task?_withPoller, htask, Option.map_some, if_pos rfl]

theorem Due.not_isCycling (hd : Due h device n) : h.isCycling n = false := by
  obtain ⟨t, ht, hawaits, -⟩ := hd
  rcases hawaits.phase with hp | ⟨due, hp⟩ <;> simp [isCycling, taskOf?_eq_some ht, hp]

/-- Calls leave the cycle due, unless they cancel the poll task. -/
theorem Due.nudges (hd : Due h device n) (hw : Wired h) (hw' : Wired h') (hn : Nudges h h') :
    Due h' device n ∨ IsCancelled h' n := by
  obtain ⟨t, ht, hawaits, htriggered⟩ := hd
  obtain ⟨p, hp, hnudged⟩ := hn n t (taskOf?_eq_some ht)
  cases hc : p.isCancelled with
  | true => exact .inr ⟨_, hp, hc⟩
  | false =>
    -- a task that is not cancelled is the one that its device is registered with
    obtain ⟨hcurrent, htask⟩ := taskOf?_eq_some_iff.1 ht
    obtain ⟨u, hu, hdevice⟩ := hw.task?_current? hcurrent
    obtain rfl : u = t := Option.some.inj (hu.symm.trans htask)
    have hcurrent' := hw'.current?_of_live hp hc
    rw [hdevice] at hcurrent'
    refine .inl ⟨_, taskOf?_eq_some_iff.2 ⟨hcurrent', hp⟩, ⟨hc, ?_, ?_⟩, hnudged.triggered htriggered⟩
    · rw [hnudged.state]
      exact hawaits.state
    · rw [hnudged.phase]
      exact hawaits.phase

/-- Whoever else is asked for a cycle. -/
theorem Due.refresh_other (hd : Due h device n) (hw : Wired h) (other : String) :
    Due (h.refresh other).2 device n := by
  have halike := alike_refresh h other
  rcases hd.nudges hw (hw.alike halike) (nudges_refresh h other) with hdue | ⟨u, hu, hcancelled⟩
  · exact hdue
  · obtain ⟨t, ht, hawaits, -⟩ := hd
    obtain ⟨u', hu', hbadge⟩ := halike.task? (taskOf?_eq_some_iff.1 ht).2
    obtain rfl : u = u' := Option.some.inj (hu.symm.trans hu')
    have hsame : u.poller.isCancelled = t.poller.isCancelled := congrArg (fun b => b.2.2) hbadge
    rw [hcancelled, hawaits.live] at hsame
    cases hsame

/-- The cycle stays due as long as nothing happens to its task, nor to its device's entry. -/
theorem Due.congr (hd : Due h device n) (hdevices : h'.devices = h.devices)
    (htask : h'.task? n = h.task? n) : Due h' device n := by
  obtain ⟨t, ht, hrest⟩ := hd
  obtain ⟨hcurrent, hn⟩ := taskOf?_eq_some_iff.1 ht
  refine ⟨t, taskOf?_eq_some_iff.2 ⟨?_, htask.trans hn⟩, hrest⟩
  simp only [current?, hdevices]
  exact hcurrent

end Hub

namespace Timeline

variable {calendar : Nat → Instant} {vendor : Vendor κ} {s s' : Timeline κ} {device other : String}
  {number n : Nat} {a : Act κ}

/-! ## What errands change -/

/-- A command, or a single poll. -/
def Act.isErrand : Act κ → Bool
  | .command .. | .pollOnce _ => true
  | .tick | .turn _ | .hear .. | .call _ => false

/-- Whether an errand waits for the report on a request. -/
def isErrand (s : Timeline κ) (device : String) (number : Nat) : Bool :=
  (s.waiter? device number).any (·.isErrand)

/-- Whether the report on a command is there, the command was carried out, and its device waits for its
next cycle. -/
def prompts (vendor : Vendor κ) (s : Timeline κ) (device : String) (number : Nat) : Bool :=
  (s.waiter? device number).any (·.isCommand) &&
    (s.report? vendor device number).any (·.1.isOk) && s.hub.awaits device

theorem prompts_iff : s.prompts vendor device number = true ↔
    s.waiter? device number = some .command ∧
      (∃ payload h, s.report? vendor device number = some ⟨.ok payload, h⟩) ∧
      s.hub.awaits device = true := by
  simp only [prompts, Bool.and_eq_true, Option.any_eq_true, and_assoc]
  refine and_congr ⟨?_, fun hw => ⟨_, hw, rfl⟩⟩ (and_congr_left fun _ => ⟨?_, ?_⟩)
  · rintro ⟨waiter, hwaiter, hcommand⟩
    cases waiter with
    | command => exact hwaiter
    | task | pollOnce => cases hcommand
  · rintro ⟨⟨answer, h⟩, hreport, hok⟩
    cases answer with
    | ok payload => exact ⟨payload, h, hreport⟩
    | error e => cases hok
  · rintro ⟨payload, h, hreport⟩
    exact ⟨_, hreport, rfl⟩

theorem prompts_of_not_isDue (h : s.isDue vendor device number = false) :
    s.prompts vendor device number = false := by
  rw [← Bool.not_eq_true, prompts_iff]
  rintro ⟨hwaiter, ⟨payload, hfinite, hreport⟩, -⟩
  have hdue : s.isDue vendor device number = true :=
    Bool.and_eq_true_iff.2 ⟨Option.isSome_of_eq_some hwaiter, Option.isSome_of_eq_some hreport⟩
  rw [h] at hdue
  cases hdue

/-- Only errands do so. -/
theorem isErrand_of_prompts (h : s.prompts vendor device number = true) :
    s.isErrand device number = true := by
  rw [isErrand, (prompts_iff.1 h).1]
  rfl

/-- Errands change nothing of the hub when they are sent. -/
theorem hub_of_errand (ha : a.isErrand = true) : (s.step calendar vendor a).hub = s.hub := by
  cases a with
  | command | pollOnce =>
    simp only [Timeline.step]
    split <;> rfl
  | tick | turn | hear | call => cases ha

/-- When they are answered, all that can happen is that their device is asked for a cycle. -/
theorem hub_hear (he : s.isErrand device number = true) :
    (s.hear calendar vendor device number).hub =
      if s.prompts vendor device number = true then (s.hub.refresh device).2 else s.hub := by
  rcases hear_cases calendar vendor s device number with
    ⟨hidle, hsame⟩ | ⟨q, waiter, report, hq, hwaiter, hreport, hheard⟩
  · rw [hsame, prompts_of_not_isDue hidle, if_neg Bool.false_ne_true]
  · have hwaits : s.waiter? device number = some waiter := by simp [waiter?, hq, hwaiter]
    rw [hheard]
    cases waiter with
    | task n => simp [isErrand, hwaits, Waiter.isErrand] at he
    | pollOnce =>
      have hprompts : ¬s.prompts vendor device number = true := by
        rw [prompts_iff, hwaits]
        rintro ⟨⟨⟩, -⟩
      rw [if_neg hprompts]
      rfl
    | command =>
      obtain ⟨answer, hfinite⟩ := report
      show (s.hub.commandDone device answer).2 = _
      cases answer with
      | error e =>
        have hprompts : ¬s.prompts vendor device number = true := by
          rw [prompts_iff, hreport]
          rintro ⟨-, ⟨_, _, ⟨⟩⟩, -⟩
        rw [if_neg hprompts]
        rfl
      | ok payload =>
        have hprompts : s.prompts vendor device number = true ↔ s.hub.awaits device = true := by
          rw [prompts_iff]
          exact ⟨fun h => h.2.2, fun h => ⟨hwaits, ⟨payload, hfinite, hreport⟩, h⟩⟩
        rw [Hub.commandDone]
        by_cases hawaits : s.hub.awaits device = true
        · rw [if_pos (hprompts.2 hawaits)]
        · rw [if_neg (mt hprompts.1 hawaits), Hub.refresh_of_not_awaits (Bool.eq_false_iff.2 hawaits)]

/-- When a cycle ends, nobody has asked its task for another yet. -/
theorem not_isTriggered_hear (hn : s.Expects device number n) (hdue : s.isDue vendor device number = true)
    {t : PollTask κ} (ht : (s.hear calendar vendor device number).hub.task? n = some t) :
    t.poller.isTriggered = false := by
  rcases hear_cases calendar vendor s device number with
    ⟨hidle, -⟩ | ⟨q, waiter, report, hq, hwaiter, -, hheard⟩
  · rw [hdue] at hidle
    cases hidle
  · obtain rfl : waiter = .task n := by
      rw [Expects, waiter?, hq] at hn
      exact Option.some.inj (hwaiter.symm.trans hn)
    rw [hheard] at ht
    obtain ⟨p, verdict, hp⟩ := Hub.exists_task?_finish ht
    rw [hp]
    exact p.finish_isTriggered s.now verdict

/-! ## The cycle that a command asks for -/

/-- A cycle of a device starts: the device is asked by its poll task, and shows that it runs. -/
structure Starts (device : String) (n : Nat) (s s' : Timeline κ) : Prop where
  asked : ∃ t, s.hub.taskOf? device = some (n, t) ∧
    s'.log device = s.log device ++ [⟨⟨s.now, t.client, t.request⟩, some (.task n)⟩]
  running : s'.hub.pollState? device = some .running

/-- What has become of a cycle that was due, after some acts. -/
inductive Served (calendar : Nat → Instant) (vendor : Vendor κ) (device : String) (n : Nat)
    (s : Timeline κ) (acts : List (Act κ)) : Prop where
  /-- It is still the same time, and the next turn of the task starts it. -/
  | due (now : (s.run calendar vendor acts).now = s.now)
      (due : (s.run calendar vendor acts).hub.Due device n)
      (starts : Starts device n (s.run calendar vendor acts) (s.run calendar vendor (acts ++ [.turn n])))
  /-- It started at the same time. -/
  | started {front back : List (Act κ)} (acts_eq : acts = front ++ .turn n :: back)
      (now : (s.run calendar vendor front).now = s.now)
      (starts : Starts device n (s.run calendar vendor front)
        (s.run calendar vendor (front ++ [.turn n])))
  /-- A call cancelled the task before, at the same time. -/
  | cancelled {front back : List (Act κ)} {b : Hub.Act κ} (acts_eq : acts = front ++ .call b :: back)
      (now : (s.run calendar vendor front).now = s.now)
      (due : (s.run calendar vendor front).hub.Due device n)
      (cancelled : (s.run calendar vendor (front ++ [.call b])).hub.IsCancelled n)

theorem hub_turn (s : Timeline κ) (n : Nat) : (s.turn n).hub = (s.hub.wake n s.now).2 := by
  unfold turn
  split
  · next ht => simp [Hub.wake, ht]
  · simp only
    split <;> rfl

/-- A cycle that is due starts with the next turn of its task. -/
theorem starts_of_due (hs : Paired s) (hd : s.hub.Due device n) : Starts device n s (s.turn n) := by
  obtain ⟨t, ht, hawaits, htriggered⟩ := hd
  obtain ⟨hcurrent, htask⟩ := Hub.taskOf?_eq_some_iff.1 ht
  have hstarts : (t.poller.wake s.now).1 = true := by
    rcases hawaits.phase with hp | ⟨due, hp⟩ <;>
      simp [Poller.wake, hp, hawaits.live, htriggered]
  have hdevice : t.identity.device = device := by
    obtain ⟨u, hu, hown⟩ := hs.sound.wired.task?_current? hcurrent
    obtain rfl : u = t := Option.some.inj (hu.symm.trans htask)
    exact hown
  refine ⟨⟨t, ht, ?_⟩, ?_⟩
  · simp only [turn, Hub.wake, htask, hstarts, if_true]
    rw [log_ask, if_pos hdevice]
    rfl
  · have ht' : (s.hub.wake n s.now).2.taskOf? device =
        some (n, { t with poller := (t.poller.wake s.now).2 }) := by
      refine Hub.taskOf?_eq_some_iff.2 ⟨?_, ?_⟩
      · simp only [Hub.wake, htask]
        exact hcurrent
      · simp [Hub.wake, htask, Hub.task?_withPoller]
    rw [hub_turn, Hub.pollState?_of_taskOf? ht', (Poller.wake_starts hstarts).2]

/-- The clock does not move while a cycle is due. -/
theorem not_isSettled (hd : s.hub.Due device n) : s.isSettled vendor = false := by
  obtain ⟨t, ht, hawaits, htriggered⟩ := hd
  have hready : t.poller.isReady s.now = true := by
    rcases hawaits.phase with hp | ⟨due, hp⟩ <;> simp [Poller.isReady, hp, htriggered]
  have htask : s.hub.tasks[n]? = some t := (Hub.taskOf?_eq_some_iff.1 ht).2
  rw [← Bool.not_eq_true, isSettled, Bool.and_eq_true, List.all_eq_true]
  rintro ⟨hall, -⟩
  simpa [hready] using hall t (List.mem_of_getElem? htask)

/-- The turn of another task. -/
theorem due_turn (hd : s.hub.Due device n) {m : Nat} (hne : m ≠ n) :
    (s.turn m).hub.Due device n := by
  rw [hub_turn]
  refine hd.congr ?_ ?_
  · unfold Hub.wake
    split <;> rfl
  · unfold Hub.wake
    split
    · rfl
    · rw [Hub.task?_withPoller]
      simp [hne]

/-- No cycle of the task is under way, so it is another one that ends its cycle when a report is heard. -/
theorem due_hear (hs : Paired s) (hd : s.hub.Due device n) :
    (s.hear calendar vendor other number).hub.Due device n := by
  rcases hear_cases calendar vendor s other number with
    ⟨-, hsame⟩ | ⟨q, waiter, report, hq, hwaiter, -, hheard⟩
  · rwa [hsame]
  · have hwaits : s.waiter? other number = some waiter := by simp [waiter?, hq, hwaiter]
    by_cases he : waiter.isErrand = true
    · have herrand : s.isErrand other number = true := by simp [isErrand, hwaits, he]
      rw [hub_hear herrand]
      split
      · exact hd.refresh_other hs.sound.wired other
      · exact hd
    · cases waiter with
      | command | pollOnce => exact absurd rfl he
      | task m =>
        have hne : m ≠ n := by
          rintro rfl
          have hcycling := hs.cycling other number m hwaits
          rw [hd.not_isCycling] at hcycling
          cases hcycling
        rw [hheard]
        exact hd.congr (Hub.devices_finish ..) (Hub.task?_finish_of_ne hne ..)

theorem due_step (hs : Paired s) (hd : s.hub.Due device n) (a : Act κ) :
    (s.step calendar vendor a).now = s.now ∧
      ((s.step calendar vendor a).hub.Due device n ∨ a = .turn n ∨
        ∃ b, a = .call b ∧ (s.step calendar vendor a).hub.IsCancelled n) := by
  cases a with
  | tick =>
    have hsame : s.step calendar vendor .tick = s := by
      simp [Timeline.step, not_isSettled hd]
    rw [hsame]
    exact ⟨rfl, .inl hd⟩
  | turn m =>
    refine ⟨now_step (by simp), ?_⟩
    by_cases hm : m = n
    · exact .inr (.inl (congrArg _ hm))
    · exact .inl (due_turn hd hm)
  | hear other number => exact ⟨now_step (by simp), .inl (due_hear hs hd)⟩
  | call b =>
    refine ⟨now_step (by simp), ?_⟩
    have hstep : (s.step calendar vendor (.call b)).hub = s.hub ∨
        b.isCall = true ∧ (s.step calendar vendor (.call b)).hub = s.hub.step b := by
      simp only [Timeline.step]
      split
      · next hcall => exact .inr ⟨hcall, by split <;> rfl⟩
      · exact .inl rfl
    rcases hstep with hsame | ⟨hcall, hcalled⟩
    · rw [hsame]
      exact .inl hd
    · have hwired : (s.hub.step b).Wired :=
        (hs.sound.withHub (Hub.changes_step s.hub b)).wired
      rw [hcalled]
      rcases hd.nudges hs.sound.wired hwired (Hub.nudges_call s.hub hcall) with hdue | hcancelled
      · exact .inl hdue
      · exact .inr (.inr ⟨b, rfl, hcancelled⟩)
  | command | pollOnce =>
    refine ⟨now_step (by simp), .inl ?_⟩
    rwa [hub_of_errand rfl]

theorem Served.cons (hnow : (s.step calendar vendor a).now = s.now) {acts : List (Act κ)}
    (h : Served calendar vendor device n (s.step calendar vendor a) acts) :
    Served calendar vendor device n s (a :: acts) := by
  cases h with
  | due now due starts => exact .due (now.trans hnow) due starts
  | @started front back acts_eq now starts =>
    have hacts : a :: acts = (a :: front) ++ .turn n :: back := congrArg (a :: ·) acts_eq
    exact .started hacts (now.trans hnow) starts
  | @cancelled front back b acts_eq now due cancelled =>
    have hacts : a :: acts = (a :: front) ++ .call b :: back := congrArg (a :: ·) acts_eq
    exact .cancelled hacts (now.trans hnow) due cancelled

/-- A cycle that is due starts at that time, whatever happens, unless a call cancels its task first. -/
theorem served_of_due (hs : Paired s) (hd : s.hub.Due device n) (acts : List (Act κ)) :
    Served calendar vendor device n s acts := by
  induction acts generalizing s with
  | nil => exact .due rfl hd (starts_of_due hs hd)
  | cons a acts ih =>
    obtain ⟨hnow, hdue | rfl | ⟨b, rfl, hcancelled⟩⟩ := due_step hs hd a
    · exact (ih (hs.step a) hdue).cons hnow
    · exact .started (List.nil_append _).symm rfl (starts_of_due hs hd)
    · exact .cancelled (List.nil_append _).symm rfl hd hcancelled

end Timeline

end DeviceHub
