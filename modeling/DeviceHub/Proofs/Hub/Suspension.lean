import DeviceHub.Proofs.Hub.Tables

/-!
# Suspension

A device is suspended when its configuration is refused, or when a cycle of it ends with a failure
of the classes that only people can help with. Its health says so, its poll task does, and both say
it at the same time. A suspended device is left alone until it gets a new start: no turn starts a
cycle, a refresh is answered with `inactive`, and what is known of the device stays. No other
failure stops the polling.

* `Polled.status_iff`, `Kept.pollState_iff`: health and poll task agree with what happened.
* `follow_of_isSuspended`: nothing happens to a suspended device unless somebody ends its work.
* `suspension_exact`: all of it, for every run.
-/
namespace DeviceHub

variable {κ : Type}

/-! ## Who is suspended -/

theorem FailureClass.needsAttention_iff {c : FailureClass} :
    c.needsAttention = true ↔ c = .auth ∨ c = .config := by
  cases c <;> simp [needsAttention]

/-- An outcome that stops the polling is shown as such, and no other is. -/
theorem HealthOutcome.status_eq_configError {o : HealthOutcome} :
    o.status = .configError ↔ o.suspends = true := by
  cases o with
  | success online now => cases online <;> simp [status, suspends]
  | failure kind message => cases kind <;> simp [status, suspends, FailureClass.needsAttention]
  | configError detail => simp [status, suspends]

namespace Life

variable {l : Life κ}

/-- The configuration of the device was refused. -/
def IsRefused (l : Life κ) : Prop := ∃ e, l.opening = .error e

/-- The last result of the device was a failure that only people can help with. -/
def HasFailedForGood (l : Life κ) : Prop :=
  ∃ e now older, l.results = (.error e, now) :: older ∧ (e.kind = .auth ∨ e.kind = .config)

theorem isSuspended_iff : l.isSuspended = true ↔ l.IsRefused ∨ l.HasFailedForGood := by
  unfold isSuspended IsRefused HasFailedForGood
  cases l.opening with
  | error e => simp
  | ok opened =>
    cases l.results with
    | nil => simp
    | cons r older =>
      obtain ⟨result, now⟩ := r
      cases result with
      | ok s => simp [HealthOutcome.ofResult, HealthOutcome.suspends]
      | error e =>
        simp [HealthOutcome.ofResult, HealthOutcome.suspends, FailureClass.needsAttention_iff]

end Life

namespace Hub

variable {h : Hub κ} {device : String} {l : Life κ} {a : Act κ}

/-- The health of a device shows whether it is suspended. -/
theorem Polled.status_iff {task : Option Nat} (hp : Polled h l task) :
    l.health.status = .configError ↔ l.isSuspended = true := by
  cases hp with
  | refused opening results =>
    simp [Life.health, Life.firstHealth, Life.isSuspended, opening, results, HealthOutcome.health,
      HealthOutcome.status]
  | task opening =>
    cases hr : l.results with
    | nil =>
      simp [Life.health, Life.firstHealth, Life.isSuspended, opening, hr, DeviceHealth.initial]
    | cons r older =>
      have hstatus := HealthOutcome.status_eq_configError (o := .ofResult r.2 r.1)
      simpa [Life.health, Life.isSuspended, opening, hr, HealthOutcome.health] using hstatus

theorem taskOf?_of_task? {entry : DeviceEntry} {n : Nat} {t : PollTask κ}
    (he : h.devices.get? device = some entry) (hn : entry.task = some n)
    (ht : h.task? n = some t) : h.taskOf? device = some (n, t) := by
  simp [taskOf?, he, hn, ht]

theorem taskOf?_of_none {entry : DeviceEntry} (he : h.devices.get? device = some entry)
    (hn : entry.task = none) : h.taskOf? device = none := by
  simp [taskOf?, he, hn]

/-- A device has no poll task because its configuration was refused, or one that goes on or was
suspended. -/
theorem Kept.taskOf?_cases (hk : Kept device h (some l)) :
    (h.devices.get? device).isSome = true ∧
      (h.taskOf? device = none ∧ l.isSuspended = true ∨
        ∃ n t, h.taskOf? device = some (n, t) ∧ t.poller.Goes l.isSuspended) := by
  cases hk with
  | @present _ entry he config named polled =>
    refine ⟨by simp [he], ?_⟩
    generalize hn : entry.task = task at polled
    cases polled with
    | refused opening => exact .inl ⟨taskOf?_of_none he hn, by simp [Life.isSuspended, opening]⟩
    | task opening ht identity schema live goes =>
      exact .inr ⟨_, _, taskOf?_of_task? he hn ht, goes⟩

/-- The poll task of a device shows whether it is suspended. -/
theorem Kept.pollState_iff (hk : Kept device h (some l)) :
    (h.pollState? device = some .suspended ∨ h.pollState? device = some .stopped) ↔
      l.isSuspended = true := by
  obtain ⟨hregistered, htask⟩ := hk.taskOf?_cases
  obtain ⟨entry, he⟩ := Option.isSome_iff_exists.1 hregistered
  rcases htask with ⟨hnone, hsuspended⟩ | ⟨n, t, ht, goes⟩
  · simp [pollState?, he, hnone, hsuspended]
  · unfold pollState?
    rw [he, ht]
    generalize l.isSuspended = b at goes
    cases goes with
    | fresh phase state | cycling phase state => simp [state]
    | waiting phase state => rcases state with state | state <;> simp [state]
    | suspended phase state => simp [state]

/-! ## Nothing happens to a suspended device -/

/-- A suspended task starts nothing. -/
theorem wake_of_goes {p : Poller} (hg : p.Goes true) (time : Nat) : (p.wake time).1 = false := by
  cases hg with
  | suspended phase state => simp [Poller.wake, phase]

/-- The task that is not cancelled is the one of the device. -/
theorem Kept.goes (hw : Wired h) (hk : Kept device h (some l)) {n : Nat} {t : PollTask κ}
    (ht : h.task? n = some t) (hlive : t.poller.isCancelled = false)
    (hdevice : t.identity.device = device) : t.poller.Goes l.isSuspended := by
  obtain ⟨-, e, he, hn⟩ := hw.serves n t ht hlive
  rw [hdevice] at he
  cases hk with
  | present hentry config named polled =>
    rw [hentry] at he
    cases he
    rw [hn] at polled
    cases polled with
    | task opening hu identity schema live goes =>
      rw [ht] at hu
      cases hu
      exact goes

/-- No task of a suspended device starts a cycle. -/
theorem Kept.wake_eq_false (hw : Wired h) (hk : Kept device h (some l))
    (hsuspended : l.isSuspended = true) {n : Nat} {t : PollTask κ} (ht : h.task? n = some t)
    (hdevice : t.identity.device = device) (time : Nat) : (h.wake n time).1 = false := by
  have hwake : (h.wake n time).1 = (t.poller.wake time).1 := by simp [Hub.wake, ht]
  rw [hwake]
  cases hc : t.poller.isCancelled with
  | true => exact t.poller.wake_of_isCancelled time hc
  | false =>
    have hgoes := hk.goes hw ht hc hdevice
    rw [hsuspended] at hgoes
    exact wake_of_goes hgoes time

theorem Kept.refresh_eq_inactive (hk : Kept device h (some l)) (hsuspended : l.isSuspended = true) :
    (h.refresh device).1 = .ok .inactive := by
  obtain ⟨hregistered, htask⟩ := hk.taskOf?_cases
  obtain ⟨entry, he⟩ := Option.isSome_iff_exists.1 hregistered
  rcases htask with ⟨hnone, -⟩ | ⟨n, t, ht, goes⟩
  · simp [Hub.refresh, he, hnone]
  · rw [hsuspended] at goes
    cases goes with
    | suspended phase state => simp [Hub.refresh, he, ht, Poller.refresh, state]

/-- No cycle of a suspended device is under way. -/
theorem Kept.committed?_eq_none (hw : Wired h) (hk : Kept device h (some l))
    (hsuspended : l.isSuspended = true) : h.committed? device a = none := by
  cases hr : h.committed? device a with
  | none => rfl
  | some r =>
    obtain ⟨n, t, -, -, -, -, ht, hcycling, -, hlive, hdevice, -⟩ := committed?_eq_some hr
    have hgoes := hk.goes hw ht hlive hdevice
    rw [hsuspended] at hgoes
    cases hgoes with
    | suspended phase state => simp [isCycling, ht, phase] at hcycling

theorem follow_of_isSuspended (hw : Wired h) (hk : Kept device h (some l))
    (hsuspended : l.isSuspended = true) (ha : ¬a.endsWork device) :
    h.follow device (some l) a = some l := by
  have hkeep : ∀ d, h.enrolled device (some l) d = some l := fun d => by simp [enrolled]
  have hother : ∀ disposed, disposed ≠ device → unlessDisposed device (some l) disposed = some l :=
    fun disposed hne => if_neg hne
  cases a with
  | enroll d => exact hkeep d
  | dispose disposed => exact hother disposed ha
  | restart restarted =>
    simp only [follow]
    rw [hother restarted ha]
    split
    · exact hkeep _
    · rfl
  | update d =>
    simp only [follow]
    rw [hother _ ha]
    exact hkeep d
  | finish n time now answer => simp only [follow, hk.committed?_eq_none hw hsuspended]
  | _ => rfl

/-- A suspended device stays what it is. -/
theorem Kept.run_of_isSuspended (hr : Reachable h) (hk : Kept device h (some l))
    (hsuspended : l.isSuspended = true) (hs : h.isShutDown = false) {later : List (Act κ)}
    (hlater : ∀ a ∈ later, ¬a.endsWork device) : Kept device (h.run later) (some l) := by
  induction later generalizing h with
  | nil => exact hk
  | cons a later ih =>
    have ha : ¬a.endsWork device := hlater a List.mem_cons_self
    have hne : a ≠ .beginShutdown := by
      rintro rfl
      exact ha trivial
    have hstep : (h.step a).isShutDown = false := (sameSetting_step h hne).isShutDown.trans hs
    have hkept := hk.step hr.wired a hstep
    rw [follow_of_isSuspended hr.wired hk hsuspended ha] at hkept
    exact ih (hr.run [a]) hkept hstep fun b hb => hlater b (List.mem_cons_of_mem _ hb)

/-! ## Polling goes on -/

/-- A task that is to go on can be refreshed at once, and has its next cycle when its interval is
over. -/
theorem goesOn_of_goOn {p : Poller} (hlive : p.isCancelled = false) (time : Nat) :
    let q := p.finish time .goOn
    (q.state = .scheduled ∨ q.state = .idle) ∧ q.refresh.1 = .accepted ∧
      (∀ time', (q.refresh.2.wake time').1 = true) ∧
      (p.interval ≠ 0 → (q.wake (time + p.interval)).1 = true) := by
  intro q
  by_cases hinterval : p.interval = 0
  · have hq : q = ⟨p.interval, .idle, .waiting none, false, p.isCancelled⟩ := by
      simp [q, Poller.finish, hlive, hinterval]
    rw [hq]
    simp [Poller.refresh, Poller.wake, hlive, hinterval]
  · have hq : q = ⟨p.interval, .scheduled, .waiting (some (time + p.interval)), false,
        p.isCancelled⟩ := by
      simp [q, Poller.finish, hlive, hinterval]
    rw [hq]
    simp [Poller.refresh, Poller.wake, hlive]

/-- The end of a cycle that commits a failure of another class. -/
theorem step_of_failed {n time : Nat} {now : Instant} {answer : Except RequestError Payload}
    {e : HubError} (hr : h.committed? device (.finish n time now answer) = some (.error e, now))
    (hauth : e.kind ≠ .auth) (hconfig : e.kind ≠ .config) :
    ∃ t, h.task? n = some t ∧ t.poller.isCancelled = false ∧ t.identity.device = device ∧
      h.step (.finish n time now answer) =
        (h.absorb device (.error e) now).withPoller n (t.poller.finish time .goOn) := by
  obtain ⟨n, t, time, now, answer, heq, ht, hcycling, ha, hlive, hdevice, hresult⟩ :=
    committed?_eq_some hr
  cases heq
  have hread := (Prod.mk.inj hresult).1
  have hsuspends : (HealthOutcome.ofResult now (.error e)).suspends = false := by
    cases hkind : e.kind <;>
      simp_all [HealthOutcome.ofResult, HealthOutcome.suspends, FailureClass.needsAttention]
  refine ⟨t, ht, hlive, hdevice, ?_⟩
  have hfinish := finish_of_live ht hlive time now answer
  rw [← hread, hsuspends, hdevice] at hfinish
  simpa [Hub.step, hcycling, ha] using hfinish

theorem goesOn_of_failed (hw : Wired h) {n time : Nat} {now : Instant}
    {answer : Except RequestError Payload} {e : HubError}
    (hr : h.committed? device (.finish n time now answer) = some (.error e, now))
    (hauth : e.kind ≠ .auth) (hconfig : e.kind ≠ .config) :
    let h' := h.step (.finish n time now answer)
    (h'.pollState? device = some .scheduled ∨ h'.pollState? device = some .idle) ∧
    (h'.refresh device).1 = .ok .accepted ∧
    (∀ time', ((h'.refresh device).2.wake n time').1 = true) ∧
    ∀ t, h.task? n = some t → t.poller.interval ≠ 0 →
      (h'.wake n (time + t.poller.interval)).1 = true := by
  intro h'
  obtain ⟨t, ht, hlive, hdevice, heq⟩ := step_of_failed hr hauth hconfig
  obtain ⟨-, entry, he, hn⟩ := hw.serves n t ht hlive
  obtain ⟨hstate, haccepted, hturn, htimer⟩ := goesOn_of_goOn hlive time
  generalize t.poller.finish time .goOn = p at heq hstate haccepted hturn htimer
  have he' : h'.devices.get? device = some entry := by
    show (h.step _).devices.get? device = some entry
    rw [heq]
    exact (congrArg (Dict.get? · device) (absorb_devices ..)).trans (hdevice ▸ he)
  have ht' : h'.task? n = some { t with poller := p } := by
    have hkept : (h.absorb device (.error e) now).task? n = some t := by
      rw [Hub.task?, absorb_tasks]
      exact ht
    show (h.step _).task? n = _
    rw [heq, task?_withPoller, hkept, Option.map_some, if_pos rfl]
  have htask := taskOf?_of_task? he' hn ht'
  refine ⟨?_, ?_, fun time' => ?_, fun u hu hinterval => ?_⟩
  · unfold pollState?
    rw [he', htask]
    rcases hstate with hstate | hstate <;> simp [hstate]
  · simp [Hub.refresh, he', htask, haccepted]
  · have hrefresh : (h'.refresh device).2 = h'.withPoller n p.refresh.2 := by
      simp [Hub.refresh, he', htask]
    rw [hrefresh]
    simp [Hub.wake, task?_withPoller, ht', hturn]
  · rw [ht] at hu
    cases hu
    simp [Hub.wake, ht', htimer hinterval]

/-! ## The theorem -/

/-- What suspension means for a device with a life, in a hub that is not shut down. -/
structure Suspends (h : Hub κ) (device : String) (l : Life κ) (health : DeviceHealth) : Prop where
  /-- Health and poll task show it together. -/
  together : health.status = .configError ↔
    h.pollState? device = some .suspended ∨ h.pollState? device = some .stopped
  /-- They show what happened. -/
  caused : health.status = .configError ↔ l.IsRefused ∨ l.HasFailedForGood
  /-- Until the device gets a new start or is disposed of, nothing happens to it any more. -/
  lasting : health.status = .configError → ∀ later, (∀ a ∈ later, ¬Act.endsWork device a) →
    Dict.get? (h.run later).health device = some health ∧
    (h.run later).store.get? device = h.store.get? device ∧
    ((h.run later).refresh device).1 = .ok .inactive ∧
    ∀ n t time, (h.run later).task? n = some t → t.identity.device = device →
      ((h.run later).wake n time).1 = false
  /-- After any other failure the device is polled again: at once after a refresh, and when its
  interval is over. -/
  goesOn : ∀ n time now answer e,
    h.committed? device (.finish n time now answer) = some (.error e, now) →
    e.kind ≠ .auth → e.kind ≠ .config →
    let h' := h.step (.finish n time now answer)
    (h'.pollState? device = some .scheduled ∨ h'.pollState? device = some .idle) ∧
    (h'.refresh device).1 = .ok .accepted ∧
    (∀ time', ((h'.refresh device).2.wake n time').1 = true) ∧
    ∀ t, h.task? n = some t → t.poller.interval ≠ 0 →
      (h'.wake n (time + t.poller.interval)).1 = true

theorem Kept.suspends (hr : Reachable h) (hs : h.isShutDown = false)
    (hk : Kept device h (some l)) {health : DeviceHealth}
    (hhealth : Dict.get? h.health device = some health) : Suspends h device l health := by
  have hstatus : health.status = .configError ↔ l.isSuspended = true := by
    cases hk with
    | present he config named polled hkept =>
      rw [hhealth] at hkept
      cases hkept
      exact polled.status_iff
  refine ⟨hstatus.trans hk.pollState_iff.symm, hstatus.trans Life.isSuspended_iff,
    fun hconfig later hlater => ?_, fun n time now answer e => goesOn_of_failed hr.wired⟩
  have hsuspended := hstatus.1 hconfig
  have hk' := hk.run_of_isSuspended hr hsuspended hs hlater
  have hw' : Wired (h.run later) := (hr.run later).wired
  refine ⟨?_, ?_, hk'.refresh_eq_inactive hsuspended, fun n t time ht hdevice =>
    hk'.wake_eq_false hw' hsuspended ht hdevice time⟩
  · cases hk with
    | present _ _ _ _ hbefore =>
      cases hk' with
      | present _ _ _ _ hafter => rw [hafter, ← hbefore, hhealth]
  · cases hk with
    | present _ _ _ _ _ hbefore =>
      cases hk' with
      | present _ _ _ _ _ hafter => rw [hafter, hbefore]

/-- In every run, as long as the hub is not shut down, every registered device is suspended when it
should be, and no longer than it should be. -/
theorem suspension_exact (schemas : SchemaRegistry) (acts : List (Act κ)) (device : String) :
    let h := run (.new schemas) acts
    h.isShutDown = false → (h.devices.get? device).isSome = true →
    ∃ l health, life? schemas acts device = some l ∧ Dict.get? h.health device = some health ∧
      Suspends h device l health := by
  intro h hs hregistered
  have hr : Reachable h := reachable_run schemas acts
  have hk : Kept device h (life? schemas acts device) := kept_run schemas acts device hs
  generalize life? schemas acts device = life at hk
  cases hk with
  | absent entry =>
    rw [entry] at hregistered
    cases hregistered
  | @present l entry he config named polled health store =>
    have hk : Kept device h (some l) := .present he config named polled health store
    exact ⟨l, l.health, rfl, health, hk.suspends hr hs health⟩

/-- The plug is asked with a wrong password. From then on nobody gets it polled. -/
theorem suspension_exact_plug :
    let acts : List (Act Unit) :=
      plugIsAsked ++ [.finish 0 5 .epoch (.error (.authentication "wrong password"))]
    let h := run (.new [("plug", plugSchema)]) acts
    let later : List (Act Unit) :=
      [.refresh "p1", .commandDone "p1" (plugSays true), .wake 0 60005]
    h.isShutDown = false ∧ (h.devices.get? "p1").isSome = true ∧
      (Dict.get? h.health "p1").map DeviceHealth.status = some .configError ∧
      ((h.run later).refresh "p1").1 = .ok .inactive := by
  intro acts h later
  have hs : h.isShutDown = false := by decide +kernel
  have hregistered : (h.devices.get? "p1").isSome = true := by decide +kernel
  have hstatus : (Dict.get? h.health "p1").map DeviceHealth.status = some .configError := by
    decide +kernel
  obtain ⟨l, health, -, hhealth, hsuspends⟩ :=
    suspension_exact [("plug", plugSchema)] acts "p1" hs hregistered
  have hconfig : health.status = .configError := by
    rw [show Dict.get? h.health "p1" = some health from hhealth] at hstatus
    exact Option.some.inj hstatus
  have hlater : ∀ a ∈ later, ¬a.endsWork "p1" := by
    simp [later, Act.endsWork]
  obtain ⟨-, -, hinactive, -⟩ := hsuspends.lasting hconfig later hlater
  exact ⟨hs, hregistered, hstatus, hinactive⟩

end Hub

end DeviceHub
