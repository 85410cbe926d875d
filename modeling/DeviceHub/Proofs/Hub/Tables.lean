import DeviceHub.Proofs.Hub.History
import DeviceHub.Proofs.Hub.Lives

/-!
# What a hub keeps of a device

A hub keeps an entry of a device, a poll task, a health record and a snapshot, each in a table of
its own. `Kept` ties all four to the life of the device: whoever knows the life knows them.

* `Kept.enroll`, `Kept.dispose`, `Kept.withPoller`, `Kept.finish`: what the operations do.
* `Kept.step`, `Kept.run`: the tables follow the life, until the hub shuts down.
-/
namespace DeviceHub

variable {κ : Type}

/-! ## What is kept -/

/-- A poll task that goes on, or has been suspended. -/
inductive Poller.Goes (p : Poller) : Bool → Prop where
  | fresh (phase : p.phase = .fresh) (state : p.state = .scheduled) : Goes p false
  | cycling (phase : p.phase = .cycling) (state : p.state = .running) : Goes p false
  | waiting {due : Option Nat} (phase : p.phase = .waiting due)
      (state : p.state = .scheduled ∨ p.state = .idle) : Goes p false
  | suspended (phase : p.phase = .ended) (state : p.state = .suspended) : Goes p true

namespace Poller.Goes

variable {p : Poller} {b : Bool}

theorem start (interval : Nat) : (Poller.start interval).Goes false := .fresh rfl rfl

theorem refresh (hg : p.Goes b) : p.refresh.2.Goes b := by
  have hphase := p.refresh_phase
  have hstate := p.refresh_state
  cases hg with
  | fresh phase state => exact .fresh (hphase.trans phase) (hstate.trans state)
  | cycling phase state => exact .cycling (hphase.trans phase) (hstate.trans state)
  | waiting phase state => exact .waiting (hphase.trans phase) (by rwa [hstate])
  | suspended phase state => exact .suspended (hphase.trans phase) (hstate.trans state)

/-- A turn starts a cycle or leaves the task as it is. -/
theorem wake (hg : p.Goes b) (hlive : p.isCancelled = false) (time : Nat) :
    (p.wake time).2.Goes b := by
  unfold Poller.wake
  cases hg with
  | fresh phase state =>
    simp only [phase, hlive]
    exact .cycling rfl rfl
  | cycling phase state =>
    simp only [phase]
    exact .cycling phase state
  | waiting phase state =>
    simp only [phase, hlive, Bool.false_eq_true, if_false]
    split
    · exact .cycling rfl rfl
    · split
      · exact .cycling rfl rfl
      · exact .waiting phase state
  | suspended phase state =>
    simp only [phase]
    exact .suspended phase state

/-- After a cycle the verdict decides. -/
theorem finish (hlive : p.isCancelled = false) (time : Nat) (suspends : Bool) :
    (p.finish time (if suspends then .suspend else .goOn)).Goes suspends := by
  unfold Poller.finish
  simp only [hlive, Bool.false_eq_true, if_false]
  cases suspends with
  | true => exact .suspended rfl rfl
  | false =>
    simp only [Bool.false_eq_true, if_false]
    split
    · exact .waiting rfl (.inr rfl)
    · exact .waiting rfl (.inl rfl)

end Poller.Goes

namespace Hub

/-- The poll task that a device has, by its life. -/
inductive Polled (h : Hub κ) (l : Life κ) : Option Nat → Prop where
  | refused {e : HubError} (opening : l.opening = .error e) (results : l.results = []) :
      Polled h l none
  | task {n : Nat} {t opened : PollTask κ} (opening : l.opening = .ok opened)
      (ht : h.task? n = some t) (identity : t.identity = l.config.identity)
      (schema : t.schema = opened.schema) (live : t.poller.isCancelled = false)
      (goes : t.poller.Goes l.isSuspended)
      (snapshot : ∀ s, l.snapshot? = some s → s.device = l.config.identity.device ∧
        s.deviceType = l.config.identity.deviceType ∧ s.Fits t.schema) :
      Polled h l (some n)

/-- What a hub keeps of a device, by the device's life. -/
inductive Kept (device : String) (h : Hub κ) : Option (Life κ) → Prop where
  | absent (entry : h.devices.get? device = none) (health : Dict.get? h.health device = none)
      (store : h.store.get? device = none) : Kept device h none
  | present {l : Life κ} {entry : DeviceEntry} (he : h.devices.get? device = some entry)
      (config : entry.config = l.config) (named : l.config.identity.device = device)
      (polled : Polled h l entry.task) (health : Dict.get? h.health device = some l.health)
      (store : h.store.get? device = l.snapshot?) : Kept device h (some l)

/-- Nothing that is kept of a device has changed. -/
structure Aside (device : String) (h h' : Hub κ) : Prop where
  entry : h'.devices.get? device = h.devices.get? device
  task : ∀ e n t, h.devices.get? device = some e → e.task = some n → h.task? n = some t →
    h'.task? n = some t
  health : Dict.get? h'.health device = Dict.get? h.health device
  store : h'.store.get? device = h.store.get? device

variable {h h' : Hub κ} {device : String} {life : Option (Life κ)}

/-- The task of a device may have moved on, as long as it shows the same. -/
theorem Polled.congr {l : Life κ} {task : Option Nat} (hpolled : Polled h l task)
    (htask : ∀ n t, task = some n → h.task? n = some t → t.identity = l.config.identity →
      t.poller.isCancelled = false → t.poller.Goes l.isSuspended →
      ∃ p, h'.task? n = some { t with poller := p } ∧ p.isCancelled = false ∧
        p.Goes l.isSuspended) : Polled h' l task := by
  cases hpolled with
  | refused opening results => exact .refused opening results
  | @task n t opened opening ht identity schema live goes snapshot =>
    obtain ⟨p, ht', hlive, hgoes⟩ := htask n t rfl ht identity live goes
    exact .task opening ht' identity schema hlive hgoes snapshot

theorem Kept.aside (hk : Kept device h life) (ha : Aside device h h') : Kept device h' life := by
  cases hk with
  | absent entry health store =>
    exact .absent (ha.entry.trans entry) (ha.health.trans health) (ha.store.trans store)
  | present he config named polled health store =>
    refine .present (ha.entry.trans he) config named ?_ (ha.health.trans health)
      (ha.store.trans store)
    refine polled.congr fun n t hn ht _ live goes => ?_
    exact ⟨t.poller, ha.task _ n t he hn ht, live, goes⟩

/-- Another poller in a task matters only to the device that the task works for. -/
theorem Kept.withPoller (hk : Kept device h life) {n : Nat} {p : Poller}
    (hp : ∀ t, h.task? n = some t → t.identity.device = device → t.poller.isCancelled = false →
      p.isCancelled = false ∧ ∀ b, t.poller.Goes b → p.Goes b) :
    Kept device (h.withPoller n p) life := by
  cases hk with
  | absent entry health store => exact .absent entry health store
  | present he config named polled health store =>
    refine .present he config named ?_ health store
    refine polled.congr fun m t hm ht identity live goes => ?_
    rw [task?_withPoller, ht]
    by_cases hnm : n = m
    · subst hnm
      obtain ⟨hlive, hgoes⟩ := hp t ht (by rw [identity, named]) live
      exact ⟨p, by simp, hlive, hgoes _ goes⟩
    · exact ⟨t.poller, by simp [hnm], live, goes⟩

/-! ## Calls -/

/-- Acts on the bridges, the credentials and the readers. -/
theorem aside_of_eq (hd : h'.devices = h.devices) (ht : h'.tasks = h.tasks)
    (hh : h'.health = h.health) (hs : h'.store.get? device = h.store.get? device) :
    Aside device h h' := by
  refine ⟨by rw [hd], fun e n t _ _ htask => ?_, by rw [hh], hs⟩
  rw [Hub.task?, ht]
  exact htask

theorem aside_register (fault : CertificateFault) (b : BridgeConfig) :
    Aside device h (h.register fault b).2 := by
  unfold Hub.register
  split
  · exact aside_of_eq rfl rfl rfl rfl
  · split
    · exact aside_of_eq rfl rfl rfl rfl
    · simp only
      split <;> exact aside_of_eq rfl rfl rfl rfl

theorem Kept.refresh (hk : Kept device h life) (refreshed : String) :
    Kept device (h.refresh refreshed).2 life := by
  unfold Hub.refresh
  split
  · exact hk
  · split
    · exact hk
    · next n t ht =>
      refine hk.withPoller fun u hu _ hlive => ?_
      rw [taskOf?_eq_some ht] at hu
      cases hu
      exact ⟨t.poller.refresh_isCancelled.trans hlive, fun b hg => hg.refresh⟩

theorem Kept.wake (hk : Kept device h life) (n time : Nat) :
    Kept device (h.wake n time).2 life := by
  unfold Hub.wake
  split
  · exact hk
  · next t ht =>
    refine hk.withPoller fun u hu _ hlive => ?_
    rw [ht] at hu
    cases hu
    exact ⟨(t.poller.wake_isCancelled time).trans hlive, fun b hg => hg.wake hlive time⟩

/-- A device is let go alone: its task is not that of another. -/
theorem aside_dispose (hw : Wired h) {disposed : String} {entry : DeviceEntry}
    (hd : h.devices.get? disposed = some entry) (hne : disposed ≠ device) :
    Aside device h (h.dispose disposed).2 := by
  obtain ⟨-, hstore, hhealth⟩ := sameFor_dispose hd hne
  refine ⟨by rw [get?_devices_dispose hd, if_neg hne], fun e n t he hn ht => ?_, hhealth, hstore⟩
  have hother : entry.task ≠ some n := by
    intro hentry
    obtain ⟨u, hu, huid⟩ := hw.owns disposed entry n hd hentry
    obtain ⟨v, hv, hvid⟩ := hw.owns device e n he hn
    rw [hu] at hv
    cases hv
    have hsame : entry.config.identity = e.config.identity := huid.symm.trans hvid
    apply hne
    rw [← hw.named disposed entry hd, ← hw.named device e he, hsame]
  rw [task?_dispose hd, ht, Option.map_some, if_neg hother]

/-- A device that is let go has nothing any more. -/
theorem Kept.dispose (hw : Wired h) (hk : Kept device h life) (disposed : String) :
    Kept device (h.dispose disposed).2 (unlessDisposed device life disposed) := by
  unfold unlessDisposed
  cases hd : h.devices.get? disposed with
  | none =>
    have hsame : (h.dispose disposed).2 = h := by simp [Hub.dispose, hd]
    rw [hsame]
    split
    · next hdevice =>
      subst hdevice
      cases hk with
      | absent entry health store => exact .absent entry health store
      | present he => rw [hd] at he; cases he
    · exact hk
  | some entry =>
    split
    · next hdevice =>
      subst hdevice
      refine .absent (by rw [get?_devices_dispose hd, if_pos rfl]) ?_ ?_
      · rw [dispose_eq hd, HealthTracker.get?_remove, if_pos rfl]
      · rw [dispose_eq hd, SnapshotStore.get?_remove, if_pos rfl]
    · next hdevice => exact hk.aside (aside_dispose hw hd hdevice)

theorem kept_accept {d : DeviceConfig} {t : PollTask κ} (hk : Kept device h none)
    (ht : h.prepare d = .ok t) (hd : d.identity.device = device) :
    Kept device (h.accept d t) (some (h.newLife d)) := by
  have hsuspended : (h.newLife d).isSuspended = false := by simp [newLife, Life.isSuspended, ht]
  have hhealth : (h.newLife d).health = .initial := by
    simp [newLife, Life.health, Life.firstHealth, ht]
  have hopening : (h.newLife d).opening = .ok t := ht
  obtain ⟨interval, client, schema, -, -, rfl⟩ := prepare_eq_ok ht
  cases hk with
  | absent entry health store =>
    refine .present (by rw [get?_devices_accept, if_pos hd]) rfl hd ?_ ?_ store
    · refine .task hopening ?_ rfl rfl rfl ?_ fun s hs => by cases hs
      · rw [task?_accept, if_pos rfl]
      · rw [hsuspended]
        exact .start interval
    · rw [hhealth]
      exact (h.health.get?_reset _ device).trans (if_pos hd)

theorem kept_refuse {d : DeviceConfig} {e : HubError} (hk : Kept device h none)
    (he : h.prepare d = .error e) (hd : d.identity.device = device) :
    Kept device (h.refuse d e) (some (h.newLife d)) := by
  have hhealth : (h.newLife d).health = (HealthOutcome.configError e.message).health .initial := by
    simp [newLife, Life.health, Life.firstHealth, he]
  cases hk with
  | absent entry health store =>
    refine .present (by rw [get?_devices_refuse, if_pos hd]) rfl hd (.refused he rfl) ?_ store
    rw [hhealth, get?_health_refuse, if_pos hd]

theorem aside_accept {d : DeviceConfig} (t : PollTask κ) (hne : d.identity.device ≠ device) :
    Aside device h (h.accept d t) := by
  obtain ⟨-, hstore, hhealth⟩ := sameFor_accept h t hne
  refine ⟨by rw [get?_devices_accept, if_neg hne], fun e n u _ _ hu => ?_, hhealth, hstore⟩
  rw [task?_accept, if_neg (Nat.ne_of_lt (task?_lt hu)), hu]

theorem aside_refuse {d : DeviceConfig} (e : HubError) (hne : d.identity.device ≠ device) :
    Aside device h (h.refuse d e) := by
  obtain ⟨-, hstore, hhealth⟩ := sameFor_refuse h e hne
  exact ⟨by rw [get?_devices_refuse, if_neg hne], fun _ _ _ _ _ hu => hu, hhealth, hstore⟩

theorem Kept.isNone (hk : Kept device h life) :
    life.isNone = (h.devices.get? device).isNone := by
  cases hk with
  | absent entry => rw [entry]; rfl
  | present he => rw [he]; rfl

theorem Kept.enroll (hk : Kept device h life) (d : DeviceConfig) :
    Kept device (h.enroll d).2 (h.enrolled device life d) := by
  have hnone := hk.isNone
  unfold Hub.enroll enrolled
  cases hshut : h.isShutDown with
  | true => simpa using hk
  | false =>
    by_cases hdevice : d.identity.device = device
    · subst hdevice
      cases hd : h.devices.get? d.identity.device with
      | some entry => simpa [hnone, hd, Dict.contains] using hk
      | none =>
        rw [hd] at hnone
        have hlife : life = none := Option.isNone_iff_eq_none.1 hnone
        subst hlife
        cases hprepare : h.prepare d with
        | ok t => simpa [hd, hprepare, Dict.contains] using kept_accept hk hprepare rfl
        | error e => simpa [hd, hprepare, Dict.contains] using kept_refuse hk hprepare rfl
    · simp only [hdevice, false_and, if_false, Bool.false_eq_true]
      split
      · exact hk
      · cases h.prepare d with
        | ok t => exact hk.aside (aside_accept t hdevice)
        | error e => exact hk.aside (aside_refuse e hdevice)

/-- What became of a configuration does not depend on who was disposed of just before. -/
theorem enrolled_dispose (h : Hub κ) (device : String) (life : Option (Life κ)) (disposed : String)
    (d : DeviceConfig) :
    (h.dispose disposed).2.enrolled device life d = h.enrolled device life d := by
  cases hd : h.devices.get? disposed with
  | none => simp [Hub.dispose, hd]
  | some entry =>
    rw [dispose_eq hd]
    rfl

theorem Kept.restart (hw : Wired h) (hk : Kept device h life) (restarted : String) :
    Kept device (h.restart restarted).2 (h.follow device life (.restart restarted)) := by
  unfold Hub.restart follow
  split
  · next hd =>
    simp only [hd]
    exact hk
  · next entry hd =>
    simp only [hd]
    rw [← enrolled_dispose h device _ restarted]
    exact (hk.dispose hw restarted).enroll entry.config

theorem Kept.update (hw : Wired h) (hk : Kept device h life) (d : DeviceConfig) :
    Kept device (h.update d).2 (h.follow device life (.update d)) := by
  unfold Hub.update follow
  simp only
  rw [← enrolled_dispose h device _ d.identity.device]
  exact (hk.dispose hw d.identity.device).enroll d

/-! ## Cycles -/

theorem finish_of_live {n : Nat} {t : PollTask κ} (ht : h.task? n = some t)
    (hlive : t.poller.isCancelled = false) (time : Nat) (now : Instant)
    (answer : Except RequestError Payload) :
    h.finish n time now answer =
      (h.absorb t.identity.device (readAnswer t.schema t.identity now answer) now).withPoller n
        (t.poller.finish time
          (if (HealthOutcome.ofResult now (readAnswer t.schema t.identity now answer)).suspends then
            .suspend else .goOn)) := by
  simp [Hub.finish, Hub.commit, ht, hlive]

section

variable {l : Life κ} {r : Except HubError Snapshot} (now : Instant)

theorem get?_health_absorb (hhealth : Dict.get? h.health device = some l.health) :
    Dict.get? (h.absorb device r now).health device = some (l.add (r, now)).health := by
  rw [absorb_health, HealthTracker.get?_apply, HealthTracker.transition_health hhealth,
    Life.health_add]

theorem get?_store_absorb (hstore : h.store.get? device = l.snapshot?)
    (hr : ∀ s, r = .ok s → s.device = device) :
    (h.absorb device r now).store.get? device = (l.add (r, now)).snapshot? := by
  rw [absorb_store]
  cases r with
  | error e =>
    rw [Life.snapshot?_add_error]
    exact hstore
  | ok s =>
    rw [Life.snapshot?_add_ok, SnapshotStore.get?_upsert, if_pos (hr s rfl)]

end

/-- The task that commits a result goes on, or is suspended by it. -/
theorem Polled.commit {l : Life κ} {n : Nat} {t : PollTask κ} (hpolled : Polled h l (some n))
    (ht : h.task? n = some t) (hlive : t.poller.isCancelled = false) (time : Nat) (now : Instant)
    {answer : Except RequestError Payload} (ha : answerIsFinite answer = true) :
    Polled (h.finish n time now answer)
      (l.add (readAnswer t.schema t.identity now answer, now)) (some n) := by
  rw [finish_of_live ht hlive]
  generalize hr : readAnswer t.schema t.identity now answer = r
  have hgoes := Poller.Goes.finish hlive time (HealthOutcome.ofResult now r).suspends
  have hcancelled := t.poller.finish_isCancelled time
    (if (HealthOutcome.ofResult now r).suspends then .suspend else .goOn)
  generalize t.poller.finish time _ = p at hgoes hcancelled ⊢
  have ht' : ((h.absorb t.identity.device r now).withPoller n p).task? n =
      some { t with poller := p } := by
    have hkept : (h.absorb t.identity.device r now).task? n = some t := by
      rw [Hub.task?, absorb_tasks]
      exact ht
    rw [task?_withPoller, hkept, Option.map_some, if_pos rfl]
  cases hpolled with
  | @task _ u opened opening hu identity schema live goes snapshot =>
    rw [ht] at hu
    cases hu
    refine .task opening ht' identity schema (hcancelled.trans hlive) ?_ fun s hs => ?_
    · rw [Life.isSuspended_add opening]
      exact hgoes
    · cases r with
      | error e => exact snapshot s hs
      | ok found =>
        cases hs
        exact ⟨(readAnswer_device hr).trans (congrArg Identity.device identity),
          (readAnswer_deviceType hr).trans (congrArg Identity.deviceType identity),
          readAnswer_fits ha hr⟩

/-- The task of a device commits a result: the device has it from now on. -/
theorem Kept.commit (hw : Wired h) (hk : Kept device h life) {n : Nat} {t : PollTask κ}
    (ht : h.task? n = some t) (hlive : t.poller.isCancelled = false)
    (hdevice : t.identity.device = device) (time : Nat) (now : Instant)
    {answer : Except RequestError Payload} (ha : answerIsFinite answer = true) :
    Kept device (h.finish n time now answer)
      (life.map fun l => l.add (readAnswer t.schema t.identity now answer, now)) := by
  obtain ⟨-, e, he, hn⟩ := hw.serves n t ht hlive
  rw [hdevice] at he
  cases hk with
  | absent entry => rw [entry] at he; cases he
  | @present l entry hentry config named polled health store =>
    have hsame : entry = e := Option.some.inj (hentry.symm.trans he)
    subst hsame
    rw [hn] at polled
    have hpolled := polled.commit ht hlive time now ha
    have hdev : ∀ s, readAnswer t.schema t.identity now answer = .ok s → s.device = device :=
      fun s hr => (readAnswer_device hr).trans hdevice
    rw [finish_of_live ht hlive, hdevice] at hpolled ⊢
    refine .present ?_ config named (hn ▸ hpolled) (get?_health_absorb now health)
      (get?_store_absorb now store hdev)
    exact (congrArg (Dict.get? · device) (absorb_devices ..)).trans hentry

theorem finish_of_isCancelled {n : Nat} {t : PollTask κ} (ht : h.task? n = some t)
    (hc : t.poller.isCancelled = true) (time : Nat) (now : Instant)
    (answer : Except RequestError Payload) :
    h.finish n time now answer = h.withPoller n (t.poller.finish time .goOn) := by
  simp [Hub.finish, Hub.commit, ht, hc]

/-- The task of another device commits a result. -/
theorem aside_absorb {t : PollTask κ} (hne : t.identity.device ≠ device) (now : Instant)
    (answer : Except RequestError Payload) :
    Aside device h
      (h.absorb t.identity.device (readAnswer t.schema t.identity now answer) now) := by
  have hdev : ∀ s, readAnswer t.schema t.identity now answer = .ok s →
      s.device = t.identity.device := fun s hs => readAnswer_device hs
  obtain ⟨-, hstore, hhealth⟩ := sameFor_absorb h now hdev hne
  refine ⟨by rw [absorb_devices], fun e m u _ _ hu => ?_, hhealth, hstore⟩
  rw [Hub.task?, absorb_tasks]
  exact hu

/-- The end of a cycle: a result is committed, or nothing happens to the device. -/
theorem Kept.finish (hw : Wired h) (hk : Kept device h life) (n time : Nat) (now : Instant)
    (answer : Except RequestError Payload) :
    Kept device (h.step (.finish n time now answer))
      (h.follow device life (.finish n time now answer)) := by
  simp only [Hub.step, follow, committed?]
  cases ht : h.task? n with
  | none =>
    have hidle : h.isCycling n = false := by simp [isCycling, ht]
    simpa [hidle] using hk
  | some t =>
    by_cases hguard : (h.isCycling n && answerIsFinite answer) = true
    · obtain ⟨-, ha⟩ := Bool.and_eq_true_iff.1 hguard
      cases hlive : t.poller.isCancelled with
      | true =>
        have hkept : Kept device (h.withPoller n (t.poller.finish time .goOn)) life := by
          refine hk.withPoller fun u hu _ hlive' => ?_
          rw [ht] at hu
          cases hu
          rw [hlive] at hlive'
          cases hlive'
        simpa [hguard, hlive, finish_of_isCancelled ht hlive] using hkept
      | false =>
        by_cases hdevice : t.identity.device = device
        · simpa [hguard, hlive, hdevice] using hk.commit hw ht hlive hdevice time now ha
        · have hkept := hk.aside (aside_absorb hdevice now answer)
          have hafter : Kept device (h.finish n time now answer) life := by
            rw [finish_of_live ht hlive]
            refine hkept.withPoller fun u hu hother _ => ?_
            rw [Hub.task?, absorb_tasks] at hu
            rw [Hub.task?, hu] at ht
            cases ht
            exact absurd hother hdevice
          simpa [hguard, hdevice] using hafter
    · simpa [hguard] using hk

/-! ## Runs -/

theorem Reachable.run (hr : Reachable h) (acts : List (Act κ)) : Reachable (h.run acts) := by
  obtain ⟨schemas, hchanges⟩ := hr
  exact ⟨schemas, hchanges.trans (changes_run h acts)⟩

theorem Kept.step (hw : Wired h) (hk : Kept device h life) (a : Act κ)
    (hs : (h.step a).isShutDown = false) :
    Kept device (h.step a) (h.follow device life a) := by
  cases a with
  | attach | renew => exact hk.aside (aside_of_eq rfl rfl rfl rfl)
  | register fault b => exact hk.aside (aside_register fault b)
  | enroll d => exact hk.enroll d
  | dispose disposed => exact hk.dispose hw disposed
  | restart restarted => exact hk.restart hw restarted
  | update d => exact hk.update hw d
  | refresh refreshed => exact hk.refresh refreshed
  | commandDone commanded answer =>
    cases answer with
    | error e => exact hk
    | ok payload => exact hk.refresh commanded
  | subscribe reader => exact hk.aside (aside_of_eq rfl rfl rfl (h.store.get?_subscribe ..))
  | beginShutdown => cases hs
  | release released =>
    have hbefore := isShutDown_of_step hs
    simpa [Hub.step, follow, hbefore] using hk
  | wake n time => exact hk.wake n time
  | finish n time now answer => exact hk.finish hw n time now answer

theorem Kept.run (hr : Reachable h) (hk : Kept device h life) (acts : List (Act κ))
    (hs : (h.run acts).isShutDown = false) :
    Kept device (h.run acts) (followAll device h life acts) := by
  induction acts generalizing h life with
  | nil => exact hk
  | cons a acts ih =>
    have hstep : (h.step a).isShutDown = false := isShutDown_of_run hs
    exact ih (hr.run [a]) (hk.step hr.wired a hstep) hs

/-- As long as a hub is not shut down, its tables follow the lives of the devices. -/
theorem kept_run (schemas : SchemaRegistry) (acts : List (Act κ)) (device : String)
    (hs : (run (.new schemas) acts).isShutDown = false) :
    Kept device (run (.new schemas) acts) (life? schemas acts device) :=
  Kept.run ⟨schemas, .refl⟩ (.absent rfl rfl rfl) acts hs

end Hub

end DeviceHub
