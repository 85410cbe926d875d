import DeviceHub.Proofs.Hub.Clients
import DeviceHub.Proofs.Hub.Tables
import DeviceHub.Proofs.Hub.Timeline

/-!
# A device's share of a hub

What a hub has of one device: its configuration, its poll task, its health, its snapshot and what was
told of it. Two hubs that have the same of a device, the same bridges and the same types cannot be told
apart through that device: every operation on it answers the same and leaves the same of it. What is
done to another device leaves it as it is.

* `AgreeOn.call`: operations on the device, on bridges, and shutting down.
* `AgreeOn.wake`, `AgreeOn.finish`, `AgreeOn.commandDone`: its turns and its answers.
* `untouched_step`: everything that is another device's.
-/
namespace DeviceHub.Hub

variable {κ : Type} {h h' h₁ h₂ h₃ : Hub κ} {device : String}

/-! ## Shares -/

/-- What listeners were told of a device, the latest first. -/
def told (h : Hub κ) (device : String) : List Event :=
  h.journal.filter fun e => e.isTold && e.device = device

/-- The configuration that a device is registered with. -/
def config? (h : Hub κ) (device : String) : Option DeviceConfig :=
  (h.devices.get? device).map (·.config)

/-- The number of the poll task that a device is registered with. -/
def current? (h : Hub κ) (device : String) : Option Nat := (h.devices.get? device).bind (·.task)

/-- The poll task that a device is registered with. -/
def ownTask? (h : Hub κ) (device : String) : Option (PollTask κ) :=
  (h.current? device).bind h.task?

/-- Two hubs have the same of a device. -/
structure AgreeOn (device : String) (h₁ h₂ : Hub κ) : Prop where
  schemas : h₁.schemas = h₂.schemas
  clients : h₁.clients = h₂.clients
  isShutDown : h₁.isShutDown = h₂.isShutDown
  config : h₁.config? device = h₂.config? device
  task : h₁.ownTask? device = h₂.ownTask? device
  health : Dict.get? h₁.health device = Dict.get? h₂.health device
  snapshot : h₁.store.get? device = h₂.store.get? device
  told : h₁.told device = h₂.told device

/-- Two operations answered the same and left the same of a device. -/
structure SameCall {α : Type} (device : String) (x₁ x₂ : α × Hub κ) : Prop where
  answer : x₁.1 = x₂.1
  agree : AgreeOn device x₁.2 x₂.2

theorem AgreeOn.refl (device : String) (h : Hub κ) : AgreeOn device h h :=
  ⟨rfl, rfl, rfl, rfl, rfl, rfl, rfl, rfl⟩

theorem AgreeOn.symm (ha : AgreeOn device h₁ h₂) : AgreeOn device h₂ h₁ :=
  ⟨ha.schemas.symm, ha.clients.symm, ha.isShutDown.symm, ha.config.symm, ha.task.symm,
    ha.health.symm, ha.snapshot.symm, ha.told.symm⟩

theorem AgreeOn.trans (ha : AgreeOn device h₁ h₂) (hb : AgreeOn device h₂ h₃) :
    AgreeOn device h₁ h₃ :=
  ⟨ha.schemas.trans hb.schemas, ha.clients.trans hb.clients, ha.isShutDown.trans hb.isShutDown,
    ha.config.trans hb.config, ha.task.trans hb.task, ha.health.trans hb.health,
    ha.snapshot.trans hb.snapshot, ha.told.trans hb.told⟩

theorem taskOf?_eq (h : Hub κ) (device : String) :
    h.taskOf? device = (h.current? device).bind fun n => (h.task? n).map fun t => (n, t) := by
  unfold taskOf? current?
  cases h.devices.get? device with
  | none => rfl
  | some e =>
    cases hn : e.task with
    | none => simp [hn]
    | some n => cases ht : h.task? n <;> simp [hn, ht]

theorem taskOf?_eq_some_iff {h : Hub κ} {n : Nat} {t : PollTask κ} :
    h.taskOf? device = some (n, t) ↔ h.current? device = some n ∧ h.task? n = some t := by
  rw [taskOf?_eq, Option.bind_eq_some_iff]
  constructor
  · rintro ⟨m, hm, ht⟩
    obtain ⟨u, hu, heq⟩ := Option.map_eq_some_iff.1 ht
    cases heq
    exact ⟨hm, hu⟩
  · rintro ⟨hn, ht⟩
    exact ⟨n, hn, by rw [ht]; rfl⟩

theorem pollState?_eq (h : Hub κ) (device : String) :
    h.pollState? device = (h.config? device).map fun _ =>
      ((h.ownTask? device).map (·.poller.state)).getD .stopped := by
  unfold pollState? config? ownTask?
  rw [taskOf?_eq, Option.map_map]
  cases h.current? device with
  | none => rfl
  | some n =>
    rw [Option.bind_some, Option.bind_some]
    cases h.task? n <;> rfl

theorem AgreeOn.pollState? (ha : AgreeOn device h₁ h₂) :
    h₁.pollState? device = h₂.pollState? device := by
  rw [pollState?_eq, pollState?_eq, ha.config, ha.task]

theorem config?_eq_none : h.config? device = none ↔ h.devices.get? device = none := by
  simp [config?]

theorem contains_eq (h : Hub κ) (device : String) :
    h.devices.contains device = (h.config? device).isSome := by
  simp [Dict.contains, config?]

/-- What is told of others is not told of the device. -/
theorem told_of_others {events : List Event} (hj : h'.journal = events ++ h.journal)
    (hothers : ∀ e ∈ events, e.device ≠ device) : h'.told device = h.told device := by
  have hnone : events.filter (fun e => e.isTold && e.device = device) = [] := by
    rw [List.filter_eq_nil_iff]
    intro e he
    simp [hothers e he]
  unfold told
  rw [hj, List.filter_append, hnone, List.nil_append]

/-! ## Taking in and letting go -/

section

variable (h : Hub κ) (c : DeviceConfig) (t : PollTask κ) (e : HubError)

theorem current?_accept :
    (h.accept c t).current? device =
      if c.identity.device = device then some h.tasks.length else h.current? device := by
  unfold current?
  rw [get?_devices_accept]
  split <;> rfl

theorem current?_refuse :
    (h.refuse c e).current? device =
      if c.identity.device = device then none else h.current? device := by
  unfold current?
  rw [get?_devices_refuse]
  split <;> rfl

theorem current?_release (released : String) :
    (h.release released).current? device =
      if released = device then none else h.current? device := by
  unfold current?
  rw [get?_devices_release]
  split <;> rfl

theorem current?_dispose (disposed : String) :
    (h.dispose disposed).2.current? device =
      if disposed = device then none else h.current? device := by
  unfold current?
  cases hd : h.devices.get? disposed with
  | none =>
    have hsame : (h.dispose disposed).2 = h := by simp [dispose, hd]
    rw [hsame]
    split
    · next hdevice => rw [← hdevice, hd]; rfl
    · rfl
  | some entry =>
    rw [get?_devices_dispose hd]
    split <;> rfl

end

theorem AgreeOn.prepare (ha : AgreeOn device h₁ h₂) (c : DeviceConfig) :
    h₁.prepare c = h₂.prepare c := by
  simp only [Hub.prepare, Hub.resolve, ha.clients, ha.schemas]

theorem AgreeOn.accept {c : DeviceConfig} (ha : AgreeOn c.identity.device h₁ h₂) (t : PollTask κ) :
    AgreeOn c.identity.device (h₁.accept c t) (h₂.accept c t) := by
  have hconfig (h : Hub κ) : (h.accept c t).config? c.identity.device = some c := by
    simp [config?, get?_devices_accept]
  have htask (h : Hub κ) : (h.accept c t).ownTask? c.identity.device = some t := by
    simp [ownTask?, current?_accept, task?_accept]
  have hhealth (h : Hub κ) : Dict.get? (h.accept c t).health c.identity.device = some .initial :=
    (h.health.get?_reset _ _).trans (if_pos rfl)
  exact ⟨ha.schemas, ha.clients, ha.isShutDown, by rw [hconfig, hconfig], by rw [htask, htask],
    by rw [hhealth, hhealth], ha.snapshot, ha.told⟩

theorem AgreeOn.refuse {c : DeviceConfig} (ha : AgreeOn c.identity.device h₁ h₂) (e : HubError) :
    AgreeOn c.identity.device (h₁.refuse c e) (h₂.refuse c e) := by
  have hconfig (h : Hub κ) : (h.refuse c e).config? c.identity.device = some c := by
    simp [config?, get?_devices_refuse]
  have htask (h : Hub κ) : (h.refuse c e).ownTask? c.identity.device = none := by
    simp [ownTask?, current?_refuse]
  have htold (h : Hub κ) : (h.refuse c e).told c.identity.device =
      [.connectivity c.identity.device .configError (some e.message)] ++
        h.told c.identity.device := by
    show List.filter _ (.connectivity _ _ _ :: .begun _ :: h.journal) = _
    simp only [List.filter_cons, Event.isTold, Event.device, Hub.told]
    rfl
  refine ⟨ha.schemas, ha.clients, ha.isShutDown, by rw [hconfig, hconfig], by rw [htask, htask],
    ?_, ha.snapshot, by rw [htold, htold, ha.told]⟩
  rw [get?_health_refuse, get?_health_refuse, if_pos rfl, if_pos rfl]

theorem AgreeOn.enroll {c : DeviceConfig} (ha : AgreeOn c.identity.device h₁ h₂) :
    SameCall c.identity.device (h₁.enroll c) (h₂.enroll c) := by
  unfold Hub.enroll
  simp only [ha.isShutDown, contains_eq, ha.config, ha.prepare c]
  split
  · exact ⟨rfl, ha⟩
  · split
    · exact ⟨rfl, ha⟩
    · split
      · exact ⟨rfl, ha.accept _⟩
      · exact ⟨rfl, ha.refuse _⟩

theorem AgreeOn.dispose (ha : AgreeOn device h₁ h₂) :
    SameCall device (h₁.dispose device) (h₂.dispose device) := by
  have hgone {h : Hub κ} {entry : DeviceEntry} (hd : h.devices.get? device = some entry) :
      (h.dispose device).1 = .ok () ∧ (h.dispose device).2.config? device = none ∧
        (h.dispose device).2.ownTask? device = none ∧
        Dict.get? (h.dispose device).2.health device = none ∧
        (h.dispose device).2.store.get? device = none := by
    refine ⟨by simp [Hub.dispose, hd], ?_, ?_, ?_, ?_⟩
    · rw [config?_eq_none, get?_devices_dispose hd, if_pos rfl]
    · rw [ownTask?, current?_dispose, if_pos rfl]
      rfl
    · rw [dispose_eq hd, HealthTracker.get?_remove, if_pos rfl]
    · rw [dispose_eq hd, SnapshotStore.get?_remove, if_pos rfl]
  cases hd₁ : h₁.devices.get? device with
  | none =>
    have hd₂ : h₂.devices.get? device = none := by
      rw [← config?_eq_none, ← ha.config, config?_eq_none, hd₁]
    simp only [Hub.dispose, hd₁, hd₂]
    exact ⟨rfl, ha⟩
  | some entry₁ =>
    obtain ⟨entry₂, hd₂⟩ : ∃ entry₂, h₂.devices.get? device = some entry₂ := by
      refine Option.ne_none_iff_exists'.1 fun hnone => ?_
      rw [← config?_eq_none, ← ha.config, config?_eq_none, hd₁] at hnone
      cases hnone
    obtain ⟨hanswer₁, hconfig₁, htask₁, hhealth₁, hstore₁⟩ := hgone hd₁
    obtain ⟨hanswer₂, hconfig₂, htask₂, hhealth₂, hstore₂⟩ := hgone hd₂
    refine ⟨hanswer₁.trans hanswer₂.symm, ?_, ?_, ?_, hconfig₁.trans hconfig₂.symm,
      htask₁.trans htask₂.symm, hhealth₁.trans hhealth₂.symm, hstore₁.trans hstore₂.symm, ?_⟩
    all_goals rw [dispose_eq hd₁, dispose_eq hd₂]
    · exact ha.schemas
    · exact ha.clients
    · exact ha.isShutDown
    · exact ha.told

theorem AgreeOn.restart (hw : Wired h₁) (ha : AgreeOn device h₁ h₂) :
    SameCall device (h₁.restart device) (h₂.restart device) := by
  have hconfig := ha.config
  unfold Hub.config? at hconfig
  unfold Hub.restart
  cases hd₁ : h₁.devices.get? device with
  | none =>
    rw [hd₁] at hconfig
    rw [Option.map_eq_none_iff.1 hconfig.symm]
    exact ⟨rfl, ha⟩
  | some entry₁ =>
    rw [hd₁] at hconfig
    obtain ⟨entry₂, hd₂, hsame⟩ := Option.map_eq_some_iff.1 hconfig.symm
    simp only [hd₂, hsame]
    have hnamed := hw.named device entry₁ hd₁
    subst hnamed
    exact ha.dispose.agree.enroll

theorem AgreeOn.update {c : DeviceConfig} (ha : AgreeOn c.identity.device h₁ h₂) :
    SameCall c.identity.device (h₁.update c) (h₂.update c) := ha.dispose.agree.enroll

/-! ## The poll task of the device -/

theorem AgreeOn.withPoller {n₁ n₂ : Nat} (ha : AgreeOn device h₁ h₂)
    (hn₁ : h₁.current? device = some n₁) (hn₂ : h₂.current? device = some n₂) (p : Poller) :
    AgreeOn device (h₁.withPoller n₁ p) (h₂.withPoller n₂ p) := by
  have htask {h : Hub κ} {n : Nat} (hn : h.current? device = some n) :
      (h.withPoller n p).ownTask? device =
        (h.ownTask? device).map fun t => { t with poller := p } := by
    have hcurrent : (h.withPoller n p).current? device = some n := hn
    rw [ownTask?, hcurrent, ownTask?, hn]
    simp [task?_withPoller]
  exact ⟨ha.schemas, ha.clients, ha.isShutDown, ha.config, by rw [htask hn₁, htask hn₂, ha.task],
    ha.health, ha.snapshot, ha.told⟩

theorem AgreeOn.refresh (ha : AgreeOn device h₁ h₂) :
    SameCall device (h₁.refresh device) (h₂.refresh device) := by
  have hnone (h : Hub κ) (hd : h.config? device = none) :
      h.refresh device = (.error (.unknownDevice device), h) := by
    rw [config?_eq_none] at hd
    simp [Hub.refresh, hd]
  have hinactive (h : Hub κ) (hd : h.config? device ≠ none) (ht : h.ownTask? device = none) :
      h.refresh device = (.ok .inactive, h) := by
    obtain ⟨entry, hd⟩ := Option.ne_none_iff_exists'.1 fun hn => hd (config?_eq_none.2 hn)
    have ht : h.taskOf? device = none := by
      rw [taskOf?_eq]
      unfold ownTask? at ht
      cases hn : h.current? device <;> simp_all
    simp [Hub.refresh, hd, ht]
  have hactive (h : Hub κ) {t : PollTask κ} (hd : h.config? device ≠ none)
      (ht : h.ownTask? device = some t) : ∃ n, h.current? device = some n ∧
        h.refresh device = (.ok t.poller.refresh.1, h.withPoller n t.poller.refresh.2) := by
    obtain ⟨entry, hd⟩ := Option.ne_none_iff_exists'.1 fun hn => hd (config?_eq_none.2 hn)
    obtain ⟨n, hn, ht⟩ := Option.bind_eq_some_iff.1 ht
    exact ⟨n, hn, by simp [Hub.refresh, hd, taskOf?_eq_some_iff.2 ⟨hn, ht⟩]⟩
  by_cases hd : h₁.config? device = none
  · rw [hnone h₁ hd, hnone h₂ (ha.config ▸ hd)]
    exact ⟨rfl, ha⟩
  · have hd₂ : h₂.config? device ≠ none := ha.config ▸ hd
    cases ht : h₁.ownTask? device with
    | none =>
      rw [hinactive h₁ hd ht, hinactive h₂ hd₂ (ha.task ▸ ht)]
      exact ⟨rfl, ha⟩
    | some t =>
      obtain ⟨n₁, hn₁, heq₁⟩ := hactive h₁ hd ht
      obtain ⟨n₂, hn₂, heq₂⟩ := hactive h₂ hd₂ (ha.task ▸ ht)
      rw [heq₁, heq₂]
      exact ⟨rfl, ha.withPoller hn₁ hn₂ _⟩

theorem AgreeOn.commandClient (ha : AgreeOn device h₁ h₂) :
    h₁.commandClient device = h₂.commandClient device := by
  have hconfig := ha.config
  unfold config? at hconfig
  unfold Hub.commandClient
  cases hd₁ : h₁.devices.get? device with
  | none =>
    rw [hd₁] at hconfig
    rw [Option.map_eq_none_iff.1 hconfig.symm]
  | some entry₁ =>
    rw [hd₁] at hconfig
    obtain ⟨entry₂, hd₂, hsame⟩ := Option.map_eq_some_iff.1 hconfig.symm
    simp only [hd₂, hsame, ha.clients]

theorem AgreeOn.commandDone (ha : AgreeOn device h₁ h₂) (report : Except RequestError Payload) :
    SameCall device (h₁.commandDone device report) (h₂.commandDone device report) := by
  cases report with
  | error e => exact ⟨rfl, ha⟩
  | ok payload => exact ⟨rfl, ha.refresh.agree⟩

section

variable {n₁ n₂ : Nat}

/-- Both tasks of the device are the same task. -/
theorem AgreeOn.task? (ha : AgreeOn device h₁ h₂) (hn₁ : h₁.current? device = some n₁)
    (hn₂ : h₂.current? device = some n₂) : h₁.task? n₁ = h₂.task? n₂ := by
  have htask := ha.task
  rwa [ownTask?, ownTask?, hn₁, hn₂] at htask

theorem AgreeOn.wake (ha : AgreeOn device h₁ h₂) (hn₁ : h₁.current? device = some n₁)
    (hn₂ : h₂.current? device = some n₂) (time : Nat) :
    SameCall device (h₁.wake n₁ time) (h₂.wake n₂ time) := by
  unfold Hub.wake
  rw [ha.task? hn₁ hn₂]
  cases h₂.task? n₂ with
  | none => exact ⟨rfl, ha⟩
  | some t => exact ⟨rfl, ha.withPoller hn₁ hn₂ _⟩

theorem AgreeOn.absorb (ha : AgreeOn device h₁ h₂) {r : Except HubError Snapshot} (now : Instant)
    (hr : ∀ s, r = .ok s → s.device = device) :
    AgreeOn device (h₁.absorb device r now) (h₂.absorb device r now) := by
  have htransition : h₁.health.transition device (.ofResult now r) =
      h₂.health.transition device (.ofResult now r) := by
    simp only [HealthTracker.transition, ha.health]
  have hnews : h₁.news r = h₂.news r := by
    cases r with
    | error e => rfl
    | ok s => simp only [news, hr s rfl, ha.snapshot]
  refine ⟨?_, ?_, ?_, ?_, ?_, ?_, ?_, ?_⟩
  · rw [(sameSetting_absorb h₁ ..).schemas, (sameSetting_absorb h₂ ..).schemas, ha.schemas]
  · rw [(keepsClients_absorb h₁ ..).clients, (keepsClients_absorb h₂ ..).clients, ha.clients]
  · rw [absorb_isShutDown, absorb_isShutDown, ha.isShutDown]
  · simpa only [config?, absorb_devices] using ha.config
  · have htask (h : Hub κ) : (h.absorb device r now).ownTask? device = h.ownTask? device := by
      unfold ownTask? current? Hub.task?
      rw [absorb_devices, absorb_tasks]
    rw [htask, htask, ha.task]
  · rw [absorb_health, absorb_health, HealthTracker.get?_apply, HealthTracker.get?_apply,
      htransition]
  · rw [absorb_store, absorb_store]
    cases r with
    | error e => exact ha.snapshot
    | ok s => simp only [SnapshotStore.get?_upsert, ha.snapshot]
  · have htold (h : Hub κ) : (h.absorb device r now).told device =
        (connectivityNews device (h.health.transition device (.ofResult now r)) ++
          (h.news r).reverse).filter (fun e => e.isTold && e.device = device) ++ h.told device := by
      unfold Hub.told
      rw [absorb_journal, ← List.append_assoc, List.filter_append]
    rw [htold, htold, htransition, hnews, ha.told]

theorem AgreeOn.finish (hw : Wired h₁) (ha : AgreeOn device h₁ h₂)
    (hn₁ : h₁.current? device = some n₁) (hn₂ : h₂.current? device = some n₂) (time : Nat)
    (now : Instant) (report : Except RequestError Payload) :
    AgreeOn device (h₁.finish n₁ time now report) (h₂.finish n₂ time now report) := by
  obtain ⟨entry, hd, hn⟩ := Option.bind_eq_some_iff.1 hn₁
  obtain ⟨t, ht₁, hid⟩ := hw.owns device entry n₁ hd hn
  have ht₂ : h₂.task? n₂ = some t := by rw [← ha.task? hn₁ hn₂, ht₁]
  have hdevice : t.identity.device = device := by rw [hid, hw.named device entry hd]
  cases hc : t.poller.isCancelled with
  | true =>
    rw [finish_of_isCancelled ht₁ hc, finish_of_isCancelled ht₂ hc]
    exact ha.withPoller hn₁ hn₂ _
  | false =>
    rw [finish_of_live ht₁ hc, finish_of_live ht₂ hc, hdevice]
    refine (ha.absorb now fun s hs => (readAnswer_device hs).trans hdevice).withPoller ?_ ?_ _
    · simpa only [current?, absorb_devices] using hn₁
    · simpa only [current?, absorb_devices] using hn₂

end

/-! ## Bridges, and shutting down -/

theorem AgreeOn.attach (ha : AgreeOn device h₁ h₂) (bridge : String) (client : Client κ) :
    AgreeOn device (h₁.attach bridge client) (h₂.attach bridge client) :=
  ⟨ha.schemas, congrArg (·.insert bridge client) ha.clients, ha.isShutDown, ha.config, ha.task,
    ha.health, ha.snapshot, ha.told⟩

/-- What is known of credentials is not a device's. -/
theorem AgreeOn.withRefresher (ha : AgreeOn device h₁ h₂) (r₁ r₂ : Refresher TokenSource) :
    AgreeOn device { h₁ with refresher := r₁ } { h₂ with refresher := r₂ } :=
  ⟨ha.schemas, ha.clients, ha.isShutDown, ha.config, ha.task, ha.health, ha.snapshot, ha.told⟩

theorem AgreeOn.register (ha : AgreeOn device h₁ h₂) (fault : CertificateFault)
    (b : BridgeConfig) : AgreeOn device (h₁.register fault b).2 (h₂.register fault b).2 := by
  unfold Hub.register
  cases b.validate with
  | error e => exact ha
  | ok u =>
    simp only
    split
    · exact ha
    · split
      · exact ha.withRefresher _ _
      · exact (ha.withRefresher _ _).attach _ _

theorem AgreeOn.beginShutdown (ha : AgreeOn device h₁ h₂) :
    AgreeOn device h₁.beginShutdown h₂.beginShutdown := by
  have htask (h : Hub κ) : h.beginShutdown.ownTask? device =
      (h.ownTask? device).map fun t => { t with poller := t.poller.cancel } := by
    have hcurrent : h.beginShutdown.current? device = h.current? device := rfl
    rw [ownTask?, hcurrent, ownTask?]
    cases h.current? device with
    | none => rfl
    | some n => exact task?_beginShutdown h n
  exact ⟨ha.schemas, ha.clients, rfl, ha.config, by rw [htask, htask, ha.task], ha.health,
    ha.snapshot, ha.told⟩

/-! ## Calls -/

/-- The calls that concern a device: those on it, those on bridges, and shutting down. That a device is
let go is no call; when a shutdown comes to that is up to the cycles that it waits for. -/
def Act.concerns (device : String) : Act κ → Bool
  | .attach .. | .register .. | .beginShutdown => true
  | .enroll c | .update c => c.identity.device = device
  | .dispose d | .restart d | .refresh d => d = device
  | _ => false

/-- A call that concerns the device answers the same and leaves the same of it. -/
theorem AgreeOn.call (hw : Wired h₁) (ha : AgreeOn device h₁ h₂) {a : Act κ}
    (hconcerns : a.concerns device = true) :
    h₁.answer? a = h₂.answer? a ∧ AgreeOn device (h₁.step a) (h₂.step a) := by
  cases a with
  | attach bridge client => exact ⟨rfl, ha.attach bridge client⟩
  | register fault b => exact ⟨rfl, ha.register fault b⟩
  | enroll c =>
    obtain rfl : c.identity.device = device := of_decide_eq_true hconcerns
    exact ⟨by simp only [answer?, ha.enroll.answer], ha.enroll.agree⟩
  | dispose d =>
    obtain rfl : d = device := of_decide_eq_true hconcerns
    exact ⟨by simp only [answer?, ha.dispose.answer], ha.dispose.agree⟩
  | restart d =>
    obtain rfl : d = device := of_decide_eq_true hconcerns
    exact ⟨by simp only [answer?, (ha.restart hw).answer], (ha.restart hw).agree⟩
  | update c =>
    obtain rfl : c.identity.device = device := of_decide_eq_true hconcerns
    exact ⟨by simp only [answer?, ha.update.answer], ha.update.agree⟩
  | refresh d =>
    obtain rfl : d = device := of_decide_eq_true hconcerns
    exact ⟨by simp only [answer?, ha.refresh.answer], ha.refresh.agree⟩
  | beginShutdown => exact ⟨rfl, ha.beginShutdown⟩
  | _ => cases hconcerns

/-! ## Numbers of poll tasks -/

/-- Whether a call disposes of a device, if only to take it in again. -/
def Act.disposes (device : String) : Act κ → Bool
  | .dispose d | .restart d => d = device
  | .update c => c.identity.device = device
  | _ => false

/-- Whether a call parts a device from its poll task. -/
def Act.parts (h : Hub κ) (device : String) : Act κ → Bool
  | .release d => h.isShutDown && d = device
  | a => a.disposes device

/-- A device that is taken in gets a task that was not there before. -/
theorem current?_enroll (c : DeviceConfig) {n : Nat} (hn : n < h.tasks.length) :
    (h.enroll c).2.current? device = some n ↔ h.current? device = some n := by
  unfold Hub.enroll
  simp only
  split
  · rfl
  · split
    · rfl
    · next hcontains =>
      have hnone : h.current? c.identity.device = none := by
        have hd : h.devices.get? c.identity.device = none := by
          simpa [Dict.contains] using hcontains
        rw [current?, hd]
        rfl
      split
      · rw [current?_accept]
        split
        · next hdevice =>
          rw [← hdevice, hnone, Option.some_inj]
          exact ⟨fun heq => absurd heq (Nat.ne_of_gt hn),
            fun hsome => absurd hsome (Option.some_ne_none n).symm⟩
        · rfl
      · rw [current?_refuse]
        split
        · next hdevice => rw [← hdevice, hnone]
        · rfl

theorem length_tasks_dispose (h : Hub κ) (disposed : String) :
    (h.dispose disposed).2.tasks.length = h.tasks.length := by
  cases hd : h.devices.get? disposed with
  | none => simp [dispose, hd]
  | some entry =>
    rw [dispose_eq hd]
    simp only [cancelEntry]
    split
    · exact List.length_modify ..
    · rfl

theorem current?_refresh (h : Hub κ) (refreshed : String) :
    (h.refresh refreshed).2.current? device = h.current? device := by
  unfold Hub.refresh
  split
  · rfl
  · split <;> rfl

/-- After a call a device has the task that it had, unless the call parts them. -/
theorem current?_call {a : Act κ} (hcall : a.isCall = true) {n : Nat} (hn : n < h.tasks.length) :
    (h.step a).current? device = some n ↔
      h.current? device = some n ∧ a.parts h device = false := by
  have hupdated (disposed : String) (c : DeviceConfig) :
      ((h.dispose disposed).2.enroll c).2.current? device = some n ↔
        h.current? device = some n ∧ decide (disposed = device) = false := by
    rw [current?_enroll c ((length_tasks_dispose h disposed).symm ▸ hn), current?_dispose]
    split
    · next hdevice => simp [hdevice]
    · next hdevice => simp [hdevice]
  cases a with
  | wake | finish | commandDone => cases hcall
  | attach | renew | subscribe | beginShutdown => exact (and_iff_left rfl).symm
  | register fault b =>
    refine Iff.trans ?_ (and_iff_left rfl).symm
    have haside : Aside device h (h.register fault b).2 := aside_register fault b
    rw [Hub.step, current?, haside.entry, current?]
  | enroll c => exact (current?_enroll c hn).trans (and_iff_left rfl).symm
  | dispose d =>
    simp only [Hub.step, current?_dispose, Act.parts, Act.disposes]
    split
    · next hdevice => simp [hdevice]
    · next hdevice => simp [hdevice]
  | restart d =>
    simp only [Hub.step, Hub.restart, Act.parts, Act.disposes]
    split
    · next hd =>
      refine ⟨fun hcurrent => ⟨hcurrent, ?_⟩, And.left⟩
      refine decide_eq_false fun hdevice => ?_
      rw [current?, ← hdevice, hd] at hcurrent
      cases hcurrent
    · next entry hd => exact hupdated d entry.config
  | update c => exact hupdated c.identity.device c
  | refresh d =>
    simp only [Hub.step, current?_refresh]
    exact (and_iff_left rfl).symm
  | release d =>
    simp only [Hub.step, Act.parts]
    split
    · next hs =>
      rw [current?_release, hs, Bool.true_and]
      split
      · next hdevice => simp [hdevice]
      · next hdevice => simp [hdevice]
    · next hs => simp [hs]

/-! ## What is done to others -/

/-- Something happened that is not the device's. -/
structure Untouched (device : String) (h h' : Hub κ) : Prop where
  aside : Aside device h h'
  setting : SameSetting h h'
  clients : h'.clients = h.clients
  told : h'.told device = h.told device

theorem Untouched.refl (device : String) (h : Hub κ) : Untouched device h h :=
  ⟨aside_of_eq rfl rfl rfl rfl, ⟨rfl, rfl⟩, rfl, rfl⟩

theorem Untouched.trans (hu : Untouched device h₁ h₂) (hu' : Untouched device h₂ h₃) :
    Untouched device h₁ h₃ := by
  refine ⟨⟨hu'.aside.entry.trans hu.aside.entry, fun e n t he hn ht => ?_,
    hu'.aside.health.trans hu.aside.health, hu'.aside.store.trans hu.aside.store⟩,
    hu.setting.trans hu'.setting, hu'.clients.trans hu.clients, hu'.told.trans hu.told⟩
  exact hu'.aside.task e n t (hu.aside.entry.trans he) hn (hu.aside.task e n t he hn ht)

theorem Untouched.current? (hu : Untouched device h h') :
    h'.current? device = h.current? device := by
  unfold Hub.current?
  rw [hu.aside.entry]

theorem Untouched.agreeOn (hw : Wired h) (hu : Untouched device h h') : AgreeOn device h h' := by
  have htask : h.ownTask? device = h'.ownTask? device := by
    unfold ownTask?
    rw [hu.current?]
    cases hn : h.current? device with
    | none => rfl
    | some n =>
      obtain ⟨entry, hd, hentry⟩ := Option.bind_eq_some_iff.1 hn
      obtain ⟨t, ht, -⟩ := hw.owns device entry n hd hentry
      rw [Option.bind_some, Option.bind_some, ht, hu.aside.task entry n t hd hentry ht]
  have hconfig : h.config? device = h'.config? device := by
    unfold config?
    rw [hu.aside.entry]
  exact ⟨hu.setting.schemas.symm, hu.clients.symm, hu.setting.isShutDown.symm, hconfig, htask,
    hu.aside.health.symm, hu.aside.store.symm, hu.told.symm⟩

/-- A poll task works for the device that is registered with it. -/
theorem Wired.task?_current? (hw : Wired h) {n : Nat} (hn : h.current? device = some n) :
    ∃ t, h.task? n = some t ∧ t.identity.device = device := by
  obtain ⟨entry, hd, hentry⟩ := Option.bind_eq_some_iff.1 hn
  obtain ⟨t, ht, hid⟩ := hw.owns device entry n hd hentry
  exact ⟨t, ht, by rw [hid, hw.named device entry hd]⟩

/-- Two devices have two poll tasks. -/
theorem Wired.current?_ne (hw : Wired h) {other : String} (hne : other ≠ device) {n : Nat}
    (hn : h.current? other = some n) : h.current? device ≠ some n := by
  intro hown
  obtain ⟨t, ht, hother⟩ := hw.task?_current? hn
  obtain ⟨u, hu, hdevice⟩ := hw.task?_current? hown
  rw [ht] at hu
  cases hu
  exact hne (hother.symm.trans hdevice)

/-- A poll task that is not cancelled is the one that its device is registered with. -/
theorem Wired.current?_of_live (hw : Wired h) {n : Nat} {t : PollTask κ} (ht : h.task? n = some t)
    (hlive : t.poller.isCancelled = false) : h.current? t.identity.device = some n := by
  obtain ⟨-, entry, hd, hn⟩ := hw.serves n t ht hlive
  rw [Hub.current?, hd, Option.bind_some, hn]

theorem untouched_withPoller {n : Nat} (hn : h.current? device ≠ some n) (p : Poller) :
    Untouched device h (h.withPoller n p) := by
  refine ⟨⟨rfl, fun e m t hd hm ht => ?_, rfl, rfl⟩, ⟨rfl, rfl⟩, rfl, rfl⟩
  have hne : n ≠ m := by
    rintro rfl
    exact hn (by rw [Hub.current?, hd, Option.bind_some, hm])
  rw [task?_withPoller, ht, Option.map_some, if_neg hne]

theorem untouched_wake {n : Nat} (hn : h.current? device ≠ some n) (time : Nat) :
    Untouched device h (h.wake n time).2 := by
  unfold Hub.wake
  split
  · exact .refl device h
  · exact untouched_withPoller hn _

theorem untouched_absorb {t : PollTask κ} (hne : t.identity.device ≠ device) (now : Instant)
    (report : Except RequestError Payload) :
    Untouched device h
      (h.absorb t.identity.device (readAnswer t.schema t.identity now report) now) := by
  have hr : ∀ s, readAnswer t.schema t.identity now report = .ok s →
      s.device = t.identity.device := fun s hs => readAnswer_device hs
  obtain ⟨-, events, hj, hothers⟩ := absorb_frame h now hr
  refine ⟨aside_absorb hne now report, sameSetting_absorb .., (keepsClients_absorb h ..).clients, ?_⟩
  exact told_of_others hj fun e he => by rw [hothers e he]; exact hne

/-- The cycle of a task that is not the device's, or is no longer, is none of its. -/
theorem untouched_finish (hw : Wired h) {n : Nat} (hn : h.current? device ≠ some n) (time : Nat)
    (now : Instant) (report : Except RequestError Payload) :
    Untouched device h (h.finish n time now report) := by
  cases ht : h.task? n with
  | none =>
    have hsame : h.finish n time now report = h := by simp [Hub.finish, ht]
    rw [hsame]
    exact .refl device h
  | some t =>
    cases hc : t.poller.isCancelled with
    | true =>
      rw [finish_of_isCancelled ht hc]
      exact untouched_withPoller hn _
    | false =>
      have hne : t.identity.device ≠ device := by
        rintro rfl
        exact hn (hw.current?_of_live ht hc)
      rw [finish_of_live ht hc]
      refine (untouched_absorb hne now report).trans (untouched_withPoller ?_ _)
      simpa only [Hub.current?, absorb_devices] using hn

section

variable {other : String}

/-- What happens when a device is taken in happens to that device. -/
theorem enroll_journal (h : Hub κ) (c : DeviceConfig) :
    ∃ events, (h.enroll c).2.journal = events ++ h.journal ∧
      ∀ e ∈ events, e.device = c.identity.device := by
  unfold Hub.enroll
  simp only
  split
  · exact ⟨[], rfl, by simp⟩
  · split
    · exact ⟨[], rfl, by simp⟩
    · split
      · exact ⟨[.begun c.identity.device], rfl, by simp [Event.device]⟩
      · refine ⟨[.connectivity c.identity.device _ _, .begun c.identity.device], rfl, ?_⟩
        simp [Event.device]

theorem untouched_enroll {c : DeviceConfig} (hne : c.identity.device ≠ device) :
    Untouched device h (h.enroll c).2 := by
  obtain ⟨events, hj, hown⟩ := enroll_journal h c
  have htold : (h.enroll c).2.told device = h.told device :=
    told_of_others hj fun e he => by rwa [hown e he]
  refine ⟨?_, sameSetting_enroll h c, (keepsClients_enroll h c).clients, htold⟩
  unfold Hub.enroll
  simp only
  split
  · exact (Untouched.refl device h).aside
  · split
    · exact (Untouched.refl device h).aside
    · split
      · exact aside_accept _ hne
      · exact aside_refuse _ hne

theorem untouched_dispose (hw : Wired h) (hne : other ≠ device) :
    Untouched device h (h.dispose other).2 := by
  cases hd : h.devices.get? other with
  | none =>
    have hsame : (h.dispose other).2 = h := by simp [Hub.dispose, hd]
    rw [hsame]
    exact .refl device h
  | some entry =>
    refine ⟨aside_dispose hw hd hne, sameSetting_dispose h other,
      (keepsClients_dispose h other).clients, ?_⟩
    rw [dispose_eq hd]
    rfl

theorem untouched_restart (hw : Wired h) (hne : other ≠ device) :
    Untouched device h (h.restart other).2 := by
  unfold Hub.restart
  split
  · exact .refl device h
  · next entry hd =>
    have hnamed : entry.config.identity.device ≠ device := by rwa [hw.named other entry hd]
    exact (untouched_dispose hw hne).trans (untouched_enroll hnamed)

theorem untouched_refresh (hw : Wired h) (hne : other ≠ device) :
    Untouched device h (h.refresh other).2 := by
  unfold Hub.refresh
  split
  · exact .refl device h
  · split
    · exact .refl device h
    · next n t ht => exact untouched_withPoller (hw.current?_ne hne (taskOf?_eq_some_iff.1 ht).1) _

theorem untouched_commandDone (hw : Wired h) (hne : other ≠ device)
    (report : Except RequestError Payload) :
    Untouched device h (h.commandDone other report).2 := by
  cases report with
  | error e => exact .refl device h
  | ok payload => exact untouched_refresh hw hne

/-- A call that does not concern the device leaves it as it is, and so does letting another one go. -/
theorem untouched_call (hw : Wired h) {a : Act κ} (hcall : a.isCall = true)
    (hconcerns : a.concerns device = false) (hkept : a ≠ .release device) :
    Untouched device h (h.step a) := by
  cases a with
  | attach | register | beginShutdown => cases hconcerns
  | renew | subscribe =>
    refine ⟨aside_of_eq rfl rfl rfl ?_, ⟨rfl, rfl⟩, rfl, rfl⟩
    simp [Hub.step, SnapshotStore.get?_subscribe]
  | enroll c => exact untouched_enroll (of_decide_eq_false hconcerns)
  | dispose d => exact untouched_dispose hw (of_decide_eq_false hconcerns)
  | restart d => exact untouched_restart hw (of_decide_eq_false hconcerns)
  | update c =>
    have hne : c.identity.device ≠ device := of_decide_eq_false hconcerns
    exact (untouched_dispose hw hne).trans (untouched_enroll hne)
  | refresh d => exact untouched_refresh hw (of_decide_eq_false hconcerns)
  | release d =>
    have hne : d ≠ device := fun hd => hkept (congrArg Act.release hd)
    simp only [Hub.step]
    split
    · refine ⟨⟨by rw [get?_devices_release, if_neg hne], fun _ _ _ _ _ ht => ht, rfl, rfl⟩,
        ⟨rfl, rfl⟩, rfl, rfl⟩
    · exact .refl device h
  | wake | finish | commandDone => cases hcall

end

end DeviceHub.Hub
