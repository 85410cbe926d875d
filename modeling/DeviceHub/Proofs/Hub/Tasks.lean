import DeviceHub.Proofs.Hub.Run
import DeviceHub.Proofs.Places

/-!
# Which poll task may write

A device that comes back gets a new poll task while a request of its old one may still be under way.
Both share the snapshots, the health and the listeners, and nothing but its cancellation keeps the old
one from writing to them. `Wired` ties the two tables together: a registered device knows its task,
and a task that is not cancelled is the one that its device is registered with.

* `Reachable.wired`: that holds whatever happens.
* `Changes.isCancelled`: a cancelled task stays cancelled.
* `writes_only_in_charge`: what a cycle writes comes from the task in charge of its device and
  concerns that device alone; nothing that was under way when its device was disposed of, restarted or
  updated, or when the hub was shut down, is ever written.
-/
namespace DeviceHub.Hub

variable {κ : Type}

/-! ## Places in the list of tasks -/

theorem task?_cancelTask (h : Hub κ) (n m : Nat) :
    (h.cancelTask n).task? m =
      (h.task? m).map fun t => if n = m then { t with poller := t.poller.cancel } else t := by
  simp only [task?, cancelTask, List.getElem?_modify, Option.map_eq_map]

theorem task?_beginShutdown (h : Hub κ) (n : Nat) :
    h.beginShutdown.task? n = (h.task? n).map fun t => { t with poller := t.poller.cancel } := by
  simp only [task?, beginShutdown, List.getElem?_map]

theorem task?_accept (h : Hub κ) (d : DeviceConfig) (t : PollTask κ) (n : Nat) :
    (h.accept d t).task? n = if n = h.tasks.length then some t else h.task? n :=
  getElem?_concat ..

theorem task?_lt {h : Hub κ} {n : Nat} {t : PollTask κ} (ht : h.task? n = some t) :
    n < h.tasks.length := (List.getElem?_eq_some_iff.1 ht).1

theorem Alike.task? {h h' : Hub κ} (ha : Alike h h') {n : Nat} {t : PollTask κ}
    (ht : h.task? n = some t) : ∃ t', h'.task? n = some t' ∧ t'.badge = t.badge := by
  have hn := ha.tasks n
  rw [ht] at hn
  exact Option.map_eq_some_iff.1 hn

theorem Alike.symm {h h' : Hub κ} (ha : Alike h h') : Alike h' h :=
  ⟨ha.devices.symm, fun n => (ha.tasks n).symm, fun d => (ha.store d).symm, ha.health.symm,
    ha.journal.symm, ha.isShutDown.symm⟩

/-- Disposing of a device cancels its task, if it has one, and touches no other. -/
theorem task?_dispose {h : Hub κ} {device : String} {entry : DeviceEntry}
    (hd : h.devices.get? device = some entry) (n : Nat) :
    (h.dispose device).2.task? n = (h.task? n).map fun t =>
      if entry.task = some n then { t with poller := t.poller.cancel } else t := by
  simp only [dispose, hd, cancelEntry]
  cases he : entry.task with
  | none => simp [Hub.task?]
  | some m =>
    show (h.cancelTask m).task? n = _
    simp only [task?_cancelTask, Option.some.injEq]

theorem get?_devices_accept (h : Hub κ) (d : DeviceConfig) (t : PollTask κ) (device : String) :
    (h.accept d t).devices.get? device =
      if d.identity.device = device then some ⟨d, some h.tasks.length⟩ else h.devices.get? device :=
  Dict.get?_insert ..

theorem get?_devices_refuse (h : Hub κ) (d : DeviceConfig) (e : HubError) (device : String) :
    (h.refuse d e).devices.get? device =
      if d.identity.device = device then some ⟨d, none⟩ else h.devices.get? device :=
  Dict.get?_insert ..

theorem get?_devices_release (h : Hub κ) (released device : String) :
    (h.release released).devices.get? device =
      if released = device then none else h.devices.get? device :=
  Dict.get?_erase ..

/-- Disposing of a registered device touches its entry, its task, and what it reported. -/
theorem dispose_eq {h : Hub κ} {device : String} {entry : DeviceEntry}
    (hd : h.devices.get? device = some entry) :
    (h.dispose device).2 =
      { h with
        tasks := (h.cancelEntry entry).tasks
        devices := h.devices.erase device
        store := h.store.remove device
        health := h.health.remove device } := by
  simp only [dispose, hd, cancelEntry]
  split <;> rfl

theorem get?_devices_dispose {h : Hub κ} {disposed : String} {entry : DeviceEntry}
    (hd : h.devices.get? disposed = some entry) (device : String) :
    (h.dispose disposed).2.devices.get? device =
      if disposed = device then none else h.devices.get? device := by
  rw [dispose_eq hd, Dict.get?_erase]

/-- A poll task begins with what the bridge and the type of its device are known to be. -/
theorem prepare_eq_ok {h : Hub κ} {d : DeviceConfig} {t : PollTask κ}
    (ht : h.prepare d = .ok t) : ∃ interval client schema,
      h.clients.get? d.identity.bridge = some client ∧
      h.schemas.get? d.identity.deviceType = some schema ∧
      t = ⟨d.identity, d.request, client, schema, .start interval⟩ := by
  simp only [prepare, bind, Except.bind] at ht
  split at ht
  · cases ht
  · split at ht
    · cases ht
    · next hresolve =>
      cases ht
      unfold resolve at hresolve
      split at hresolve
      · cases hresolve
      · next client hclient =>
        split at hresolve
        · cases hresolve
        · next schema hschema =>
          cases hresolve
          exact ⟨_, client, schema, hclient, hschema, rfl⟩

/-! ## Cancellation is for good -/

def IsCancelled (h : Hub κ) (n : Nat) : Prop :=
  ∃ t, h.task? n = some t ∧ t.poller.isCancelled = true

theorem Change.isCancelled {h h' : Hub κ} (hc : Change h h') {n : Nat} (hn : IsCancelled h n) :
    IsCancelled h' n := by
  obtain ⟨t, ht, hcancelled⟩ := hn
  cases hc with
  | alike ha =>
    obtain ⟨t', ht', hbadge⟩ := ha.task? ht
    have hbadge := congrArg (fun b => b.2.2) hbadge
    exact ⟨t', ht', hbadge.trans hcancelled⟩
  | accept =>
    refine ⟨t, ?_, hcancelled⟩
    rw [task?_accept, if_neg (Nat.ne_of_lt (task?_lt ht)), ht]
  | refuse => exact ⟨t, ht, hcancelled⟩
  | dispose hd =>
    rw [IsCancelled]
    rw [task?_dispose hd, ht]
    refine ⟨_, rfl, ?_⟩
    split
    · rfl
    · exact hcancelled
  | absorb => exact ⟨t, by simpa [Hub.task?] using ht, hcancelled⟩
  | beginShutdown => exact ⟨_, by rw [task?_beginShutdown, ht]; rfl, rfl⟩
  | release => exact ⟨t, ht, hcancelled⟩

theorem Changes.isCancelled {h h' : Hub κ} (hc : Changes h h') {n : Nat}
    (hn : IsCancelled h n) : IsCancelled h' n := by
  induction hc with
  | refl => exact hn
  | tail _ hc ih => exact hc.isCancelled ih

/-! ## The two tables -/

/-- A task is in charge of its device: the device is registered with it, and it is not cancelled. -/
def InCharge (h : Hub κ) (n : Nat) : Prop :=
  ∃ t entry, h.task? n = some t ∧ t.poller.isCancelled = false ∧
    h.devices.get? t.identity.device = some entry ∧ entry.task = some n

/-- The registered devices and the tasks that are not cancelled belong together. -/
structure Wired (h : Hub κ) : Prop where
  /-- A device is registered under its own id. -/
  named : ∀ d e, h.devices.get? d = some e → e.config.identity.device = d
  /-- The task of a registered device exists and asks for that device. -/
  owns : ∀ d e n, h.devices.get? d = some e → e.task = some n →
    ∃ t, h.task? n = some t ∧ t.identity = e.config.identity
  /-- A task is cancelled unless its device is registered with it. -/
  serves : ∀ n t, h.task? n = some t → t.poller.isCancelled = false →
    h.isShutDown = false ∧ ∃ e, h.devices.get? t.identity.device = some e ∧ e.task = some n

theorem Wired.alike {h h' : Hub κ} (hw : Wired h) (ha : Alike h h') : Wired h' := by
  refine ⟨fun d e he => hw.named d e (ha.devices ▸ he), fun d e n he hn => ?_, fun n t ht hc => ?_⟩
  · obtain ⟨t, ht, hid⟩ := hw.owns d e n (ha.devices ▸ he) hn
    obtain ⟨t', ht', hbadge⟩ := ha.task? ht
    have hbadge := congrArg Prod.fst hbadge
    exact ⟨t', ht', hbadge.trans hid⟩
  · obtain ⟨t', ht', hbadge⟩ := ha.symm.task? ht
    have hid : t'.identity = t.identity := congrArg Prod.fst hbadge
    have hc' : t'.poller.isCancelled = t.poller.isCancelled := congrArg (fun b => b.2.2) hbadge
    obtain ⟨hs, e, he, hn⟩ := hw.serves n t' ht' (hc'.trans hc)
    exact ⟨ha.isShutDown.trans hs, e, by rw [ha.devices, ← hid]; exact he, hn⟩

/-- A device is taken in that was not registered, with a task of its own or with none. -/
theorem Wired.begin {h h' : Hub κ} (hw : Wired h) {d : DeviceConfig} {task : Option Nat}
    (hs : h'.isShutDown = false) (hd : h.devices.get? d.identity.device = none)
    (hdevices : ∀ x, h'.devices.get? x =
      if d.identity.device = x then some ⟨d, task⟩ else h.devices.get? x)
    (hold : ∀ n t, h.task? n = some t → h'.task? n = some t)
    (hown : ∀ n, task = some n → ∃ t, h'.task? n = some t ∧ t.identity = d.identity)
    (hall : ∀ n t, h'.task? n = some t →
      h.task? n = some t ∨ (task = some n ∧ t.identity = d.identity)) : Wired h' := by
  refine ⟨fun x e he => ?_, fun x e n he hn => ?_, fun n t ht hc => ⟨hs, ?_⟩⟩
  · rw [hdevices] at he
    split at he
    · next hx => cases he; exact hx
    · exact hw.named x e he
  · rw [hdevices] at he
    split at he
    · cases he; exact hown n hn
    · obtain ⟨t, ht, hid⟩ := hw.owns x e n he hn
      exact ⟨t, hold n t ht, hid⟩
  · rw [hdevices]
    rcases hall n t ht with ht | ⟨hn, hid⟩
    · obtain ⟨-, e, he, hn⟩ := hw.serves n t ht hc
      -- the new device had no entry, so it is not the one of this task
      have hne : d.identity.device ≠ t.identity.device := by
        rintro heq
        rw [← heq, hd] at he
        cases he
      exact ⟨e, by rw [if_neg hne, he], hn⟩
    · exact ⟨⟨d, task⟩, by rw [hid, if_pos rfl], hn⟩

theorem Wired.accept {h : Hub κ} (hw : Wired h) {d : DeviceConfig} {t : PollTask κ}
    (hs : h.isShutDown = false) (hd : h.devices.get? d.identity.device = none)
    (ht : t.identity = d.identity) : Wired (h.accept d t) := by
  refine hw.begin hs hd (get?_devices_accept h d t) (fun n u hu => ?_) (fun n hn => ?_)
    fun n u hu => ?_
  · rw [task?_accept, if_neg (Nat.ne_of_lt (task?_lt hu)), hu]
  · cases hn
    exact ⟨t, by rw [task?_accept, if_pos rfl], ht⟩
  · rw [task?_accept] at hu
    split at hu
    · next hn =>
      cases hu
      exact .inr ⟨by rw [hn], ht⟩
    · exact .inl hu

theorem Wired.refuse {h : Hub κ} (hw : Wired h) {d : DeviceConfig} {e : HubError}
    (hs : h.isShutDown = false) (hd : h.devices.get? d.identity.device = none) :
    Wired (h.refuse d e) := by
  refine hw.begin hs hd (get?_devices_refuse h d e) (fun _ _ hu => hu) (fun n hn => ?_)
    fun _ _ hu => .inl hu
  cases hn

theorem Wired.dispose {h : Hub κ} (hw : Wired h) {device : String} {entry : DeviceEntry}
    (hd : h.devices.get? device = some entry) : Wired (h.dispose device).2 := by
  refine ⟨fun x e he => ?_, fun x e n he hn => ?_, fun n u hu hc => ?_⟩
  · rw [get?_devices_dispose hd] at he
    split at he
    · cases he
    · exact hw.named x e he
  · rw [get?_devices_dispose hd] at he
    split at he
    · cases he
    · obtain ⟨t, ht, hid⟩ := hw.owns x e n he hn
      rw [task?_dispose hd, ht]
      refine ⟨_, rfl, ?_⟩
      split <;> exact hid
  · rw [task?_dispose hd] at hu
    obtain ⟨t, ht, rfl⟩ := Option.map_eq_some_iff.1 hu
    split at hc
    · cases hc
    · next hne =>
      obtain ⟨hs, e, he, hn⟩ := hw.serves n t ht hc
      rw [if_neg hne, get?_devices_dispose hd, dispose_eq hd]
      -- were it the task of the device disposed of, it would have been cancelled just now
      have hx : device ≠ t.identity.device := by
        rintro rfl
        rw [hd] at he
        cases he
        exact hne hn
      exact ⟨hs, e, by rw [if_neg hx, he], hn⟩

theorem Wired.beginShutdown {h : Hub κ} (hw : Wired h) : Wired h.beginShutdown := by
  refine ⟨hw.named, fun x e n he hn => ?_, fun n u hu hc => ?_⟩
  · obtain ⟨t, ht, hid⟩ := hw.owns x e n he hn
    exact ⟨{ t with poller := t.poller.cancel }, by rw [task?_beginShutdown, ht]; rfl, hid⟩
  · rw [task?_beginShutdown] at hu
    obtain ⟨t, -, rfl⟩ := Option.map_eq_some_iff.1 hu
    cases hc

theorem Wired.release {h : Hub κ} (hw : Wired h) {device : String} (hs : h.isShutDown = true) :
    Wired (h.release device) := by
  refine ⟨fun x e he => ?_, fun x e n he hn => ?_, fun n u hu hc => ?_⟩
  · rw [get?_devices_release] at he
    split at he
    · cases he
    · exact hw.named x e he
  · rw [get?_devices_release] at he
    split at he
    · cases he
    · exact hw.owns x e n he hn
  · have := (hw.serves n u hu hc).1
    rw [hs] at this
    cases this

theorem Reachable.wired {h : Hub κ} (hr : Reachable h) : Wired h := by
  refine hr.induction (fun schemas => ?_) (fun _ hc hw => ?_)
  · refine ⟨fun x e he => ?_, fun x e n he hn => ?_, fun n t ht hc => ?_⟩
    · cases he
    · cases he
    · cases ht
  · cases hc with
    | alike ha => exact hw.alike ha
    | accept hs hd ht =>
      obtain ⟨interval, client, schema, -, -, rfl⟩ := prepare_eq_ok ht
      exact hw.accept hs hd rfl
    | refuse hs hd => exact hw.refuse hs hd
    | dispose hd => exact hw.dispose hd
    | absorb =>
      exact ⟨by simpa using hw.named, by simpa [Hub.task?] using hw.owns,
        by simpa [Hub.task?] using hw.serves⟩
    | beginShutdown => exact hw.beginShutdown
    | release hs => exact hw.release hs

/-! ## What a cycle writes -/

/-- Whether something is kept or told in one hub that is not so in another. -/
def Writes (h h' : Hub κ) : Prop :=
  h'.store ≠ h.store ∨ h'.health ≠ h.health ∨ h'.journal ≠ h.journal

/-- The acts after which nothing counts any more that was under way for a device. -/
def Act.endsWork (device : String) : Act κ → Prop
  | .dispose d | .restart d => d = device
  | .update c => c.identity.device = device
  | .beginShutdown => True
  | _ => False

/-- What the end of a cycle can do: it writes nothing, or a task that is not cancelled commits. -/
theorem step_finish (h : Hub κ) (n time : Nat) (now : Instant)
    (answer : Except RequestError Payload) :
    let h' := h.step (.finish n time now answer)
    (h'.store = h.store ∧ h'.health = h.health ∧ h'.journal = h.journal) ∨
    ∃ t p, h.task? n = some t ∧ t.poller.isCancelled = false ∧ answerIsFinite answer = true ∧
      h' = (h.absorb t.identity.device (readAnswer t.schema t.identity now answer) now).withPoller
        n p := by
  simp only [step]
  split
  · next hcan =>
    rw [Bool.and_eq_true] at hcan
    cases ht : h.task? n with
    | none => simp [isCycling, ht] at hcan
    | some t =>
      obtain ⟨p, -, heq⟩ := finish_eq ht time now answer
      rw [heq]
      cases hc : t.poller.isCancelled with
      | true => exact .inl ⟨rfl, rfl, rfl⟩
      | false => exact .inr ⟨t, p, rfl, hc, hcan.2, rfl⟩
  · exact .inl ⟨rfl, rfl, rfl⟩

theorem not_writes_of_isCancelled {h : Hub κ} {n : Nat} (hn : IsCancelled h n) (time : Nat)
    (now : Instant) (answer : Except RequestError Payload) :
    ¬Writes h (h.step (.finish n time now answer)) := by
  obtain ⟨t, ht, hc⟩ := hn
  rcases step_finish h n time now answer with ⟨hs, hh, hj⟩ | ⟨u, p, hu, hcu, -⟩
  · rintro (hw | hw | hw)
    · exact hw hs
    · exact hw hh
    · exact hw hj
  · rw [ht] at hu
    cases hu
    rw [hc] at hcu
    cases hcu

theorem inCharge_of_writes {h : Hub κ} (hw : Wired h) {n time : Nat} {now : Instant}
    {answer : Except RequestError Payload}
    (hwrites : Writes h (h.step (.finish n time now answer))) : InCharge h n := by
  rcases step_finish h n time now answer with ⟨hs, hh, hj⟩ | ⟨t, p, ht, hc, -⟩
  · rcases hwrites with hx | hx | hx
    · exact absurd hs hx
    · exact absurd hh hx
    · exact absurd hj hx
  · obtain ⟨-, e, he, hn⟩ := hw.serves n t ht hc
    exact ⟨t, e, ht, hc, he, hn⟩

/-- A task of the device is cancelled by disposing of the device, whether it is in charge or not. -/
theorem isCancelled_dispose {h : Hub κ} (hw : Wired h) {n : Nat} {t : PollTask κ}
    (ht : h.task? n = some t) : IsCancelled (h.dispose t.identity.device).2 n := by
  cases hc : t.poller.isCancelled with
  | true => exact (changes_dispose h _).isCancelled ⟨t, ht, hc⟩
  | false =>
    obtain ⟨-, e, he, hn⟩ := hw.serves n t ht hc
    refine ⟨{ t with poller := t.poller.cancel }, ?_, rfl⟩
    rw [task?_dispose he, ht]
    simp [hn]

theorem isCancelled_of_endsWork {h : Hub κ} (hw : Wired h) {n : Nat} {t : PollTask κ}
    (ht : h.task? n = some t) {a : Act κ} (ha : a.endsWork t.identity.device) :
    IsCancelled (h.step a) n := by
  cases a with
  | dispose d => cases ha; exact isCancelled_dispose hw ht
  | restart d =>
    cases ha
    have hd := isCancelled_dispose hw ht
    simp only [step, restart]
    split
    · next hnone => simpa only [dispose, hnone] using hd
    · exact (changes_enroll _ _).isCancelled hd
  | update c =>
    have hd := isCancelled_dispose hw ht
    rw [show t.identity.device = c.identity.device from ha.symm] at hd
    exact (changes_enroll _ _).isCancelled hd
  | beginShutdown =>
    exact ⟨{ t with poller := t.poller.cancel }, by simp [step, task?_beginShutdown, ht], rfl⟩
  | _ => exact ha.elim

/-- The result of a cycle concerns no device but its own. -/
theorem absorb_frame (h : Hub κ) {device : String} {r : Except HubError Snapshot} (now : Instant)
    (hr : ∀ s, r = .ok s → s.device = device) :
    (∀ d, d ≠ device → (h.absorb device r now).store.get? d = h.store.get? d ∧
      Dict.get? (h.absorb device r now).health d = Dict.get? h.health d) ∧
    ∃ told, (h.absorb device r now).journal = told ++ h.journal ∧
      ∀ e ∈ told, Event.device e = device := by
  refine ⟨fun d hd => ⟨?_, ?_⟩, ?_⟩
  · rw [absorb_store]
    cases r with
    | error e => rfl
    | ok s => rw [SnapshotStore.get?_upsert, if_neg (by rw [hr s rfl]; exact hd.symm)]
  · rw [absorb_health, HealthTracker.get?_apply_other _ _ hd.symm]
  · rw [absorb_journal, ← List.append_assoc]
    refine ⟨_, rfl, fun e he => ?_⟩
    rcases List.mem_append.1 he with he | he
    · unfold connectivityNews at he
      split at he
      · rw [List.mem_singleton.1 he]; rfl
      · cases he
    · cases r with
      | error e' => cases he
      | ok s =>
        obtain ⟨x, -, rfl⟩ := List.mem_map.1 (List.mem_reverse.1 he)
        exact hr s rfl

theorem finish_frame (h : Hub κ) {n : Nat} {t : PollTask κ} (ht : h.task? n = some t) (time : Nat)
    (now : Instant) (answer : Except RequestError Payload) :
    let h' := h.step (.finish n time now answer)
    (∀ d, d ≠ t.identity.device →
      h'.store.get? d = h.store.get? d ∧ Dict.get? h'.health d = Dict.get? h.health d) ∧
    ∃ told, h'.journal = told ++ h.journal ∧ ∀ e ∈ told, Event.device e = t.identity.device := by
  rcases step_finish h n time now answer with ⟨hs, hh, hj⟩ | ⟨u, p, hu, -, -, heq⟩
  · exact ⟨fun d _ => ⟨by rw [hs], by rw [hh]⟩, [], hj, by simp⟩
  · rw [ht] at hu
    cases hu
    simp only [heq]
    exact absorb_frame h now fun s hs => readAnswer_device hs

/-- Whatever happens, what the end of a cycle writes comes from the task in charge of its device and
concerns that device alone. At any time a device has one task at most that is not cancelled, and only
if it is registered. A cycle of a task that existed when its device was disposed of, restarted or
updated, or when the hub began to shut down, writes nothing when it ends afterwards, whatever happened
in between. -/
theorem writes_only_in_charge (schemas : SchemaRegistry) (acts : List (Act κ)) :
    let h := run (.new schemas) acts
    (∀ n time now answer, Writes h (h.step (.finish n time now answer)) → InCharge h n) ∧
    (∀ n t time now answer, h.task? n = some t →
      let h' := h.step (.finish n time now answer)
      (∀ d, d ≠ t.identity.device →
        h'.store.get? d = h.store.get? d ∧ Dict.get? h'.health d = Dict.get? h.health d) ∧
      ∃ told, h'.journal = told ++ h.journal ∧ ∀ e ∈ told, Event.device e = t.identity.device) ∧
    (∀ n t, h.task? n = some t → t.poller.isCancelled = false → InCharge h n) ∧
    (∀ m n t u, h.task? m = some t → h.task? n = some u → t.poller.isCancelled = false →
      u.poller.isCancelled = false → t.identity.device = u.identity.device → m = n) ∧
    (∀ n t a later time now answer, h.task? n = some t → Act.endsWork t.identity.device a →
      let h' := run (h.step a) later
      ¬Writes h' (h'.step (.finish n time now answer))) := by
  intro h
  have hw : Wired h := (reachable_run schemas acts).wired
  refine ⟨fun n time now answer => inCharge_of_writes hw,
    fun n t time now answer ht => finish_frame h ht time now answer,
    fun n t ht hc => ?_, fun m n t u ht hu hct hcu hdev => ?_,
    fun n t a later time now answer ht ha => ?_⟩
  · obtain ⟨-, e, he, hn⟩ := hw.serves n t ht hc
    exact ⟨t, e, ht, hc, he, hn⟩
  · obtain ⟨-, e, he, hm⟩ := hw.serves m t ht hct
    obtain ⟨-, e', he', hn⟩ := hw.serves n u hu hcu
    rw [hdev, he'] at he
    cases he
    exact Option.some.inj (hm.symm.trans hn)
  · have hcancelled : IsCancelled (h.step a) n := isCancelled_of_endsWork hw ht ha
    exact not_writes_of_isCancelled ((changes_run _ later).isCancelled hcancelled) time now answer

/-- The plug is restarted while it is asked. Its old task ends its cycle for nothing, the new one
writes. -/
theorem writes_only_in_charge_restarted :
    let h := run (.new [("plug", plugSchema)]) plugIsAsked
    let h' := run (h.step (.restart "p1")) [.wake 1 0]
    h.isCycling 0 = true ∧ h'.isCycling 0 = true ∧
      ¬Writes h' (h'.step (.finish 0 5 .epoch (plugSays true))) ∧
      Writes h' (h'.step (.finish 1 5 .epoch (plugSays true))) := by
  intro h h'
  have htask : (h.task? 0).map (·.identity.device) = some "p1" := by decide +kernel
  obtain ⟨t, ht, hdevice⟩ := Option.map_eq_some_iff.1 htask
  refine ⟨by decide +kernel, by decide +kernel, ?_, ?_⟩
  · obtain ⟨-, -, -, -, hends⟩ := writes_only_in_charge [("plug", plugSchema)] plugIsAsked
    exact hends 0 t (.restart "p1") [.wake 1 0] 5 .epoch (plugSays true) ht hdevice.symm
  · have hlength :
        (h'.step (.finish 1 5 .epoch (plugSays true))).journal.length ≠ h'.journal.length := by
      decide +kernel
    exact .inr (.inr fun heq => hlength (congrArg List.length heq))

end DeviceHub.Hub
