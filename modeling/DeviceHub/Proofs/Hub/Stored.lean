import DeviceHub.Proofs.Hub.Tasks

/-!
# What is stored of a registered device

A snapshot is stored by a task that is in charge of its device, and forgotten when the device is
disposed of. So a snapshot never outlives its device, but for the end of the hub, and always has the
channels of the task that the device has now.

* `Reachable.stored`: that holds whatever happens.
-/
namespace DeviceHub.Hub

variable {κ : Type}

/-- Nothing is stored but of registered devices, until the hub shuts down, and what is stored of a
registered device has the channels of its present task. -/
structure Stored (h : Hub κ) : Prop where
  registered : h.isShutDown = false → ∀ d s, h.store.get? d = some s →
    (h.devices.get? d).isSome = true
  fits : ∀ d e s, h.devices.get? d = some e → h.store.get? d = some s →
    ∃ n t, e.task = some n ∧ h.task? n = some t ∧ s.Fits t.schema

theorem Stored.alike {h h' : Hub κ} (hs : Stored h) (ha : Alike h h') : Stored h' := by
  refine ⟨fun hshut d s hget => ?_, fun d e s he hget => ?_⟩
  · rw [ha.devices]
    exact hs.registered (ha.isShutDown ▸ hshut) d s (ha.store d ▸ hget)
  · obtain ⟨n, t, hn, ht, hfits⟩ := hs.fits d e s (ha.devices ▸ he) (ha.store d ▸ hget)
    obtain ⟨t', ht', hbadge⟩ := ha.task? ht
    have hschema : t'.schema = t.schema := congrArg (fun b => b.2.1) hbadge
    exact ⟨n, t', hn, ht', hschema ▸ hfits⟩

/-- A device that begins has nothing stored. -/
theorem Stored.get?_eq_none {h : Hub κ} (hs : Stored h) (hshut : h.isShutDown = false)
    {device : String} (hd : h.devices.get? device = none) : h.store.get? device = none := by
  cases hget : h.store.get? device with
  | none => rfl
  | some s =>
    have := hs.registered hshut device s hget
    rw [hd] at this
    cases this

/-- A device is taken in; the tasks there were are still there. -/
theorem Stored.begin {h h' : Hub κ} (hs : Stored h) (hshut : h.isShutDown = false)
    {device : String} {entry : DeviceEntry} (hd : h.devices.get? device = none)
    (hdevices : h'.devices = h.devices.insert device entry) (hstore : h'.store = h.store)
    (htasks : ∀ n t, h.task? n = some t → h'.task? n = some t) : Stored h' := by
  refine ⟨fun _ d s hget => ?_, fun d e s he hget => ?_⟩
  · rw [hstore] at hget
    rw [hdevices, Dict.get?_insert]
    split
    · rfl
    · exact hs.registered hshut d s hget
  · rw [hstore] at hget
    rw [hdevices, Dict.get?_insert] at he
    split at he
    · next hdev =>
      rw [← hdev, hs.get?_eq_none hshut hd] at hget
      cases hget
    · obtain ⟨n, t, hn, ht, hfits⟩ := hs.fits d e s he hget
      exact ⟨n, t, hn, htasks n t ht, hfits⟩

theorem Stored.dispose {h : Hub κ} (hs : Stored h) {device : String} {entry : DeviceEntry}
    (hd : h.devices.get? device = some entry) : Stored (h.dispose device).2 := by
  refine ⟨fun hshut d s hget => ?_, fun d e s he hget => ?_⟩
  · rw [dispose_eq hd] at hshut hget
    rw [SnapshotStore.get?_remove] at hget
    rw [get?_devices_dispose hd]
    split at hget
    · cases hget
    · next hne =>
      rw [if_neg hne]
      exact hs.registered hshut d s hget
  · rw [get?_devices_dispose hd] at he
    rw [dispose_eq hd, SnapshotStore.get?_remove] at hget
    split at he
    · cases he
    · next hne =>
      rw [if_neg hne] at hget
      obtain ⟨n, t, hn, ht, hfits⟩ := hs.fits d e s he hget
      refine ⟨n, _, hn, by rw [task?_dispose hd, ht]; rfl, ?_⟩
      split <;> exact hfits

theorem Stored.absorb {h : Hub κ} (hs : Stored h) (hw : Wired h) {n : Nat} {t : PollTask κ}
    {answer : Except RequestError Payload} {now : Instant} (ht : h.task? n = some t)
    (hc : t.poller.isCancelled = false) (ha : answerIsFinite answer = true) :
    Stored (h.absorb t.identity.device (readAnswer t.schema t.identity now answer) now) := by
  obtain ⟨-, entry, hentry, hn⟩ := hw.serves n t ht hc
  cases hr : readAnswer t.schema t.identity now answer with
  | error e =>
    refine ⟨?_, ?_⟩
    · rw [absorb_isShutDown, absorb_store, absorb_devices]
      exact hs.registered
    · rw [absorb_store, absorb_devices]
      simpa [Hub.task?] using hs.fits
  | ok s =>
    have hdev : s.device = t.identity.device := readAnswer_device hr
    refine ⟨fun hshut d s' hget => ?_, fun d e s' he hget => ?_⟩
    · rw [absorb_isShutDown] at hshut
      rw [absorb_store, SnapshotStore.get?_upsert] at hget
      rw [absorb_devices]
      split at hget
      · next hd => rw [← hd, hdev, hentry]; rfl
      · exact hs.registered hshut d s' hget
    · rw [absorb_devices] at he
      rw [absorb_store, SnapshotStore.get?_upsert] at hget
      simp only [Hub.task?, absorb_tasks]
      split at hget
      · next hd =>
        cases hget
        rw [← hd, hdev, hentry] at he
        cases he
        exact ⟨n, t, hn, ht, readAnswer_fits ha hr⟩
      · exact hs.fits d e s' he hget

theorem Stored.beginShutdown {h : Hub κ} (hs : Stored h) : Stored h.beginShutdown := by
  refine ⟨fun hshut => ?_, fun d e s he hget => ?_⟩
  · cases hshut
  · obtain ⟨n, t, hn, ht, hfits⟩ := hs.fits d e s he hget
    exact ⟨n, { t with poller := t.poller.cancel }, hn, by rw [task?_beginShutdown, ht]; rfl, hfits⟩

theorem Stored.release {h : Hub κ} (hs : Stored h) {device : String} (hshut : h.isShutDown = true) :
    Stored (h.release device) := by
  refine ⟨fun hnot => ?_, fun d e s he hget => ?_⟩
  · have hnot : h.isShutDown = false := hnot
    rw [hshut] at hnot
    cases hnot
  · rw [get?_devices_release] at he
    split at he
    · cases he
    · exact hs.fits d e s he hget

theorem Reachable.stored {h : Hub κ} (hr : Reachable h) : Stored h := by
  refine hr.induction (fun schemas => ?_) (fun hr hc hs => ?_)
  · refine ⟨fun _ d s hget => ?_, fun d e s he => ?_⟩
    · cases hget
    · cases he
  · cases hc with
    | alike ha => exact hs.alike ha
    | accept hshut hd =>
      refine hs.begin hshut hd rfl rfl fun n t ht => ?_
      rw [task?_accept, if_neg (Nat.ne_of_lt (task?_lt ht)), ht]
    | refuse hshut hd => exact hs.begin hshut hd rfl rfl fun _ _ ht => ht
    | dispose hd => exact hs.dispose hd
    | absorb ht hc ha => exact hs.absorb hr.wired ht hc ha
    | beginShutdown => exact hs.beginShutdown
    | release hshut => exact hs.release hshut

end DeviceHub.Hub
