import DeviceHub.Proofs.Hub.Tasks

/-!
# The life of a device

The journal of a hub is about all devices and goes back to the start. The history of a device is the
part that still counts for it: what happened to it since it last began. It is empty when a device
begins, grows by what the cycles of the device tell, and takes no notice of other devices.

What is to be shown of a registered device, whatever happens, has therefore few cases. It is shown
of a device that begins, of one that is refused, and of a cycle of the device itself; all else leaves
the device as it is. `Reachable.lifetime` is the induction that says so.

* `history_absorb`: the result of a cycle adds the channels that are new, then the connectivity.
* `Reachable.lifetime`: induction over the life of a registered device.
-/
namespace DeviceHub.Hub

variable {κ : Type}

/-! ## Histories -/

/-- What happened to a device since it last began, the earliest first. -/
def history (h : Hub κ) (device : String) : List Event :=
  ((h.journal.takeWhile (· ≠ .begun device)).filter fun e => e.device = device).reverse

theorem history_congr {h h' : Hub κ} (hj : h'.journal = h.journal) (device : String) :
    h'.history device = h.history device := by
  unfold history
  rw [hj]

/-- Events of other devices do not count. -/
theorem history_of_others {h h' : Hub κ} {device : String} {told : List Event}
    (hj : h'.journal = told ++ h.journal) (ht : ∀ e ∈ told, e.device ≠ device) :
    h'.history device = h.history device := by
  have hbegun : ∀ e ∈ told, decide (e ≠ .begun device) = true := by
    intro e he
    have hne : e ≠ .begun device := fun heq => ht e he (heq ▸ rfl)
    simpa using hne
  have hnone : told.filter (fun e => e.device = device) = [] := by
    rw [List.filter_eq_nil_iff]
    intro e he
    simpa using ht e he
  unfold history
  rw [hj, List.takeWhile_append_of_pos hbegun, List.filter_append, hnone, List.nil_append]

/-- What is told of a device comes at the end of its history. -/
theorem history_of_own {h h' : Hub κ} {device : String} {told : List Event}
    (hj : h'.journal = told.reverse ++ h.journal) (ht : ∀ e ∈ told, e.device = device)
    (hb : .begun device ∉ told) : h'.history device = h.history device ++ told := by
  have hbegun : ∀ e ∈ told.reverse, decide (e ≠ .begun device) = true := by
    intro e he
    have hne : e ≠ .begun device := fun heq => hb (heq ▸ List.mem_reverse.1 he)
    simpa using hne
  have hall : told.reverse.filter (fun e => e.device = device) = told.reverse := by
    rw [List.filter_eq_self]
    intro e he
    simpa using ht e (List.mem_reverse.1 he)
  unfold history
  rw [hj, List.takeWhile_append_of_pos hbegun, List.filter_append, hall, List.reverse_append,
    List.reverse_reverse]

/-- What came before a device began does not count. -/
theorem history_of_begun {h : Hub κ} {device : String} {earlier : List Event}
    (hj : h.journal = .begun device :: earlier) : h.history device = [] := by
  unfold history
  rw [hj]
  simp

theorem history_accept (h : Hub κ) (d : DeviceConfig) (t : PollTask κ) :
    (h.accept d t).history d.identity.device = [] := history_of_begun rfl

/-- Of a device that was refused it is told why it is not polled. -/
theorem history_refuse (h : Hub κ) (d : DeviceConfig) (e : HubError) :
    (h.refuse d e).history d.identity.device =
      [.connectivity d.identity.device .configError (some e.message)] := by
  have hbegun : (h.withDevice d none).history d.identity.device = [] := history_of_begun rfl
  have hj : (h.refuse d e).journal =
      [.connectivity d.identity.device .configError (some e.message)].reverse ++
        (h.withDevice d none).journal := rfl
  rw [history_of_own hj (by simp [Event.device]) (by simp), hbegun, List.nil_append]

theorem news_device {h : Hub κ} {device : String} {r : Except HubError Snapshot}
    (hr : ∀ s, r = .ok s → s.device = device) :
    ∀ e ∈ h.news r, e.device = device ∧ e ≠ .begun device := by
  intro e he
  cases r with
  | error => cases he
  | ok s =>
    obtain ⟨x, -, rfl⟩ := List.mem_map.1 he
    exact ⟨hr s rfl, by simp⟩

theorem connectivityNews_device (device : String) (t : Transition) :
    ∀ e ∈ connectivityNews device t, e.device = device ∧ e ≠ .begun device := by
  intro e he
  unfold connectivityNews at he
  split at he
  · rw [List.mem_singleton.1 he]
    exact ⟨rfl, by simp⟩
  · cases he

theorem reverse_connectivityNews (device : String) (t : Transition) :
    (connectivityNews device t).reverse = connectivityNews device t := by
  unfold connectivityNews
  split <;> rfl

theorem history_absorb (h : Hub κ) {device : String} {r : Except HubError Snapshot} (now : Instant)
    (hr : ∀ s, r = .ok s → s.device = device) :
    (h.absorb device r now).history device =
      h.history device ++
        (h.news r ++ connectivityNews device (h.health.transition device (.ofResult now r))) := by
  have htold : ∀ e ∈ h.news r ++
      connectivityNews device (h.health.transition device (.ofResult now r)),
      e.device = device ∧ e ≠ .begun device := by
    intro e he
    rcases List.mem_append.1 he with he | he
    · exact news_device hr e he
    · exact connectivityNews_device device _ e he
  refine history_of_own ?_ (fun e he => (htold e he).1) fun hb => (htold _ hb).2 rfl
  rw [absorb_journal, List.reverse_append, reverse_connectivityNews, List.append_assoc]

/-! ## Lives -/

/-- Nothing has happened to a device, whatever has to others. -/
structure SameFor (device : String) (h h' : Hub κ) : Prop where
  history : h'.history device = h.history device
  store : h'.store.get? device = h.store.get? device
  health : Dict.get? h'.health device = Dict.get? h.health device

theorem sameFor_of_told {h h' : Hub κ} {device : String} (told : List Event)
    (hj : h'.journal = told ++ h.journal) (ht : ∀ e ∈ told, e.device ≠ device)
    (hs : h'.store.get? device = h.store.get? device)
    (hh : Dict.get? h'.health device = Dict.get? h.health device) : SameFor device h h' :=
  ⟨history_of_others hj ht, hs, hh⟩

theorem get?_health_refuse (h : Hub κ) (d : DeviceConfig) (e : HubError) (device : String) :
    Dict.get? (h.refuse d e).health device =
      if d.identity.device = device then
        some ((HealthOutcome.configError e.message).health .initial)
      else Dict.get? h.health device := by
  show Dict.get? ((h.health.reset _).apply _ (.configError e.message)) device = _
  split
  · next hdev =>
    have hreset := h.health.get?_reset d.identity.device d.identity.device
    rw [if_pos rfl] at hreset
    rw [← hdev, HealthTracker.get?_apply, HealthTracker.transition_health hreset]
  · next hdev =>
    rw [HealthTracker.get?_apply_other _ _ hdev, HealthTracker.get?_reset, if_neg hdev]

theorem sameFor_accept (h : Hub κ) {d : DeviceConfig} (t : PollTask κ) {device : String}
    (hne : d.identity.device ≠ device) : SameFor device h (h.accept d t) := by
  refine sameFor_of_told [_] rfl (by simpa [Event.device] using hne) rfl ?_
  exact (h.health.get?_reset _ device).trans (if_neg hne)

theorem sameFor_refuse (h : Hub κ) {d : DeviceConfig} (e : HubError) {device : String}
    (hne : d.identity.device ≠ device) : SameFor device h (h.refuse d e) := by
  refine sameFor_of_told [_, _] rfl (by simpa [Event.device] using hne) rfl ?_
  rw [get?_health_refuse, if_neg hne]

theorem sameFor_dispose {h : Hub κ} {disposed device : String} {entry : DeviceEntry}
    (hd : h.devices.get? disposed = some entry) (hne : disposed ≠ device) :
    SameFor device h (h.dispose disposed).2 := by
  rw [dispose_eq hd]
  refine sameFor_of_told [] rfl (by simp) ?_ ?_
  · rw [SnapshotStore.get?_remove, if_neg hne]
  · rw [HealthTracker.get?_remove, if_neg hne]

theorem sameFor_absorb (h : Hub κ) {d device : String} {r : Except HubError Snapshot} (now : Instant)
    (hr : ∀ s, r = .ok s → s.device = d) (hne : d ≠ device) :
    SameFor device h (h.absorb d r now) := by
  obtain ⟨hothers, told, hj, ht⟩ := absorb_frame h now hr
  obtain ⟨hs, hh⟩ := hothers device hne.symm
  exact sameFor_of_told told hj (fun e he => by rw [ht e he]; exact hne) hs hh

/-- Induction over the life of a registered device: it begins, or is refused, its cycles end, and
everything else leaves it as it is. -/
theorem Reachable.lifetime {device : String} {P : Hub κ → Prop}
    (same : ∀ {h h'}, SameFor device h h' → P h → P h')
    (accept : ∀ {h d t}, Reachable h → h.isShutDown = false → h.devices.get? device = none →
      h.prepare d = .ok t → d.identity.device = device → P (h.accept d t))
    (refuse : ∀ {h d e}, Reachable h → h.isShutDown = false → h.devices.get? device = none →
      h.prepare d = .error e → d.identity.device = device → P (h.refuse d e))
    (absorb : ∀ {h n t answer now}, Reachable h → h.task? n = some t →
      t.poller.isCancelled = false → t.identity.device = device → answerIsFinite answer = true →
      P h → P (h.absorb device (readAnswer t.schema t.identity now answer) now))
    {h : Hub κ} (hr : Reachable h) (hd : (h.devices.get? device).isSome = true) : P h := by
  revert hd
  refine hr.induction (P := fun h => (h.devices.get? device).isSome = true → P h)
    (fun schemas hd => ?_) (fun hr hc ih hd => ?_)
  · cases hd
  · cases hc with
    | alike ha =>
      rw [ha.devices] at hd
      have hsame := sameFor_of_told [] ha.journal (by simp) (ha.store device) (by rw [ha.health])
      exact same hsame (ih hd)
    | @accept d t hshut hnone ht =>
      by_cases hdev : d.identity.device = device
      · exact accept hr hshut (hdev ▸ hnone) ht hdev
      · rw [get?_devices_accept, if_neg hdev] at hd
        exact same (sameFor_accept _ t hdev) (ih hd)
    | @refuse d e hshut hnone he =>
      by_cases hdev : d.identity.device = device
      · exact refuse hr hshut (hdev ▸ hnone) he hdev
      · rw [get?_devices_refuse, if_neg hdev] at hd
        exact same (sameFor_refuse _ e hdev) (ih hd)
    | dispose hentry =>
      rw [get?_devices_dispose hentry] at hd
      split at hd
      · cases hd
      · next hne => exact same (sameFor_dispose hentry hne) (ih hd)
    | @absorb n t answer now ht hc ha =>
      rw [absorb_devices] at hd
      by_cases hdev : t.identity.device = device
      · rw [hdev]
        exact absorb hr ht hc hdev ha (ih hd)
      · exact same (sameFor_absorb _ now (fun s hs => readAnswer_device hs) hdev) (ih hd)
    | beginShutdown => exact same (sameFor_of_told [] rfl (by simp) rfl rfl) (ih hd)
    | release =>
      rw [get?_devices_release] at hd
      split at hd
      · cases hd
      · exact same (sameFor_of_told [] rfl (by simp) rfl rfl) (ih hd)

end DeviceHub.Hub
