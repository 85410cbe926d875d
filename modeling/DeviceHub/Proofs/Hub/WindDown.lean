import DeviceHub.Proofs.Hub.Share

/-!
# A hub that was shut down

Shutting down cancels every poll task there is, and no task comes about afterwards. So all that a task
can still do is to end: one that has no cycle under way ends at its next turn, one that has a cycle under
way when that ends, and nothing comes of the cycle. What the devices reported stays, except that of
devices that somebody disposes of.

* `cancelled_of_isShutDown`: every poll task is cancelled.
* `WindsDown`: what can still become of a hub that was shut down, whatever is done to it.
* `windsDown_step`, `spared_step`: that is all that calls, turns and answers do.
* `hasEnded_wake`, `hasEnded_finish`: how a task ends.
-/
namespace DeviceHub

variable {κ : Type}

namespace Poller

variable {p : Poller}

/-- At its turn a cancelled task ends, unless a cycle is under way. -/
theorem wake_phase_of_isCancelled (hc : p.isCancelled = true) (time : Nat) :
    (p.wake time).2.phase = if p.phase = .cycling then .cycling else .ended := by
  unfold wake
  cases hp : p.phase <;> simp [hc, hp, stop]

theorem finish_phase_of_isCancelled (hc : p.isCancelled = true) (time : Nat) (verdict : Verdict) :
    (p.finish time verdict).phase = .ended := by
  simp [finish, hc, stop]

end Poller

/-- A poll task has been cancelled, if it was not before, and has done nothing or ended. -/
structure PollTask.WindsDown (t t' : PollTask κ) : Prop where
  cancelled : t.poller.isCancelled = true → t'.poller.isCancelled = true
  phase : t'.poller.phase = t.poller.phase ∨ t'.poller.phase = .ended

theorem PollTask.WindsDown.trans {t t' t'' : PollTask κ} (h : t.WindsDown t')
    (h' : t'.WindsDown t'') : t.WindsDown t'' := by
  refine ⟨fun hc => h'.cancelled (h.cancelled hc), ?_⟩
  rcases h'.phase with hsame | hended
  · rw [hsame]; exact h.phase
  · exact .inr hended

theorem PollTask.windsDown_refl (t : PollTask κ) : t.WindsDown t := ⟨id, .inl rfl⟩

namespace Hub

variable {h h' h'' : Hub κ} {device : String}

/-! ## Winding down -/

/-- What can still become of a hub that was shut down: nothing happens to its devices but that they go,
nobody is told anything, and there are the poll tasks that there were, which end. -/
structure WindsDown (h h' : Hub κ) : Prop where
  isShutDown : h'.isShutDown = true
  journal : h'.journal = h.journal
  devices : ∀ d e, h'.devices.get? d = some e → h.devices.get? d = some e
  length : h'.tasks.length = h.tasks.length
  tasks : ∀ n t, h.task? n = some t → ∃ t', h'.task? n = some t' ∧ t.WindsDown t'

theorem WindsDown.trans (hd : WindsDown h h') (hd' : WindsDown h' h'') : WindsDown h h'' := by
  refine ⟨hd'.isShutDown, hd'.journal.trans hd.journal,
    fun d e he => hd.devices d e (hd'.devices d e he), hd'.length.trans hd.length, fun n t ht => ?_⟩
  obtain ⟨t', ht', hwinds⟩ := hd.tasks n t ht
  obtain ⟨t'', ht'', hwinds'⟩ := hd'.tasks n t' ht'
  exact ⟨t'', ht'', hwinds.trans hwinds'⟩

/-- A task that is there was there. -/
theorem WindsDown.task? (hd : WindsDown h h') {n : Nat} {t' : PollTask κ} (ht' : h'.task? n = some t') :
    ∃ t, h.task? n = some t ∧ t.WindsDown t' := by
  have hn : n < h.tasks.length := hd.length ▸ task?_lt ht'
  have ht : h.task? n = some h.tasks[n] := List.getElem?_eq_getElem hn
  obtain ⟨t'', ht'', hwinds⟩ := hd.tasks n _ ht
  rw [ht'] at ht''
  cases ht''
  exact ⟨_, ht, hwinds⟩

/-- A cycle that is under way was under way. -/
theorem WindsDown.isCycling (hd : WindsDown h h') {n : Nat} (hn : h'.isCycling n = true) :
    h.isCycling n = true := by
  simp only [Hub.isCycling, Option.any_eq_true, decide_eq_true_eq] at hn ⊢
  obtain ⟨t', ht', hcycling⟩ := hn
  obtain ⟨t, ht, hwinds⟩ := hd.task? ht'
  rcases hwinds.phase with hsame | hended
  · exact ⟨t, ht, hsame.symm.trans hcycling⟩
  · rw [hended] at hcycling
    cases hcycling

theorem hasEnded_eq_true {n : Nat} {t : PollTask κ} (ht : h.task? n = some t) :
    h.hasEnded n = true ↔ t.poller.phase = .ended := by
  simp [hasEnded, ht]

/-- A task that has ended stays so. -/
theorem WindsDown.hasEnded (hd : WindsDown h h') {n : Nat} (hn : h.hasEnded n = true) :
    h'.hasEnded n = true := by
  cases ht' : h'.task? n with
  | none => simp [Hub.hasEnded, ht']
  | some t' =>
    obtain ⟨t, ht, hwinds⟩ := hd.task? ht'
    rw [hasEnded_eq_true ht] at hn
    rw [hasEnded_eq_true ht']
    exact hwinds.phase.elim (fun hsame => hsame.trans hn) id

/-- A cycle that was under way still is, unless its task has ended. -/
theorem WindsDown.isCycling_or_hasEnded (hd : WindsDown h h') {n : Nat} (hn : h.isCycling n = true) :
    h'.isCycling n = true ∨ h'.hasEnded n = true := by
  simp only [Hub.isCycling, Option.any_eq_true, decide_eq_true_eq] at hn ⊢
  obtain ⟨t, ht, hcycling⟩ := hn
  obtain ⟨t', ht', hwinds⟩ := hd.tasks n t ht
  rw [hasEnded_eq_true ht']
  exact hwinds.phase.imp (fun hsame => ⟨t', ht', hsame.trans hcycling⟩) id

theorem windsDown_of_eq (hshut : h'.isShutDown = true) (hjournal : h'.journal = h.journal)
    (hdevices : h'.devices = h.devices) (htasks : h'.tasks = h.tasks) : WindsDown h h' := by
  refine ⟨hshut, hjournal, fun d e he => hdevices ▸ he, by rw [htasks], fun n t ht => ⟨t, ?_, ?_⟩⟩
  · rwa [Hub.task?, htasks]
  · exact t.windsDown_refl

theorem windsDown_refl (hshut : h.isShutDown = true) : WindsDown h h :=
  windsDown_of_eq hshut rfl rfl rfl

theorem windsDown_withPoller (hshut : h.isShutDown = true) {n : Nat} {t : PollTask κ} {p : Poller}
    (ht : h.task? n = some t) (hp : t.WindsDown { t with poller := p }) :
    WindsDown h (h.withPoller n p) := by
  refine ⟨hshut, rfl, fun _ _ he => he, List.length_modify .., fun m u hu => ?_⟩
  rw [task?_withPoller, hu]
  refine ⟨_, rfl, ?_⟩
  split
  · next hm =>
    subst hm
    rw [ht] at hu
    cases hu
    exact hp
  · exact u.windsDown_refl

theorem windsDown_beginShutdown (h : Hub κ) : WindsDown h h.beginShutdown := by
  refine ⟨rfl, rfl, fun _ _ he => he, List.length_map .., fun n t ht => ?_⟩
  refine ⟨{ t with poller := t.poller.cancel }, ?_, fun _ => rfl, .inl rfl⟩
  rw [task?_beginShutdown, ht, Option.map_some]

theorem windsDown_release (hshut : h.isShutDown = true) (released : String) :
    WindsDown h (h.release released) := by
  refine ⟨hshut, rfl, fun d e he => ?_, rfl, fun n t ht => ⟨t, ht, t.windsDown_refl⟩⟩
  rw [get?_devices_release] at he
  split at he
  · cases he
  · exact he

theorem windsDown_dispose (hshut : h.isShutDown = true) (disposed : String) :
    WindsDown h (h.dispose disposed).2 := by
  cases hd : h.devices.get? disposed with
  | none =>
    have hsame : (h.dispose disposed).2 = h := by simp [dispose, hd]
    rw [hsame]
    exact windsDown_refl hshut
  | some entry =>
    refine ⟨?_, ?_, fun d e he => ?_, length_tasks_dispose h disposed, fun n t ht => ?_⟩
    · rw [dispose_eq hd]; exact hshut
    · rw [dispose_eq hd]
    · rw [get?_devices_dispose hd] at he
      split at he
      · cases he
      · exact he
    · rw [task?_dispose hd, ht]
      refine ⟨_, rfl, ?_⟩
      split
      · exact ⟨fun _ => rfl, .inl rfl⟩
      · exact t.windsDown_refl

/-! ## Everything else -/

/-- The two steps of shutting down itself. -/
def Act.closes : Act κ → Bool
  | .beginShutdown | .release _ => true
  | _ => false

theorem tasks_register (h : Hub κ) (fault : CertificateFault) (b : BridgeConfig) :
    (h.register fault b).2.tasks = h.tasks := by
  unfold register
  split
  · rfl
  · split
    · rfl
    · simp only
      split <;> rfl

theorem cancelled_of_isShutDown (hw : Wired h) (hshut : h.isShutDown = true) {n : Nat}
    {t : PollTask κ} (ht : h.task? n = some t) : t.poller.isCancelled = true := by
  rw [← Bool.not_eq_false]
  intro hlive
  have hopen := (hw.serves n t ht hlive).1
  rw [hshut] at hopen
  cases hopen

/-- No device is taken in any more. -/
theorem enroll_of_isShutDown (hshut : h.isShutDown = true) (d : DeviceConfig) :
    h.enroll d = (.error .shutDown, h) := by
  simp [enroll, hshut]

/-- No cycle starts any more. -/
theorem wake_of_isShutDown (hw : Wired h) (hshut : h.isShutDown = true) (n time : Nat) :
    (h.wake n time).1 = false := by
  unfold wake
  split
  · rfl
  · next t ht => exact t.poller.wake_of_isCancelled time (cancelled_of_isShutDown hw hshut ht)

/-- The end of a cycle writes nothing any more. -/
theorem not_writes_of_isShutDown (hw : Wired h) (hshut : h.isShutDown = true) (n time : Nat)
    (now : Instant) (answer : Except RequestError Payload) :
    ¬Writes h (h.step (.finish n time now answer)) := by
  intro hwrites
  obtain ⟨t, -, ht, hlive, -⟩ := inCharge_of_writes hw hwrites
  rw [cancelled_of_isShutDown hw hshut ht] at hlive
  cases hlive

theorem windsDown_refresh (hshut : h.isShutDown = true) (refreshed : String) :
    WindsDown h (h.refresh refreshed).2 := by
  unfold refresh
  split
  · exact windsDown_refl hshut
  · split
    · exact windsDown_refl hshut
    · next n t ht =>
      refine windsDown_withPoller hshut (taskOf?_eq_some ht) ⟨fun hc => ?_, .inl ?_⟩
      · exact t.poller.refresh_isCancelled.trans hc
      · exact t.poller.refresh_phase

section

variable (hw : Wired h) (hshut : h.isShutDown = true)

include hw hshut

theorem windsDown_wake (n time : Nat) : WindsDown h (h.wake n time).2 := by
  unfold wake
  split
  · exact windsDown_refl hshut
  · next t ht =>
    have hc := cancelled_of_isShutDown hw hshut ht
    refine windsDown_withPoller hshut ht ⟨fun _ => (t.poller.wake_isCancelled time).trans hc, ?_⟩
    rw [Poller.wake_phase_of_isCancelled hc time]
    split
    · next hcycling => exact .inl hcycling.symm
    · exact .inr rfl

theorem windsDown_finish (n time : Nat) (now : Instant) (answer : Except RequestError Payload) :
    WindsDown h (h.finish n time now answer) := by
  cases ht : h.task? n with
  | none =>
    have hsame : h.finish n time now answer = h := by simp [finish, ht]
    rw [hsame]
    exact windsDown_refl hshut
  | some t =>
    have hc := cancelled_of_isShutDown hw hshut ht
    rw [finish_of_isCancelled ht hc]
    exact windsDown_withPoller hshut ht ⟨fun _ => (t.poller.finish_isCancelled time .goOn).trans hc,
      .inr (Poller.finish_phase_of_isCancelled hc time .goOn)⟩

/-- Whatever else is done to a hub that was shut down, it winds down. -/
theorem windsDown_step {a : Act κ} (ha : a.closes = false) : WindsDown h (h.step a) := by
  cases a with
  | attach | renew | subscribe => exact windsDown_of_eq hshut rfl rfl rfl
  | register fault b =>
    have halike := alike_register fault h b
    exact windsDown_of_eq (halike.isShutDown.trans hshut) halike.journal halike.devices
      (tasks_register h fault b)
  | enroll d =>
    rw [step, enroll_of_isShutDown hshut]
    exact windsDown_refl hshut
  | dispose d => exact windsDown_dispose hshut d
  | restart d =>
    have hdisposed := windsDown_dispose hshut d
    rw [step, restart]
    split
    · exact windsDown_refl hshut
    · rw [enroll_of_isShutDown hdisposed.isShutDown]
      exact hdisposed
  | update c =>
    have hdisposed := windsDown_dispose hshut c.identity.device
    rw [step, update, enroll_of_isShutDown hdisposed.isShutDown]
    exact hdisposed
  | refresh d => exact windsDown_refresh hshut d
  | commandDone d answer =>
    cases answer with
    | error e => exact windsDown_refl hshut
    | ok payload => exact windsDown_refresh hshut d
  | beginShutdown | release => cases ha
  | wake n time => exact windsDown_wake hw hshut n time
  | finish n time now answer =>
    rw [step]
    split
    · exact windsDown_finish hw hshut n time now answer
    · exact windsDown_refl hshut

/-! ## What stays -/

/-- A device is registered as before, and what is kept of it is as before. -/
structure Spared (device : String) (h h' : Hub κ) : Prop where
  entry : h'.devices.get? device = h.devices.get? device
  health : Dict.get? h'.health device = Dict.get? h.health device
  snapshot : h'.store.get? device = h.store.get? device

end

theorem spared_refl (device : String) (h : Hub κ) : Spared device h h := ⟨rfl, rfl, rfl⟩

theorem spared_of_alike (ha : Alike h h') : Spared device h h' :=
  ⟨by rw [ha.devices], by rw [ha.health], ha.store device⟩

/-- Disposing of a device spares the others, and one that is not registered. -/
theorem spared_dispose {disposed : String}
    (hother : disposed ≠ device ∨ h.devices.contains device = false) :
    Spared device h (h.dispose disposed).2 := by
  cases hd : h.devices.get? disposed with
  | none =>
    have hsame : (h.dispose disposed).2 = h := by simp [dispose, hd]
    rw [hsame]
    exact spared_refl device h
  | some entry =>
    have hne : disposed ≠ device := by
      rintro rfl
      rcases hother with hne | hnone
      · exact hne rfl
      · simp [Dict.contains, hd] at hnone
    refine ⟨by rw [get?_devices_dispose hd, if_neg hne], ?_, ?_⟩
    · rw [dispose_eq hd, HealthTracker.get?_remove, if_neg hne]
    · rw [dispose_eq hd, SnapshotStore.get?_remove, if_neg hne]

/-- After shutting down every cycle ends for nothing. -/
theorem spared_finish (hw : Wired h) (hshut : h.isShutDown = true) (n time : Nat) (now : Instant)
    (answer : Except RequestError Payload) : Spared device h (h.finish n time now answer) := by
  cases ht : h.task? n with
  | none =>
    have hsame : h.finish n time now answer = h := by simp [finish, ht]
    rw [hsame]
    exact spared_refl device h
  | some t =>
    rw [finish_of_isCancelled ht (cancelled_of_isShutDown hw hshut ht)]
    exact ⟨rfl, rfl, rfl⟩

/-- Whatever else is done to a hub that was shut down spares a device, unless it disposes of it. -/
theorem spared_step (hw : Wired h) (hshut : h.isShutDown = true) {a : Act κ} (ha : a.closes = false)
    (hother : a.disposes device = false ∨ h.devices.contains device = false) :
    Spared device h (h.step a) := by
  cases a with
  | attach | renew => exact ⟨rfl, rfl, rfl⟩
  | register fault b => exact spared_of_alike (alike_register fault h b)
  | subscribe d => exact spared_of_alike (alike_subscribe h d)
  | enroll d =>
    rw [step, enroll_of_isShutDown hshut]
    exact spared_refl device h
  | dispose d => exact spared_dispose (hother.imp_left of_decide_eq_false)
  | restart d =>
    have hdisposed : Spared device h (h.dispose d).2 :=
      spared_dispose (hother.imp_left of_decide_eq_false)
    rw [step, restart]
    split
    · exact spared_refl device h
    · rw [enroll_of_isShutDown (windsDown_dispose hshut d).isShutDown]
      exact hdisposed
  | update c =>
    rw [step, update, enroll_of_isShutDown (windsDown_dispose hshut _).isShutDown]
    exact spared_dispose (hother.imp_left of_decide_eq_false)
  | refresh d => exact spared_of_alike (alike_refresh h d)
  | commandDone d answer =>
    cases answer with
    | error e => exact spared_refl device h
    | ok payload => exact spared_of_alike (alike_refresh h d)
  | beginShutdown | release => cases ha
  | wake n time => exact spared_of_alike (alike_wake h n time)
  | finish n time now answer =>
    rw [step]
    split
    · exact spared_finish hw hshut n time now answer
    · exact spared_refl device h

/-! ## How tasks end -/

section

variable (hw : Wired h) (hshut : h.isShutDown = true) {n : Nat}

include hw hshut

/-- A task without a cycle under way ends at its next turn. -/
theorem hasEnded_wake (hn : h.isCycling n = false) (time : Nat) :
    (h.step (.wake n time)).hasEnded n = true := by
  cases ht : h.task? n with
  | none => simp [step, wake, ht, hasEnded]
  | some t =>
    have hc := cancelled_of_isShutDown hw hshut ht
    have hphase : t.poller.phase ≠ .cycling := by simpa [isCycling, ht] using hn
    have ht' : (h.step (.wake n time)).task? n = some { t with poller := (t.poller.wake time).2 } := by
      simp [step, wake, ht, task?_withPoller]
    rw [hasEnded_eq_true ht', Poller.wake_phase_of_isCancelled hc time, if_neg hphase]

/-- A task with a cycle under way ends with it. -/
theorem hasEnded_finish (hn : h.isCycling n = true) (time : Nat) (now : Instant)
    {answer : Except RequestError Payload} (ha : answerIsFinite answer = true) :
    (h.step (.finish n time now answer)).hasEnded n = true := by
  simp only [isCycling, Option.any_eq_true] at hn
  obtain ⟨t, ht, hcycling⟩ := hn
  have hc := cancelled_of_isShutDown hw hshut ht
  have hguard : (h.isCycling n && answerIsFinite answer) = true := by
    simp only [isCycling, ht, Option.any_some, hcycling, ha, Bool.and_self]
  have ht' : (h.step (.finish n time now answer)).task? n =
      some { t with poller := t.poller.finish time .goOn } := by
    rw [step, if_pos hguard, finish_of_isCancelled ht hc, task?_withPoller, ht]
    simp
  rw [hasEnded_eq_true ht']
  exact Poller.finish_phase_of_isCancelled hc time .goOn

end

end Hub

end DeviceHub
