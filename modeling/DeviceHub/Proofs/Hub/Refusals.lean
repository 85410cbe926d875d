import DeviceHub.Proofs.Hub.Isolation
import DeviceHub.Proofs.Hub.WindDown

/-!
# Refused operations

An operation on a device may be refused: the device is registered already, or is not, or the hub was shut
down. A refused operation has changed nothing, and nobody was asked anything.

There is one exception. A restart, or an update, lets the device go before it takes it in again, and only
the second half asks whether the hub was shut down. So while a shutdown waits for the cycle of one device,
a restart of another one that is still registered is refused, and that device is gone with all that was
kept of it.

* `HubError.isRefusal`, `Answer.isRefusal`: which answers are refusals.
* `Hub.Late`: the calls that come too late.
* `Hub.step_of_refusal`: a call that is refused and not late changes nothing.
* `Hub.step_of_late`, `Hub.forgets_dispose`: what a late call does.
* `Timeline.refused_without_trace`: the same of everything that can happen to a hub and its requests.
-/
namespace DeviceHub

variable {κ : Type}

/-- Whether an operation was refused for the device that it is about, or because the hub was shut down. -/
def HubError.isRefusal : HubError → Bool
  | .duplicateDevice _ | .unknownDevice _ | .shutDown => true
  | _ => false

/-- Whether a result is that of a refused operation. -/
def isRefused {α : Type} : Except HubError α → Bool
  | .ok _ => false
  | .error e => e.isRefusal

def Answer.isRefusal : Answer → Bool
  | .done result => isRefused result
  | .refreshed result => isRefused result
  | .commanded result => isRefused result
  | .polled result => isRefused result

theorem exists_of_isRefused {α : Type} {result : Except HubError α} (h : isRefused result = true) :
    ∃ e, result = .error e ∧ e.isRefusal = true := by
  cases result with
  | ok => cases h
  | error e => exact ⟨e, rfl, h⟩

/-- What a device reports is no refusal, whatever is made of it. -/
theorem not_isRefused_readAnswer (schema : Schema) (identity : Identity) (now : Instant)
    (answer : Except RequestError Payload) :
    isRefused (readAnswer schema identity now answer) = false := by
  unfold readAnswer
  split
  · rfl
  · split <;> rfl

theorem Hub.not_isRefused_commandDone (h : Hub κ) (device : String)
    (answer : Except RequestError Payload) : isRefused (h.commandDone device answer).1 = false := by
  cases answer <;> rfl

namespace Hub

variable {h h' : Hub κ} {device : String} {a : Act κ} {answer : Answer} {e : HubError}
  {c : DeviceConfig}

/-! ## Single operations -/

theorem isRefusal_of_resolve (he : h.resolve c = .error e) : e.isRefusal = false := by
  unfold resolve at he
  split at he
  · cases he; rfl
  · split at he <;> cases he
    rfl

/-- A configuration that is not in order is no refusal: the device is registered nevertheless. -/
theorem isRefusal_of_prepare (he : h.prepare c = .error e) : e.isRefusal = false := by
  simp only [prepare, bind, Except.bind] at he
  split at he
  · next fault hfault =>
    cases he
    unfold DeviceConfig.validate at hfault
    split at hfault <;> cases hfault
    rfl
  · split at he
    · next fault hfault =>
      cases he
      exact isRefusal_of_resolve hfault
    · cases he

theorem enroll_refused (he : (h.enroll c).1 = .error e) (hr : e.isRefusal = true) :
    (h.enroll c).2 = h := by
  unfold enroll at he ⊢
  simp only at he ⊢
  split
  · rfl
  · next hopen =>
    split
    · rfl
    · next hfree =>
      rw [if_neg hopen, if_neg hfree] at he
      split at he
      · cases he
      · next fault hfault =>
        cases he
        rw [isRefusal_of_prepare hfault] at hr
        cases hr

theorem dispose_of_not_contains (hd : h.devices.contains device = false) :
    h.dispose device = (.error (.unknownDevice device), h) := by
  simp only [dispose, Option.isSome_eq_false_iff.1 hd |> Option.isNone_iff_eq_none.1]

theorem dispose_refused (he : (h.dispose device).1 = .error e) : (h.dispose device).2 = h := by
  cases hd : h.devices.get? device with
  | none => simp only [dispose, hd]
  | some entry =>
    simp only [dispose, hd] at he
    cases he

theorem refresh_refused (he : (h.refresh device).1 = .error e) : (h.refresh device).2 = h := by
  cases hd : h.devices.get? device with
  | none => simp only [refresh, hd]
  | some entry =>
    simp only [refresh, hd] at he
    split at he <;> cases he

theorem contains_dispose (h : Hub κ) (device : String) :
    (h.dispose device).2.devices.contains device = false := by
  cases hd : h.devices.get? device with
  | none =>
    have hnone : h.devices.contains device = false := by simp [Dict.contains, hd]
    rwa [dispose_of_not_contains hnone]
  | some entry => simp [Dict.contains, get?_devices_dispose hd]

/-- A device that was let go is not refused when it comes back, unless the hub was shut down. -/
theorem enroll_dispose (hopen : h.isShutDown = false)
    (he : ((h.dispose c.identity.device).2.enroll c).1 = .error e) : e.isRefusal = false := by
  have hopen' : (h.dispose c.identity.device).2.isShutDown = false :=
    (sameSetting_dispose h c.identity.device).isShutDown.trans hopen
  simp only [enroll, hopen', contains_dispose, Bool.false_eq_true, if_false] at he
  split at he
  · cases he
  · next fault hfault =>
    cases he
    exact isRefusal_of_prepare hfault

/-! ## Late calls -/

/-- Whether a call lets a device go and takes it in again. -/
def Act.renews (device : String) : Act κ → Bool
  | .restart d => d = device
  | .update c => c.identity.device = device
  | _ => false

/-- A call comes too late: it is to renew a device, which is still registered, in a hub that was shut
down. -/
structure Late (h : Hub κ) (device : String) (a : Act κ) : Prop where
  isShutDown : h.isShutDown = true
  registered : h.devices.contains device = true
  renews : a.renews device = true

theorem restart_eq_update (hw : Wired h) {entry : DeviceEntry}
    (hd : h.devices.get? device = some entry) : h.restart device = h.update entry.config := by
  simp only [restart, update, hd, hw.named device entry hd]

theorem update_refused (hlate : ¬Late h c.identity.device (.update c))
    (he : (h.update c).1 = .error e) (hr : e.isRefusal = true) : (h.update c).2 = h := by
  cases hd : h.devices.contains c.identity.device with
  | false =>
    rw [update, dispose_of_not_contains hd] at he ⊢
    exact enroll_refused he hr
  | true =>
    have hopen : h.isShutDown = false := by
      rw [← Bool.not_eq_true]
      exact fun hshut => hlate ⟨hshut, hd, by simp [Act.renews]⟩
    rw [enroll_dispose hopen he] at hr
    cases hr

theorem restart_refused (hw : Wired h) (hlate : ¬Late h device (.restart device))
    (he : (h.restart device).1 = .error e) (hr : e.isRefusal = true) : (h.restart device).2 = h := by
  cases hd : h.devices.get? device with
  | none => simp only [restart, hd]
  | some entry =>
    have hnamed := hw.named device entry hd
    rw [restart_eq_update hw hd] at he ⊢
    refine update_refused (fun hlate' => hlate ?_) he hr
    rw [hnamed] at hlate'
    exact ⟨hlate'.isShutDown, hlate'.registered, by simp [Act.renews]⟩

theorem step_of_refusal (hw : Wired h) (ha : h.answer? a = some (device, answer))
    (hr : answer.isRefusal = true) (hlate : ¬Late h device a) : h.step a = h := by
  cases a with
  | enroll c =>
    cases ha
    obtain ⟨e, he, hr⟩ := exists_of_isRefused hr
    exact enroll_refused he hr
  | dispose d =>
    cases ha
    obtain ⟨e, he, -⟩ := exists_of_isRefused hr
    exact dispose_refused he
  | restart d =>
    cases ha
    obtain ⟨e, he, hr⟩ := exists_of_isRefused hr
    exact restart_refused hw hlate he hr
  | update c =>
    cases ha
    obtain ⟨e, he, hr⟩ := exists_of_isRefused hr
    exact update_refused hlate he hr
  | refresh d =>
    cases ha
    obtain ⟨e, he, -⟩ := exists_of_isRefused hr
    exact refresh_refused he
  | _ => cases ha

/-- A late call is refused, after its device was let go. -/
theorem step_of_late (hw : Wired h) (hlate : Late h device a) :
    h.answer? a = some (device, .done (.error .shutDown)) ∧ h.step a = (h.dispose device).2 := by
  have hrefused (c : DeviceConfig) :
      h.update c = (.error .shutDown, (h.dispose c.identity.device).2) :=
    enroll_of_isShutDown (windsDown_dispose hlate.isShutDown _).isShutDown c
  obtain ⟨-, hregistered, hrenews⟩ := hlate
  cases a with
  | restart d =>
    obtain rfl : d = device := of_decide_eq_true hrenews
    obtain ⟨entry, hd⟩ := Option.isSome_iff_exists.1 hregistered
    have hnamed := hw.named d entry hd
    rw [answer?, step, restart_eq_update hw hd, hrefused, hnamed]
    exact ⟨rfl, rfl⟩
  | update c =>
    obtain rfl : c.identity.device = device := of_decide_eq_true hrenews
    rw [answer?, step, hrefused]
    exact ⟨rfl, rfl⟩
  | _ => cases hrenews

/-- A device is gone, with all that was kept of it. Nothing else has changed, and nobody was told. -/
structure Forgets (device : String) (h h' : Hub κ) : Prop where
  entry : h'.devices.get? device = none
  health : Dict.get? h'.health device = none
  snapshot : h'.store.get? device = none
  others : ∀ other, other ≠ device → Untouched other h h'
  journal : h'.journal = h.journal

theorem forgets_dispose (hw : Wired h) (hd : h.devices.contains device = true) :
    Forgets device h (h.dispose device).2 := by
  obtain ⟨entry, hd⟩ := Option.isSome_iff_exists.1 hd
  refine ⟨?_, ?_, ?_, fun other hne => untouched_dispose hw hne.symm, ?_⟩
  · rw [get?_devices_dispose hd, if_pos rfl]
  · rw [dispose_eq hd, HealthTracker.get?_remove, if_pos rfl]
  · rw [dispose_eq hd, SnapshotStore.get?_remove, if_pos rfl]
  · rw [dispose_eq hd]

end Hub

namespace Timeline

variable {calendar : Nat → Instant} {vendor : Vendor κ} {s s' : Timeline κ} {device : String}
  {answer : Answer} {a : Act κ}

/-! ## All that can happen -/

/-- A device has an answer more. -/
def Answers (s s' : Timeline κ) (device : String) (answer : Answer) : Prop :=
  s'.answersOf device = (s.now, answer) :: s.answersOf device

theorem not_answers_of_eq (hs : s'.answers = s.answers) : ¬Answers s s' device answer := by
  intro h
  rw [Answers, answersOf, hs] at h
  exact List.cons_ne_self _ _ h.symm

theorem eq_of_answers_tell (hs : s'.answers = s.answers) {other : String} {told : Answer}
    (h : Answers s (s'.tell other told) device answer) : other = device ∧ told = answer := by
  rw [Answers, answersOf_tell] at h
  split at h
  · next hdevice => exact ⟨hdevice, (Prod.mk.inj (List.cons.inj h).1).2⟩
  · exact absurd h (not_answers_of_eq hs)

theorem answers_turn (s : Timeline κ) (n : Nat) : (s.turn n).answers = s.answers := by
  unfold turn
  split
  · rfl
  · simp only
    split <;> rfl

/-- What is answered when a report is heard is no refusal. -/
theorem not_isRefusal_of_deliver {report : Report} {waiter : Waiter} {other : String}
    (hs : s'.answers = s.answers)
    (h : Answers s (s'.deliver calendar other report waiter) device answer) :
    answer.isRefusal = false := by
  cases waiter with
  | task n => exact absurd h (not_answers_of_eq hs)
  | command =>
    obtain ⟨-, rfl⟩ := eq_of_answers_tell hs h
    exact Hub.not_isRefused_commandDone s'.hub other report
  | pollOnce identity schema =>
    obtain ⟨-, rfl⟩ := eq_of_answers_tell hs h
    exact not_isRefused_readAnswer schema identity _ report

theorem not_isRefusal_of_hear {other : String} {number : Nat}
    (h : Answers s (s.hear calendar vendor other number) device answer) :
    answer.isRefusal = false := by
  unfold hear at h
  split at h
  · split at h
    · exact not_isRefusal_of_deliver rfl h
    · exact absurd h (not_answers_of_eq rfl)
  · exact absurd h (not_answers_of_eq rfl)

/-- By cases on what happens: whatever answers at once either asks nobody and changes nothing, or is a
call on the hub. -/
theorem step_of_refusal (hs : Sound s) (h : Answers s (s.step calendar vendor a) device answer)
    (hr : answer.isRefusal = true) (hlate : ∀ b, a = .call b → ¬s.hub.Late device b) :
    s.step calendar vendor a = s.tell device answer := by
  cases a with
  | tick =>
    simp only [step] at h
    split at h <;> exact absurd h (not_answers_of_eq rfl)
  | turn n => exact absurd h (not_answers_of_eq (answers_turn s n))
  | hear other number =>
    rw [not_isRefusal_of_hear h] at hr
    cases hr
  | call b =>
    simp only [step] at h ⊢
    split at h
    · next hcall =>
      rw [if_pos hcall]
      cases hanswer : s.hub.answer? b with
      | none =>
        rw [hanswer] at h
        exact absurd h (not_answers_of_eq rfl)
      | some told =>
        rw [hanswer] at h
        obtain ⟨rfl, rfl⟩ := eq_of_answers_tell rfl h
        simp only [Hub.step_of_refusal hs.wired hanswer hr (hlate b rfl)]
    · exact absurd h (not_answers_of_eq rfl)
  | command other request =>
    simp only [step] at h ⊢
    split at h
    · obtain ⟨rfl, rfl⟩ := eq_of_answers_tell rfl h
      rfl
    · exact absurd h (not_answers_of_eq rfl)
  | pollOnce c =>
    simp only [step] at h ⊢
    split at h
    · obtain ⟨rfl, rfl⟩ := eq_of_answers_tell rfl h
      rfl
    · exact absurd h (not_answers_of_eq rfl)

theorem step_of_late (hs : Sound s) {b : Hub.Act κ} (hlate : s.hub.Late device b) :
    s.step calendar vendor (.call b) =
      { s with hub := (s.hub.dispose device).2 }.tell device (.done (.error .shutDown)) := by
  obtain ⟨hanswer, hstep⟩ := Hub.step_of_late hs.wired hlate
  have hcall : b.isCall = true := by
    cases b with
    | restart | update => rfl
    | _ => cases hlate.renews
  simp only [step, hcall, if_true, hanswer, hstep]

/-- Whatever has happened: an operation on a device that is refused, because the device is registered or
because it is not or because the hub was shut down, leaves everything as it was but for its answer, unless
it is to renew a device that is still registered in a hub that was shut down. Such a late call is refused
after the device was let go. -/
theorem refused_without_trace (calendar : Nat → Instant) (vendor : Vendor κ) (schemas : SchemaRegistry)
    (acts : List (Act κ)) (a : Act κ) (device : String) :
    let s := (new schemas).run calendar vendor acts
    let s' := s.step calendar vendor a
    (∀ answer, Answers s s' device answer → answer.isRefusal = true →
      (∀ b, a = .call b → ¬s.hub.Late device b) → s' = s.tell device answer) ∧
    ∀ b, a = .call b → s.hub.Late device b →
      s' = { s with hub := (s.hub.dispose device).2 }.tell device (.done (.error .shutDown)) ∧
        s.hub.Forgets device s'.hub := by
  intro s s'
  have hs : Sound s := (sound_new schemas).run acts
  refine ⟨fun answer h hr hlate => step_of_refusal hs h hr hlate, fun b hb hlate => ?_⟩
  have hstep : s' = { s with hub := (s.hub.dispose device).2 }.tell device (.done (.error .shutDown)) := by
    simp only [s', hb]
    exact step_of_late hs hlate
  refine ⟨hstep, ?_⟩
  rw [hstep]
  exact Hub.forgets_dispose hs.wired hlate.registered

/-- Two plugs: the second was asked and has answered, the first is being asked. -/
def plugsAtWork : List (Act Unit) := [
  .call (.attach "hub" (.attached ())), .call (.enroll ⟨⟨"hub", "p2", "plug"⟩, 5, Hub.plug.request⟩),
  .turn 0, .hear "p2" 0, .call (.enroll Hub.plug), .turn 1]

/-- The first plug cannot be taken in again while it is asked, and a plug that nobody took in cannot be
commanded. -/
theorem refused_without_trace_plugs :
    let s := noDevices.run frozen grants plugsAtWork
    s.step frozen grants (.call (.enroll Hub.plug)) =
      s.tell "p1" (.done (.error (.duplicateDevice "p1"))) ∧
    s.step frozen grants (.command "p3" Hub.plug.request) =
      s.tell "p3" (.commanded (.error (.unknownDevice "p3"))) := by
  intro s
  have hopen : s.hub.isShutDown = false := by decide +kernel
  have hlate (device : String) (b : Hub.Act Unit) : ¬s.hub.Late device b := fun h =>
    Bool.noConfusion (hopen.symm.trans h.isShutDown)
  constructor
  · exact (refused_without_trace frozen grants [("plug", Hub.plugSchema)] plugsAtWork
      (.call (.enroll Hub.plug)) "p1").1 _ rfl rfl fun b _ => hlate "p1" b
  · exact (refused_without_trace frozen grants [("plug", Hub.plugSchema)] plugsAtWork
      (.command "p3" Hub.plug.request) "p3").1 _ rfl rfl fun b _ => hlate "p3" b

/-- The hub is shut down: the first plug is let go, and the call waits for its report. The second plug is
still registered. Its restart is refused, and it is gone, with its health and its snapshot. -/
theorem refused_while_shutting_down :
    let s := noDevices.run frozen grants plugsAtWork
    let call := (s.hub.shutdown.1.goOn s.hub.shutdown.2).1
    let waiting := s.run frozen grants [.call .beginShutdown, .call (.release "p1")]
    let after := waiting.step frozen grants (.call (.restart "p2"))
    waiting.hub = (s.hub.shutdown.1.goOn s.hub.shutdown.2).2 ∧
    call.hasReturned = false ∧ (call.goOn waiting.hub).1 = call ∧
    Answers waiting after "p2" (.done (.error .shutDown)) ∧
    waiting.hub.devices.contains "p2" = true ∧ after.hub.devices.contains "p2" = false ∧
    (Dict.get? waiting.hub.health "p2").isSome = true ∧ Dict.get? after.hub.health "p2" = none ∧
    (waiting.hub.store.get? "p2").isSome = true ∧ after.hub.store.get? "p2" = none := by
  intro s call waiting after
  exact ⟨rfl, by decide +kernel, by decide +kernel, rfl, by decide +kernel, by decide +kernel,
    by decide +kernel, by decide +kernel, by decide +kernel, by decide +kernel⟩

end Timeline

end DeviceHub
