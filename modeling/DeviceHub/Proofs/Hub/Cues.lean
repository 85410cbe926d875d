import DeviceHub.Proofs.Hub.Lane

/-!
# What a cue does to a device

What is reported on a device may depend on the requests about it, and on nothing else. Then a cue does
the same to the device in two timelines that have the same of it, whatever they have of other devices
and however their poll tasks are numbered.

* `AgreeOn.step`: two acts with the same cue.
-/
namespace DeviceHub

variable {κ : Type}

/-- How reports on a device depend on the requests about it. -/
structure Habit (κ : Type) where
  /-- What is reported on the request of a number, if the report is there at a time. -/
  report? : (asked : List (Inquiry κ)) → (number time : Nat) → Option Report
  /-- A report that is there stays there while more is asked. -/
  stays : ∀ asked more number time, (report? asked number time).isSome = true →
    (report? (asked ++ more) number time).isSome = true

/-- Vendors report on a device as the habit says. -/
def Habit.Rules (habit : Habit κ) (device : String) (vendor : Vendor κ) : Prop :=
  ∀ asked number time, vendor asked device number time = habit.report? (asked device) number time

def Waiter.isTask : Waiter → Bool
  | .task _ => true
  | _ => false

namespace Hub

theorem AgreeOn.resolve {h₁ h₂ : Hub κ} {device : String} (ha : h₁.AgreeOn device h₂)
    (c : DeviceConfig) : h₁.resolve c = h₂.resolve c := by
  simp only [Hub.resolve, ha.clients, ha.schemas]

theorem AgreeOn.parts {h₁ h₂ : Hub κ} {device : String} (ha : h₁.AgreeOn device h₂)
    (a : Act κ) : a.parts h₁ device = a.parts h₂ device := by
  cases a with
  | release d => simp only [Act.parts, ha.isShutDown]
  | _ => rfl

theorem current?_wake (h : Hub κ) (n time : Nat) (device : String) :
    (h.wake n time).2.current? device = h.current? device := by
  unfold Hub.wake
  split <;> rfl

theorem current?_finish (h : Hub κ) (n time : Nat) (now : Instant)
    (report : Except RequestError Payload) (device : String) :
    (h.finish n time now report).current? device = h.current? device := by
  cases ht : h.task? n with
  | none => simp [Hub.finish, ht]
  | some t =>
    obtain ⟨p, -, heq⟩ := finish_eq ht time now report
    rw [heq]
    split
    · rfl
    · show (h.absorb _ _ _).current? device = _
      simp only [current?, absorb_devices]

end Hub

namespace Timeline

variable {calendar : Nat → Instant} {vendor v₁ v₂ : Vendor κ} {s s₁ s₂ : Timeline κ}
  {device : String} {a a₁ a₂ c : Act κ}

/-- An act and its cue. -/
inductive Cued (vendor : Vendor κ) (device : String) (s : Timeline κ) : Act κ → Act κ → Prop where
  | tick (settled : s.isSettled vendor = true) : Cued vendor device s .tick .tick
  | turn {n : Nat} (current : s.hub.current? device = some n) (ready : s.isReady device = true) :
      Cued vendor device s (.turn n) (.turn 0)
  | hear {number : Nat} (heeded : s.heeds vendor device number = true) :
      Cued vendor device s (.hear device number) (.hear device number)
  | call {a : Hub.Act κ} (isCall : a.isCall = true) (concerns : a.concerns device = true) :
      Cued vendor device s (.call a) (.call a)
  | command (request : DeviceRequest) :
      Cued vendor device s (.command device request) (.command device request)
  | pollOnce {d : DeviceConfig} (named : d.identity.device = device) :
      Cued vendor device s (.pollOnce d) (.pollOnce d)

theorem cued_of_cue (hc : s.cue vendor device a = some c) : Cued vendor device s a c := by
  cases a with
  | tick =>
    simp only [cue, Option.ite_none_right_eq_some, Option.some_inj] at hc
    exact hc.2 ▸ .tick hc.1
  | turn n =>
    simp only [cue, Option.ite_none_right_eq_some, Option.some_inj] at hc
    exact hc.2 ▸ .turn hc.1.1 hc.1.2
  | hear d number =>
    simp only [cue, Option.ite_none_right_eq_some, Option.some_inj] at hc
    obtain ⟨⟨rfl, hheeds⟩, rfl⟩ := hc
    exact .hear hheeds
  | call a =>
    simp only [cue, Option.ite_none_right_eq_some, Option.some_inj, Bool.and_eq_true] at hc
    exact hc.2 ▸ .call hc.1.1 hc.1.2
  | command d request =>
    simp only [cue, Option.ite_none_right_eq_some, Option.some_inj] at hc
    obtain ⟨rfl, rfl⟩ := hc
    exact .command request
  | pollOnce d =>
    simp only [cue, Option.ite_none_right_eq_some, Option.some_inj] at hc
    exact hc.2 ▸ .pollOnce hc.1

/-! ## Requests and answers -/

theorem AgreeOn.tell (ha : AgreeOn device s₁ s₂) (other : String) (answer : Answer) :
    AgreeOn device (s₁.tell other answer) (s₂.tell other answer) :=
  ⟨ha.hub, ha.now, ha.lane, by rw [answersOf_tell, answersOf_tell, ha.answers, ha.now]⟩

theorem lane_ask (s : Timeline κ) (client : Client κ) (device : String) (request : DeviceRequest)
    (w : Waiter) : (s.ask client device request w).lane device =
      s.lane device ++ [(⟨s.now, client, request⟩, w.seenBy (s.hub.current? device))] := by
  simp only [lane, log_ask, if_pos, List.map_append]
  rfl

theorem AgreeOn.ask (ha : AgreeOn device s₁ s₂) (client : Client κ) (request : DeviceRequest)
    {w₁ w₂ : Waiter}
    (hw : w₁.seenBy (s₁.hub.current? device) = w₂.seenBy (s₂.hub.current? device)) :
    AgreeOn device (s₁.ask client device request w₁) (s₂.ask client device request w₂) :=
  ⟨ha.hub, ha.now, by rw [lane_ask, lane_ask, ha.lane, ha.now, hw], ha.answers⟩

/-- The hub changes, and the device keeps its poll task, or has none that waits for anything. -/
theorem AgreeOn.withHub {h₁ h₂ : Hub κ} (ha : AgreeOn device s₁ s₂) (hhub : h₁.AgreeOn device h₂)
    (hlane : ({ s₁ with hub := h₁ } : Timeline κ).lane device =
      ({ s₂ with hub := h₂ } : Timeline κ).lane device) :
    AgreeOn device { s₁ with hub := h₁ } { s₂ with hub := h₂ } :=
  ⟨hhub, ha.now, hlane, ha.answers⟩

theorem lane_withHub {hub : Hub κ} (hcurrent : hub.current? device = s.hub.current? device) :
    ({ s with hub := hub } : Timeline κ).lane device = s.lane device := by
  show (s.log device).map (Query.seenBy (hub.current? device)) = _
  rw [hcurrent]
  rfl

/-! ## Turns -/

theorem AgreeOn.turn (hs₁ : Sound s₁) (ha : AgreeOn device s₁ s₂) {n₁ n₂ : Nat}
    (hn₁ : s₁.hub.current? device = some n₁) (hn₂ : s₂.hub.current? device = some n₂) :
    AgreeOn device (s₁.turn n₁) (s₂.turn n₂) := by
  obtain ⟨t, ht₁, hdevice⟩ := hs₁.wired.task?_current? hn₁
  have ht₂ : s₂.hub.task? n₂ = some t := by rw [← ha.hub.task? hn₁ hn₂, ht₁]
  have hwake : Hub.SameCall device (s₁.hub.wake n₁ s₁.now) (s₂.hub.wake n₂ s₂.now) := by
    rw [ha.now]
    exact ha.hub.wake hn₁ hn₂ s₂.now
  have hwoken : AgreeOn device { s₁ with hub := (s₁.hub.wake n₁ s₁.now).2 }
      { s₂ with hub := (s₂.hub.wake n₂ s₂.now).2 } := by
    refine ha.withHub hwake.agree ?_
    rw [lane_withHub (Hub.current?_wake ..), lane_withHub (Hub.current?_wake ..), ha.lane]
  simp only [Timeline.turn, ht₁, ht₂, hwake.answer, hdevice]
  split
  · refine hwoken.ask _ _ ?_
    simp only [Waiter.seenBy, Hub.current?_wake, hn₁, hn₂, if_true]
  · exact hwoken

/-! ## Reports -/

theorem AgreeOn.deliver (hs₁ : Sound s₁) (ha : AgreeOn device s₁ s₂) (report : Report)
    {w w₁ w₂ : Waiter} (hw₁ : w₁.seenBy (s₁.hub.current? device) = some w)
    (hw₂ : w₂.seenBy (s₂.hub.current? device) = some w) :
    AgreeOn device (s₁.deliver calendar device report w₁) (s₂.deliver calendar device report w₂) := by
  cases w₁ with
  | task n₁ =>
    simp only [Waiter.seenBy, Option.ite_none_right_eq_some, Option.some_inj] at hw₁
    obtain ⟨hn₁, rfl⟩ := hw₁
    cases w₂ with
    | task n₂ =>
      simp only [Waiter.seenBy, Option.ite_none_right_eq_some] at hw₂
      have hfinish : Hub.AgreeOn device (s₁.hub.finish n₁ s₁.now (calendar s₁.now) report)
          (s₂.hub.finish n₂ s₂.now (calendar s₂.now) report) := by
        rw [ha.now]
        exact ha.hub.finish hs₁.wired hn₁ hw₂.1 _ _ _
      refine ha.withHub hfinish ?_
      rw [lane_withHub (Hub.current?_finish ..), lane_withHub (Hub.current?_finish ..), ha.lane]
    | command | pollOnce => cases hw₂
  | command =>
    cases hw₁
    cases w₂ with
    | command =>
      have hdone := ha.hub.commandDone report
      have hcurrent (h : Hub κ) : (h.commandDone device report).2.current? device =
          h.current? device := by
        unfold Hub.commandDone
        split
        · rfl
        · exact Hub.current?_refresh h device
      simp only [Timeline.deliver, hdone.answer]
      refine AgreeOn.tell (ha.withHub hdone.agree ?_) device _
      rw [lane_withHub (hcurrent _), lane_withHub (hcurrent _), ha.lane]
    | task n₂ =>
      simp only [Waiter.seenBy, Option.ite_none_right_eq_some] at hw₂
      cases hw₂.2
    | pollOnce => cases hw₂
  | pollOnce identity schema =>
    cases hw₁
    cases w₂ with
    | pollOnce =>
      cases hw₂
      simp only [Timeline.deliver, ha.now]
      exact ha.tell device _
    | task n₂ =>
      simp only [Waiter.seenBy, Option.ite_none_right_eq_some] at hw₂
      cases hw₂.2
    | command => cases hw₂

/-- What is heard when it counts for the device. -/
theorem hear_of_heeds {number : Nat} (hheeds : s.heeds vendor device number = true) :
    ∃ (q : Query κ) (report : Report) (w₁ w : Waiter), s.report? vendor device number = some report ∧
      (s.lane device)[number]? = some (q.inquiry, some w) ∧
      w₁.seenBy (s.hub.current? device) = some w ∧
      s.hear calendar vendor device number =
        (s.withLog device ((s.log device).set number { q with waiter := none })).deliver calendar
          device report w₁ := by
  rw [heeds, Bool.and_eq_true, Option.isSome_iff_exists, Option.isSome_iff_exists] at hheeds
  obtain ⟨⟨w, hw⟩, report, hreport⟩ := hheeds
  obtain ⟨e, he, hew⟩ := Option.bind_eq_some_iff.1 hw
  rw [lane, List.getElem?_map] at he
  obtain ⟨q, hq, rfl⟩ := Option.map_eq_some_iff.1 he
  obtain ⟨w₁, hw₁, hseen⟩ := Option.bind_eq_some_iff.1 hew
  refine ⟨q, report, w₁, w, hreport, ?_, hseen, ?_⟩
  · rw [lane_getElem? hq, Query.seenBy, hw₁, Option.bind_some, hseen]
  · simp only [Timeline.hear, hq, hreport, hw₁]

theorem AgreeOn.report? {habit : Habit κ} (hv₁ : habit.Rules device v₁)
    (hv₂ : habit.Rules device v₂) (ha : AgreeOn device s₁ s₂) (number : Nat) :
    s₁.report? v₁ device number = s₂.report? v₂ device number := by
  rw [Timeline.report?, Timeline.report?, hv₁, hv₂, ha.asked, ha.now]

theorem AgreeOn.hear {habit : Habit κ} (hv₁ : habit.Rules device v₁) (hv₂ : habit.Rules device v₂)
    (hs₁ : Sound s₁) (ha : AgreeOn device s₁ s₂) {number : Nat}
    (hheeds₁ : s₁.heeds v₁ device number = true) (hheeds₂ : s₂.heeds v₂ device number = true) :
    AgreeOn device (s₁.hear calendar v₁ device number) (s₂.hear calendar v₂ device number) := by
  obtain ⟨q₁, report, w₁, w, hreport₁, hlane₁, hw₁, heq₁⟩ := hear_of_heeds hheeds₁
  obtain ⟨q₂, report₂, w₂, w', hreport₂, hlane₂, hw₂, heq₂⟩ := hear_of_heeds hheeds₂
  rw [← ha.report? hv₁ hv₂, hreport₁] at hreport₂
  rw [← ha.lane, hlane₁, Option.some_inj, Prod.mk.injEq, Option.some_inj] at hlane₂
  cases hreport₂
  obtain ⟨hinquiry, rfl⟩ := hlane₂
  rw [heq₁, heq₂]
  have hheard : AgreeOn device
      (s₁.withLog device ((s₁.log device).set number { q₁ with waiter := none }))
      (s₂.withLog device ((s₂.log device).set number { q₂ with waiter := none })) :=
    ⟨ha.hub, ha.now, by rw [lane_heard, lane_heard, ha.lane, hinquiry], ha.answers⟩
  exact hheard.deliver (hs₁.heard device number q₁) report hw₁ hw₂

/-! ## Calls -/

/-- A call leaves a device what it awaits, but nothing of a poll task that it parts the device from. -/
theorem lane_call (hs : Sound s) {a : Hub.Act κ} (hcall : a.isCall = true) :
    ({ s with hub := s.hub.step a } : Timeline κ).lane device =
      if a.parts s.hub device then
        (s.lane device).map fun e => (e.1, e.2.filter fun w => !w.isTask)
      else s.lane device := by
  show (s.log device).map (Query.seenBy ((s.hub.step a).current? device)) = _
  have hseen : ∀ q ∈ s.log device, q.seenBy ((s.hub.step a).current? device) =
      if a.parts s.hub device then
        ((q.seenBy (s.hub.current? device)).1,
          (q.seenBy (s.hub.current? device)).2.filter fun w => !w.isTask)
      else q.seenBy (s.hub.current? device) := by
    intro q hq
    cases hw : q.waiter with
    | none => simp [Query.seenBy, hw]
    | some w =>
      cases w with
      | command => simp [Query.seenBy, hw, Waiter.seenBy, Waiter.isTask, Option.filter]
      | pollOnce => simp [Query.seenBy, hw, Waiter.seenBy, Waiter.isTask, Option.filter]
      | task n =>
        have hcurrent : (s.hub.step a).current? device = some n ↔
            s.hub.current? device = some n ∧ a.parts s.hub device = false :=
          Hub.current?_call hcall (hs.lt hq hw)
        simp only [Query.seenBy, hw, Option.bind_some, Waiter.seenBy, hcurrent]
        cases a.parts s.hub device <;> by_cases hn : s.hub.current? device = some n <;>
          simp [hn, Waiter.isTask, Option.filter]
  rw [List.map_congr_left hseen]
  split
  · rw [lane, List.map_map]
    rfl
  · rfl

theorem AgreeOn.call (hs₁ : Sound s₁) (hs₂ : Sound s₂) (ha : AgreeOn device s₁ s₂)
    {a : Hub.Act κ} (hcall : a.isCall = true) (hconcerns : a.concerns device = true) :
    AgreeOn device (s₁.step calendar v₁ (.call a)) (s₂.step calendar v₂ (.call a)) := by
  obtain ⟨hanswer, hhub⟩ := ha.hub.call hs₁.wired hconcerns
  have hcalled : AgreeOn device { s₁ with hub := s₁.hub.step a }
      { s₂ with hub := s₂.hub.step a } := by
    refine ha.withHub hhub ?_
    rw [lane_call hs₁ hcall, lane_call hs₂ hcall, ha.hub.parts, ha.lane]
  simp only [Timeline.step, if_pos hcall, hanswer]
  split
  · exact hcalled.tell _ _
  · exact hcalled

/-- The same cue does the same to the device. -/
theorem AgreeOn.step {habit : Habit κ} (hv₁ : habit.Rules device v₁) (hv₂ : habit.Rules device v₂)
    (hs₁ : Sound s₁) (hs₂ : Sound s₂) (ha : AgreeOn device s₁ s₂)
    (hc₁ : s₁.cue v₁ device a₁ = some c) (hc₂ : s₂.cue v₂ device a₂ = some c) :
    AgreeOn device (s₁.step calendar v₁ a₁) (s₂.step calendar v₂ a₂) := by
  have hc₂ := cued_of_cue hc₂
  cases cued_of_cue hc₁ with
  | tick settled₁ =>
    cases hc₂ with
    | tick settled₂ =>
      simp only [Timeline.step, if_pos settled₁, if_pos settled₂]
      exact ⟨ha.hub, congrArg (· + 1) ha.now, ha.lane, ha.answers⟩
  | turn current₁ _ =>
    cases hc₂ with
    | turn current₂ _ => exact ha.turn hs₁ current₁ current₂
  | hear heeded₁ =>
    cases hc₂ with
    | hear heeded₂ => exact ha.hear hv₁ hv₂ hs₁ heeded₁ heeded₂
  | call isCall concerns =>
    cases hc₂ with
    | call => exact ha.call hs₁ hs₂ isCall concerns
  | command request =>
    cases hc₂ with
    | command =>
      simp only [Timeline.step, ha.hub.commandClient]
      split
      · exact ha.tell device _
      · exact ha.ask _ _ rfl
  | pollOnce named =>
    cases hc₂ with
    | pollOnce =>
      simp only [Timeline.step, ha.hub.resolve, named]
      split
      · exact ha.tell device _
      · exact ha.ask _ _ rfl

end Timeline

end DeviceHub
