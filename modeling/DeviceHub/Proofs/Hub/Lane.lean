import DeviceHub.Proofs.Hub.Share

/-!
# A device's lane of a timeline

What a timeline has of one device: its share of the hub, the requests about it and what operations on
it answered. An act is the device's when it moves the clock, when it is its own poll task's turn, when
a report on it is heard that counts for something, or when it is a call that concerns the device; it
has a cue then, which is the act without the number of the poll task. All other acts leave the device
as it is, but for letting it go while the hub is shut down.

* `Timeline.cue`: what an act is for a device.
* `agreeOn_of_cue_eq_none`: an act without a cue.
-/
namespace DeviceHub

variable {κ : Type}

namespace Hub

/-- Poll tasks stay, and work for whom they worked. -/
theorem Change.task? {h h' : Hub κ} (hc : Change h h') {n : Nat} {t : PollTask κ}
    (ht : h.task? n = some t) : ∃ t', h'.task? n = some t' ∧ t'.identity = t.identity := by
  cases hc with
  | alike ha =>
    obtain ⟨t', ht', hbadge⟩ := ha.task? ht
    exact ⟨t', ht', congrArg Prod.fst hbadge⟩
  | accept => exact ⟨t, by rw [task?_accept, if_neg (Nat.ne_of_lt (task?_lt ht)), ht], rfl⟩
  | refuse => exact ⟨t, ht, rfl⟩
  | dispose hd =>
    rw [task?_dispose hd, ht]
    exact ⟨_, rfl, by split <;> rfl⟩
  | absorb => exact ⟨t, by simpa [Hub.task?] using ht, rfl⟩
  | beginShutdown =>
    rw [task?_beginShutdown, ht]
    exact ⟨_, rfl, rfl⟩
  | release => exact ⟨t, ht, rfl⟩

theorem Changes.task? {h h' : Hub κ} (hc : Changes h h') {n : Nat} {t : PollTask κ}
    (ht : h.task? n = some t) : ∃ t', h'.task? n = some t' ∧ t'.identity = t.identity := by
  induction hc with
  | refl => exact ⟨t, ht, rfl⟩
  | tail _ hc ih =>
    obtain ⟨u, hu, hid⟩ := ih
    obtain ⟨t', ht', hid'⟩ := hc.task? hu
    exact ⟨t', ht', hid'.trans hid⟩

/-- The poller that a task has already. -/
theorem withPoller_self {h : Hub κ} {n : Nat} {t : PollTask κ} (ht : h.task? n = some t) :
    h.withPoller n t.poller = h := by
  have htasks : (h.tasks.modify n fun u => { u with poller := t.poller }) = h.tasks := by
    refine List.ext_getElem? fun m => ?_
    rw [List.getElem?_modify]
    by_cases hm : n = m
    · subst hm
      have ht : h.tasks[n]? = some t := ht
      simp [ht]
    · simp [hm]
  simp only [Hub.withPoller, htasks]

end Hub

/-- A waiter as a device with this poll task knows it: its own poll task has no number, and an earlier
one waits for nothing that counts. -/
def Waiter.seenBy (current : Option Nat) : Waiter → Option Waiter
  | .task n => if current = some n then some (.task 0) else none
  | .command => some .command
  | .pollOnce identity schema => some (.pollOnce identity schema)

def Query.seenBy (current : Option Nat) (q : Query κ) : Inquiry κ × Option Waiter :=
  (q.inquiry, q.waiter.bind (Waiter.seenBy current))

namespace Timeline

variable {calendar : Nat → Instant} {vendor : Vendor κ} {s s' s₁ s₂ : Timeline κ}
  {device other : String}

/-! ## Logs -/

@[simp] theorem log_withLog (s : Timeline κ) (other device : String) (log : List (Query κ)) :
    (s.withLog other log).log device = if other = device then log else s.log device := by
  simp only [withLog, Timeline.log, Dict.get?_insert]
  split <;> rfl

theorem log_ask (s : Timeline κ) (client : Client κ) (other device : String)
    (request : DeviceRequest) (waiter : Waiter) :
    (s.ask client other request waiter).log device =
      if other = device then s.log device ++ [⟨⟨s.now, client, request⟩, some waiter⟩]
      else s.log device := by
  rw [ask, log_withLog]
  split
  · next hdevice => rw [hdevice]
  · rfl

@[simp] theorem answersOf_tell (s : Timeline κ) (other device : String) (a : Answer) :
    (s.tell other a).answersOf device =
      if other = device then (s.now, a) :: s.answersOf device else s.answersOf device := by
  simp only [tell, answersOf, Dict.get?_insert]
  split
  · next hdevice => rw [hdevice]; rfl
  · rfl

/-! ## What always holds -/

/-- The hub is one that can come about, and poll tasks wait for reports on their own devices only. -/
structure Sound (s : Timeline κ) : Prop where
  reachable : s.hub.Reachable
  owns : ∀ device, ∀ q ∈ s.log device, ∀ n, q.waiter = some (.task n) →
    ∃ t, s.hub.task? n = some t ∧ t.identity.device = device

theorem Sound.wired (hs : Sound s) : s.hub.Wired := hs.reachable.wired

theorem Sound.lt (hs : Sound s) {q : Query κ} (hq : q ∈ s.log device) {n : Nat}
    (hn : q.waiter = some (.task n)) : n < s.hub.tasks.length := by
  obtain ⟨t, ht, -⟩ := hs.owns device q hq n hn
  exact Hub.task?_lt ht

theorem Sound.withHub (hs : Sound s) {hub : Hub κ} (hc : s.hub.Changes hub) :
    Sound { s with hub := hub } := by
  obtain ⟨schemas, hr⟩ := hs.reachable
  refine ⟨⟨schemas, hr.trans hc⟩, fun device q hq n hn => ?_⟩
  obtain ⟨t, ht, hdevice⟩ := hs.owns device q hq n hn
  obtain ⟨t', ht', hid⟩ := hc.task? ht
  exact ⟨t', ht', by rw [hid, hdevice]⟩

theorem Sound.tell (hs : Sound s) (device : String) (a : Answer) : Sound (s.tell device a) :=
  ⟨hs.reachable, hs.owns⟩

/-- A log may get requests for which only poll tasks of its device wait. -/
theorem Sound.withLog (hs : Sound s) {log : List (Query κ)}
    (hlog : ∀ q ∈ log, ∀ n, q.waiter = some (.task n) →
      q ∈ s.log device ∨ ∃ t, s.hub.task? n = some t ∧ t.identity.device = device) :
    Sound (s.withLog device log) := by
  refine ⟨hs.reachable, fun d q hq n hn => ?_⟩
  rw [log_withLog] at hq
  split at hq
  · next hdevice =>
    subst hdevice
    rcases hlog q hq n hn with hold | hown
    · exact hs.owns device q hold n hn
    · exact hown
  · exact hs.owns d q hq n hn

theorem Sound.ask (hs : Sound s) (client : Client κ) (device : String) (request : DeviceRequest)
    {waiter : Waiter} (hw : ∀ n, waiter = .task n →
      ∃ t, s.hub.task? n = some t ∧ t.identity.device = device) :
    Sound (s.ask client device request waiter) := by
  refine hs.withLog fun q hq n hn => ?_
  rcases List.mem_append.1 hq with hq | hq
  · exact .inl hq
  · rw [List.mem_singleton.1 hq, Option.some_inj] at hn
    exact .inr (hw n hn)

theorem Sound.turn (hs : Sound s) (n : Nat) : Sound (s.turn n) := by
  unfold Timeline.turn
  split
  · exact hs
  · next t ht =>
    have hc : s.hub.Changes (s.hub.wake n s.now).2 := .single (.alike (Hub.alike_wake s.hub n s.now))
    have hwake := hs.withHub hc
    simp only
    split
    · refine hwake.ask _ _ _ fun m hm => ?_
      cases hm
      obtain ⟨t', ht', hid⟩ := hc.task? ht
      exact ⟨t', ht', by rw [hid]⟩
    · exact hwake

theorem Sound.deliver (hs : Sound s) (device : String) (report : Report) (waiter : Waiter) :
    Sound (s.deliver calendar device report waiter) := by
  cases waiter with
  | task n => exact hs.withHub (Hub.changes_finish n _ _ report.2)
  | command =>
    exact (hs.withHub (Hub.changes_step s.hub (.commandDone device report))).tell _ _
  | pollOnce identity schema => exact hs.tell _ _

theorem Sound.heard (hs : Sound s) (device : String) (number : Nat) (q : Query κ) :
    Sound (s.withLog device ((s.log device).set number { q with waiter := none })) := by
  refine hs.withLog fun q' hq' n hn => .inl ?_
  rcases List.mem_or_eq_of_mem_set hq' with hq' | rfl
  · exact hq'
  · cases hn

theorem Sound.hear (hs : Sound s) (device : String) (number : Nat) :
    Sound (s.hear calendar vendor device number) := by
  unfold Timeline.hear
  split
  · next q report _ _ =>
    split
    · exact (hs.heard device number q).deliver device report _
    · exact hs
  · exact hs

theorem Sound.step (hs : Sound s) (a : Act κ) : Sound (s.step calendar vendor a) := by
  cases a with
  | tick =>
    simp only [Timeline.step]
    split
    · exact ⟨hs.reachable, hs.owns⟩
    · exact hs
  | turn n => exact hs.turn n
  | hear device number => exact hs.hear device number
  | call a =>
    have hcalled := hs.withHub (Hub.changes_step s.hub a)
    simp only [Timeline.step]
    split
    · split
      · exact hcalled.tell _ _
      · exact hcalled
    · exact hs
  | command device request =>
    simp only [Timeline.step]
    split
    · exact hs.tell _ _
    · exact hs.ask _ _ _ fun n hn => by cases hn
  | pollOnce c =>
    simp only [Timeline.step]
    split
    · exact hs.tell _ _
    · exact hs.ask _ _ _ fun n hn => by cases hn

theorem sound_new (schemas : SchemaRegistry) : Sound (new schemas : Timeline κ) := by
  refine ⟨⟨schemas, .refl⟩, fun device q hq => ?_⟩
  have hlog : (new schemas : Timeline κ).log device = [] := rfl
  rw [hlog] at hq
  cases hq

/-! ## Lanes -/

/-- The requests about a device, and who waits for a report that counts for the device. -/
def lane (s : Timeline κ) (device : String) : List (Inquiry κ × Option Waiter) :=
  (s.log device).map (Query.seenBy (s.hub.current? device))

/-- Two timelines have the same of a device. -/
structure AgreeOn (device : String) (s₁ s₂ : Timeline κ) : Prop where
  hub : s₁.hub.AgreeOn device s₂.hub
  now : s₁.now = s₂.now
  lane : s₁.lane device = s₂.lane device
  answers : s₁.answersOf device = s₂.answersOf device

theorem AgreeOn.refl (device : String) (s : Timeline κ) : AgreeOn device s s :=
  ⟨.refl device s.hub, rfl, rfl, rfl⟩

theorem AgreeOn.symm (ha : AgreeOn device s₁ s₂) : AgreeOn device s₂ s₁ :=
  ⟨ha.hub.symm, ha.now.symm, ha.lane.symm, ha.answers.symm⟩

theorem AgreeOn.trans {s₃ : Timeline κ} (ha : AgreeOn device s₁ s₂) (hb : AgreeOn device s₂ s₃) :
    AgreeOn device s₁ s₃ :=
  ⟨ha.hub.trans hb.hub, ha.now.trans hb.now, ha.lane.trans hb.lane, ha.answers.trans hb.answers⟩

theorem asked_eq (s : Timeline κ) (device : String) :
    s.asked device = (s.lane device).map Prod.fst := by
  simp [asked, lane, Query.seenBy, Function.comp_def]

theorem AgreeOn.asked (ha : AgreeOn device s₁ s₂) : s₁.asked device = s₂.asked device := by
  rw [asked_eq, asked_eq, ha.lane]

/-- Whether the device's poll task can do something now. -/
def isReady (s : Timeline κ) (device : String) : Bool :=
  (s.hub.ownTask? device).any fun t => t.poller.isReady s.now

/-- Whether somebody waits for a report that counts for the device and is there. -/
def heeds (vendor : Vendor κ) (s : Timeline κ) (device : String) (number : Nat) : Bool :=
  ((s.lane device)[number]?.bind Prod.snd).isSome && (s.report? vendor device number).isSome

/-- What an act is for a device: nothing, or the act without the number of the poll task. -/
def cue (vendor : Vendor κ) (device : String) (s : Timeline κ) : Act κ → Option (Act κ)
  | .tick => if s.isSettled vendor then some .tick else none
  | .turn n =>
    if s.hub.current? device = some n ∧ s.isReady device = true then some (.turn 0) else none
  | .hear d number =>
    if d = device ∧ s.heeds vendor device number = true then some (.hear d number) else none
  | .call a => if a.isCall && a.concerns device then some (.call a) else none
  | .command d request => if d = device then some (.command d request) else none
  | .pollOnce c => if c.identity.device = device then some (.pollOnce c) else none

/-! ## Acts without a cue -/

/-- Nothing that counts for the device has changed. -/
theorem agreeOn_of_untouched (hs : Sound s) (hu : s.hub.Untouched device s'.hub)
    (hnow : s'.now = s.now) (hlog : s'.log device = s.log device)
    (hanswers : s'.answersOf device = s.answersOf device) : AgreeOn device s s' :=
  ⟨hu.agreeOn hs.wired, hnow.symm, by rw [lane, lane, hu.current?, hlog], hanswers.symm⟩

theorem wake_of_not_isReady {h : Hub κ} {n time : Nat} {t : PollTask κ} (ht : h.task? n = some t)
    (hready : t.poller.isReady time = false) : h.wake n time = (false, h) := by
  simp only [Hub.wake, ht, Poller.wake_of_not_isReady hready, Hub.withPoller_self ht]

theorem agreeOn_turn (hs : Sound s) {n : Nat}
    (hn : s.hub.current? device = some n → s.isReady device = false) :
    AgreeOn device s (s.turn n) := by
  unfold Timeline.turn
  cases ht : s.hub.task? n with
  | none => exact .refl device s
  | some t =>
    by_cases hcurrent : s.hub.current? device = some n
    · have hready : t.poller.isReady s.now = false := by
        have hown : s.hub.ownTask? device = some t := by rw [Hub.ownTask?, hcurrent]; exact ht
        simpa [isReady, hown] using hn hcurrent
      simp only [wake_of_not_isReady ht hready]
      exact .refl device s
    · have hu := Hub.untouched_wake hcurrent s.now
      simp only
      split
      · next hstarts =>
        -- a task that starts a cycle is not cancelled, so it is in charge of its device
        have hlive : t.poller.isCancelled = false := by
          rw [← Bool.not_eq_true]
          intro hcancelled
          have hidle := t.poller.wake_of_isCancelled s.now hcancelled
          simp [Hub.wake, ht, hidle] at hstarts
        have hne : t.identity.device ≠ device := by
          rintro rfl
          exact hcurrent (hs.wired.current?_of_live ht hlive)
        exact agreeOn_of_untouched hs hu rfl (by rw [log_ask, if_neg hne]; rfl) rfl
      · exact agreeOn_of_untouched hs hu rfl rfl rfl

theorem agreeOn_deliver (hs : Sound s) (report : Report) {waiter : Waiter}
    (hne : (∀ n, waiter ≠ .task n) → other ≠ device)
    (hn : ∀ n, waiter = .task n → s.hub.current? device ≠ some n) :
    AgreeOn device s (s.deliver calendar other report waiter) := by
  cases waiter with
  | task n =>
    exact agreeOn_of_untouched hs (Hub.untouched_finish hs.wired (hn n rfl) _ _ _) rfl rfl rfl
  | command =>
    have hne : other ≠ device := hne nofun
    refine agreeOn_of_untouched hs (Hub.untouched_commandDone hs.wired hne report) rfl rfl ?_
    simp only [Timeline.deliver, answersOf_tell, if_neg hne]
    rfl
  | pollOnce identity schema =>
    have hne : other ≠ device := hne nofun
    refine agreeOn_of_untouched hs (.refl device s.hub) rfl rfl ?_
    simp only [Timeline.deliver, answersOf_tell, if_neg hne]

/-- Only an earlier poll task of the device waits for what does not count. -/
theorem seenBy_eq_none {current : Option Nat} {waiter : Waiter}
    (hw : waiter.seenBy current = none) : ∃ n, waiter = .task n ∧ current ≠ some n := by
  cases waiter with
  | task n => exact ⟨n, rfl, fun hn => by simp [Waiter.seenBy, hn] at hw⟩
  | command | pollOnce => cases hw

theorem lane_getElem? {number : Nat} {q : Query κ} (hq : (s.log device)[number]? = some q) :
    (s.lane device)[number]? = some (q.seenBy (s.hub.current? device)) := by
  rw [lane, List.getElem?_map, hq, Option.map_some]

/-- Nobody waits any more at one place of the lane. -/
theorem lane_heard (number : Nat) (q : Query κ) :
    (s.withLog device ((s.log device).set number { q with waiter := none })).lane device =
      (s.lane device).set number (q.inquiry, none) := by
  rw [lane, log_withLog, if_pos rfl, List.map_set]
  rfl

theorem agreeOn_hear (hs : Sound s) {number : Nat}
    (hheeds : other = device → s.heeds vendor device number = false) :
    AgreeOn device s (s.hear calendar vendor other number) := by
  unfold Timeline.hear
  split
  · next q report hq hreport =>
    split
    · next waiter hwaiter =>
      have hheard := hs.heard other number q
      by_cases hdevice : other = device
      · subst hdevice
        have hnone : waiter.seenBy (s.hub.current? other) = none := by
          have hidle := hheeds rfl
          rw [heeds, hreport, lane_getElem? hq] at hidle
          simpa [Query.seenBy, hwaiter] using hidle
        obtain ⟨n, rfl, hn⟩ := seenBy_eq_none hnone
        have hlane : (s.lane other).set number (q.inquiry, none) = s.lane other := by
          have hsame : (q.inquiry, none) = q.seenBy (s.hub.current? other) := by
            simp [Query.seenBy, hwaiter, hnone]
          rw [hsame]
          obtain ⟨hlt, heq⟩ := List.getElem?_eq_some_iff.1 (lane_getElem? hq)
          rw [← heq, List.set_getElem_self]
        have hfirst : AgreeOn other s
            (s.withLog other ((s.log other).set number { q with waiter := none })) :=
          ⟨.refl other s.hub, rfl, by rw [lane_heard, hlane], rfl⟩
        refine hfirst.trans (agreeOn_deliver hheard report (fun hne => absurd rfl (hne n)) ?_)
        rintro m hm
        cases hm
        exact hn
      · have hfirst : AgreeOn device s
            (s.withLog other ((s.log other).set number { q with waiter := none })) :=
          agreeOn_of_untouched hs (.refl device s.hub) rfl (by rw [log_withLog, if_neg hdevice]) rfl
        refine hfirst.trans (agreeOn_deliver hheard report (fun _ => hdevice) fun n hn hcurrent => ?_)
        -- the task waits for a report on its own device, which is the other one
        have hmem : q ∈ s.log other := List.mem_of_getElem? hq
        obtain ⟨t, ht, hother⟩ := hs.owns other q hmem n (hwaiter.trans (congrArg some hn))
        obtain ⟨u, hu, hown⟩ := hs.wired.task?_current? hcurrent
        rw [ht] at hu
        cases hu
        exact hdevice (hother.symm.trans hown)
    · exact .refl device s
  · exact .refl device s

/-- A call that does not concern the device answers nothing about it. -/
theorem answer?_ne {h : Hub κ} {a : Hub.Act κ} (hconcerns : a.concerns device = false)
    {answer : Answer} (ha : h.answer? a = some (other, answer)) : other ≠ device := by
  cases a with
  | enroll | dispose | restart | update | refresh =>
    simp only [Hub.answer?, Option.some.injEq, Prod.mk.injEq] at ha
    exact ha.1 ▸ of_decide_eq_false hconcerns
  | _ => cases ha

theorem agreeOn_call (hs : Sound s) {a : Hub.Act κ}
    (hcue : (a.isCall && a.concerns device) = false) (hkept : a ≠ .release device) :
    AgreeOn device s (s.step calendar vendor (.call a)) := by
  simp only [Timeline.step]
  split
  · next hcall =>
    have hconcerns : a.concerns device = false := by simpa [hcall] using hcue
    have hu := Hub.untouched_call hs.wired hcall hconcerns hkept
    split
    · next other answer hanswer =>
      have hne := answer?_ne hconcerns hanswer
      exact agreeOn_of_untouched hs hu rfl rfl (by rw [answersOf_tell, if_neg hne]; rfl)
    · exact agreeOn_of_untouched hs hu rfl rfl rfl
  · exact .refl device s

theorem agreeOn_tell_of_ne (hs : Sound s) (hne : other ≠ device) (answer : Answer) :
    AgreeOn device s (s.tell other answer) :=
  agreeOn_of_untouched hs (.refl device s.hub) rfl rfl (by rw [answersOf_tell, if_neg hne])

theorem agreeOn_ask_of_ne (hs : Sound s) (hne : other ≠ device) (client : Client κ)
    (request : DeviceRequest) (waiter : Waiter) :
    AgreeOn device s (s.ask client other request waiter) :=
  agreeOn_of_untouched hs (.refl device s.hub) rfl (by rw [log_ask, if_neg hne]) rfl

/-- An act without a cue leaves the device as it is, unless the device is let go. -/
theorem agreeOn_of_cue_eq_none (hs : Sound s) {a : Act κ} (hcue : s.cue vendor device a = none)
    (hkept : a ≠ .call (.release device)) : AgreeOn device s (s.step calendar vendor a) := by
  cases a with
  | tick =>
    have hunsettled : ¬s.isSettled vendor = true := by simpa [cue] using hcue
    rw [Timeline.step, if_neg hunsettled]
    exact .refl device s
  | turn n => exact agreeOn_turn hs fun hn => by simpa [cue, hn] using hcue
  | hear d number => exact agreeOn_hear hs fun hd => by simpa [cue, hd] using hcue
  | call a =>
    exact agreeOn_call hs (by simpa [cue] using hcue) fun ha => hkept (congrArg Act.call ha)
  | command d request =>
    have hne : d ≠ device := by simpa [cue] using hcue
    simp only [Timeline.step]
    split
    · exact agreeOn_tell_of_ne hs hne _
    · exact agreeOn_ask_of_ne hs hne _ _ _
  | pollOnce c =>
    have hne : c.identity.device ≠ device := by simpa [cue] using hcue
    simp only [Timeline.step]
    split
    · exact agreeOn_tell_of_ne hs hne _
    · exact agreeOn_ask_of_ne hs hne _ _ _

end Timeline

end DeviceHub
