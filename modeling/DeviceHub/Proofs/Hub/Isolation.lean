import DeviceHub.Proofs.Hub.Film
import DeviceHub.Proofs.Hub.WindDown

/-!
# Devices do not influence each other

Devices share a hub: its bridges, its clock, its store, its health tracker and its listeners. Still a
device is seen the same in every two runs that do the same with it, whatever happens to the others, be
they polled, suspended, refused, disposed of or commanded.

Shutting down is the exception. A shutdown lets one device go after the other, each when those before it
are at rest, so a cycle of another device decides for how long a device is still registered. What was told
of it and what is kept of it does not depend on that.

* `isolated`: two runs that follow the same script for a device, and what is left of that once both were
  shut down.
* `apart_in_turns_and_shutdown`: what comes first at one time, and a device that one run has let go and
  the other has not, are seen.
-/
namespace DeviceHub

variable {κ : Type}

namespace Hub

variable {h h' : Hub κ} {device : String} {a : Act κ}

/-! ## Hubs that were shut down -/

/-- A call that disposes of a registered device leaves nothing of it when the hub was shut down. -/
theorem gone_of_disposes (hshut : h.isShutDown = true)
    (hd : h.devices.contains device = true) (ha : a.disposes device = true) :
    (h.step a).devices.contains device = false ∧ Dict.get? (h.step a).health device = none ∧
      (h.step a).store.get? device = none := by
  obtain ⟨entry, hd⟩ := Option.isSome_iff_exists.1 hd
  have hrefused (c : DeviceConfig) :
      ((h.dispose device).2.enroll c).2 = (h.dispose device).2 := by
    rw [enroll_of_isShutDown (windsDown_dispose hshut device).isShutDown]
  have hstep : h.step a = (h.dispose device).2 := by
    cases a with
    | dispose d =>
      obtain rfl : d = device := of_decide_eq_true ha
      rfl
    | restart d =>
      obtain rfl : d = device := of_decide_eq_true ha
      simp only [step, restart, hd, hrefused]
    | update c =>
      obtain rfl : c.identity.device = device := of_decide_eq_true ha
      exact hrefused c
    | _ => cases ha
  rw [hstep]
  refine ⟨?_, ?_, ?_⟩
  · simp [Dict.contains, get?_devices_dispose hd]
  · rw [dispose_eq hd, HealthTracker.get?_remove, if_pos rfl]
  · rw [dispose_eq hd, SnapshotStore.get?_remove, if_pos rfl]

/-- What an operation answers about a device that is not registered in a hub that was shut down. -/
def refusalOf (device : String) : Act κ → Option (String × Answer)
  | .enroll _ | .update _ => some (device, .done (.error .shutDown))
  | .dispose _ | .restart _ => some (device, .done (.error (.unknownDevice device)))
  | .refresh _ => some (device, .refreshed (.error (.unknownDevice device)))
  | _ => none

theorem answer?_of_gone (hshut : h.isShutDown = true) (hgone : h.devices.contains device = false)
    (ha : a.concerns device = true) : h.answer? a = refusalOf device a := by
  have hd : h.devices.get? device = none := by simpa [Dict.contains] using hgone
  cases a with
  | attach | register | beginShutdown => rfl
  | enroll c =>
    obtain rfl : c.identity.device = device := of_decide_eq_true ha
    simp only [answer?, enroll_of_isShutDown hshut, refusalOf]
  | dispose d =>
    obtain rfl : d = device := of_decide_eq_true ha
    simp only [answer?, dispose, hd, refusalOf]
  | restart d =>
    obtain rfl : d = device := of_decide_eq_true ha
    simp only [answer?, restart, hd, refusalOf]
  | update c =>
    obtain rfl : c.identity.device = device := of_decide_eq_true ha
    simp only [answer?, update, dispose, hd, enroll_of_isShutDown hshut, refusalOf]
  | refresh d =>
    obtain rfl : d = device := of_decide_eq_true ha
    simp only [answer?, refresh, hd, refusalOf]
  | _ => cases ha

end Hub

namespace Timeline

variable {calendar : Nat → Instant} {vendor v₁ v₂ : Vendor κ} {s : Timeline κ} {device : String}
  {a : Act κ} {acts : List (Act κ)}

/-! ## Timelines that were shut down -/

/-- What an act can do to the hub. -/
inductive HubStep (calendar : Nat → Instant) (s : Timeline κ) (a : Act κ) : Hub κ → Prop where
  | none : HubStep calendar s a s.hub
  | wake (n : Nat) : HubStep calendar s a (s.hub.wake n s.now).2
  | finish (n : Nat) (report : Report) :
      HubStep calendar s a (s.hub.finish n s.now (calendar s.now) report)
  | commandDone (other : String) (report : Report) :
      HubStep calendar s a (s.hub.step (.commandDone other report))
  | call {b : Hub.Act κ} (ha : a = .call b) (hcall : b.isCall = true) :
      HubStep calendar s a (s.hub.step b)

theorem hubStep (calendar : Nat → Instant) (vendor : Vendor κ) (s : Timeline κ) (a : Act κ) :
    HubStep calendar s a (s.step calendar vendor a).hub := by
  cases a with
  | tick =>
    simp only [step]
    split <;> exact .none
  | turn n =>
    simp only [step, turn]
    split
    · exact .none
    · split <;> exact .wake n
  | hear other number =>
    simp only [step, hear]
    split
    · next report _ _ =>
      split
      · next waiter _ =>
        cases waiter with
        | task n => exact .finish n report
        | command => exact .commandDone other report
        | pollOnce => exact .none
      · exact .none
    · exact .none
  | call b =>
    simp only [step]
    split
    · next hcall => split <;> exact .call rfl hcall
    · exact .none
  | command other request =>
    simp only [step]
    split <;> exact .none
  | pollOnce c =>
    simp only [step]
    split <;> exact .none

/-- Whether an act disposes of a device that is registered. -/
def Act.disposes (device : String) (h : Hub κ) : Act κ → Bool
  | .call b => b.disposes device && h.devices.contains device
  | _ => false

/-- Whether a device that is registered is disposed of in a run. -/
def isDisposed (calendar : Nat → Instant) (vendor : Vendor κ) (device : String) :
    Timeline κ → List (Act κ) → Bool
  | _, [] => false
  | s, a :: acts =>
    a.disposes device s.hub || isDisposed calendar vendor device (s.step calendar vendor a) acts

theorem Sound.run (hs : Sound s) (acts : List (Act κ)) : Sound (s.run calendar vendor acts) := by
  induction acts generalizing s with
  | nil => exact hs
  | cons a acts ih => exact ih (hs.step a)

section

variable (hs : Sound s) (hshut : s.hub.isShutDown = true)

include hs hshut

/-- Whatever happens to a hub that was shut down, it winds down. -/
theorem windsDown_step (a : Act κ) : s.hub.WindsDown (s.step calendar vendor a).hub := by
  have hcases := hubStep calendar vendor s a
  generalize (s.step calendar vendor a).hub = h at hcases ⊢
  cases hcases with
  | none => exact Hub.windsDown_refl hshut
  | wake n => exact Hub.windsDown_wake hs.wired hshut n s.now
  | finish n report => exact Hub.windsDown_finish hs.wired hshut n _ _ _
  | commandDone => exact Hub.windsDown_step hs.wired hshut rfl
  | @call b _ _ =>
    cases hb : b.closes with
    | false => exact Hub.windsDown_step hs.wired hshut hb
    | true =>
      cases b with
      | beginShutdown => exact s.hub.windsDown_beginShutdown
      | release d =>
        rw [Hub.step, if_pos hshut]
        exact Hub.windsDown_release hshut d
      | _ => cases hb

theorem windsDown_run (acts : List (Act κ)) : s.hub.WindsDown (s.run calendar vendor acts).hub := by
  induction acts generalizing s with
  | nil => exact Hub.windsDown_refl hshut
  | cons a acts ih =>
    have hstep : s.hub.WindsDown (s.step calendar vendor a).hub := windsDown_step hs hshut a
    exact hstep.trans (ih (hs.step a) hstep.isShutDown)

/-- What a device reported stays, unless it is disposed of. -/
theorem kept_step (hkept : a.disposes device s.hub = false) :
    Dict.get? (s.step calendar vendor a).hub.health device = Dict.get? s.hub.health device ∧
      (s.step calendar vendor a).hub.store.get? device = s.hub.store.get? device := by
  have hcases := hubStep calendar vendor s a
  generalize (s.step calendar vendor a).hub = h at hcases ⊢
  have hspared {h : Hub κ} (h' : s.hub.Spared device h) := And.intro h'.health h'.snapshot
  cases hcases with
  | none => exact ⟨rfl, rfl⟩
  | wake n => exact hspared (Hub.spared_of_alike (Hub.alike_wake s.hub n s.now))
  | finish n report => exact hspared (Hub.spared_finish hs.wired hshut n _ _ _)
  | commandDone => exact hspared (Hub.spared_step hs.wired hshut rfl (.inl rfl))
  | @call b ha _ =>
    subst ha
    cases hb : b.closes with
    | false => exact hspared (Hub.spared_step hs.wired hshut hb (Bool.and_eq_false_iff.1 hkept))
    | true =>
      cases b with
      | beginShutdown => exact ⟨rfl, rfl⟩
      | release d =>
        rw [Hub.step, if_pos hshut]
        exact ⟨rfl, rfl⟩
      | _ => cases hb

/-- What is left of a device's reports is what there was at the shutdown, or nothing if the device was
disposed of. -/
theorem kept_run (acts : List (Act κ)) :
    Dict.get? (s.run calendar vendor acts).hub.health device =
        (if s.isDisposed calendar vendor device acts then none else Dict.get? s.hub.health device) ∧
      (s.run calendar vendor acts).hub.store.get? device =
        if s.isDisposed calendar vendor device acts then none else s.hub.store.get? device := by
  induction acts generalizing s with
  | nil => exact ⟨rfl, rfl⟩
  | cons a acts ih =>
    have hdown : s.hub.WindsDown (s.step calendar vendor a).hub := windsDown_step hs hshut a
    have hrest := ih (hs.step a) hdown.isShutDown
    cases hd : a.disposes device s.hub with
    | false =>
      rw [(kept_step hs hshut hd).1, (kept_step hs hshut hd).2] at hrest
      simpa only [isDisposed, hd, Bool.false_or, run, List.foldl_cons] using hrest
    | true =>
      cases a with
      | call b =>
        obtain ⟨hb, hregistered⟩ := Bool.and_eq_true_iff.1 hd
        have hcall : b.isCall = true := by
          cases b with
          | dispose | restart | update => rfl
          | _ => cases hb
        have hstep : (s.step calendar vendor (.call b)).hub = s.hub.step b := by
          simp only [step, if_pos hcall]
          split <;> rfl
        obtain ⟨-, hhealth, hstore⟩ := Hub.gone_of_disposes hshut hregistered hb
        rw [hstep, hhealth, hstore, ite_self, ite_self] at hrest
        simpa only [isDisposed, hd, Bool.true_or, if_true, run, List.foldl_cons] using hrest
      | _ => cases hd

end

/-! ## Runs up to a shutdown -/

theorem run_concat (s : Timeline κ) (acts : List (Act κ)) (a : Act κ) :
    s.run calendar vendor (acts ++ [a]) = (s.run calendar vendor acts).step calendar vendor a := by
  simp only [run, List.foldl_append, List.foldl_cons, List.foldl_nil]

theorem cues_append (s : Timeline κ) (acts acts' : List (Act κ)) :
    s.cues calendar vendor device (acts ++ acts') =
      s.cues calendar vendor device acts ++
        (s.run calendar vendor acts).cues calendar vendor device acts' := by
  induction acts generalizing s with
  | nil => rfl
  | cons a acts ih => simp only [List.cons_append, cues, ih, List.append_assoc, run, List.foldl_cons]

theorem last_isScripted_closed (s : Timeline κ) (acts : List (Act κ)) :
    (s.cues calendar vendor device (acts ++ [.call .beginShutdown])).getLast?.all Act.isScripted =
      true := by
  rw [cues_append]
  have hlast (s : Timeline κ) :
      s.cues calendar vendor device [.call .beginShutdown] = [.call .beginShutdown] := rfl
  rw [hlast, List.getLast?_concat]
  rfl

theorem isShutDown_closed (s : Timeline κ) (acts : List (Act κ)) :
    (s.run calendar vendor (acts ++ [.call .beginShutdown])).hub.isShutDown = true := by
  rw [run_concat]
  rfl

/-! ## Two runs -/

/-- A device is seen the same in two runs. -/
structure SeenAlike (calendar : Nat → Instant) (v₁ v₂ : Vendor κ) (device : String) (s : Timeline κ)
    (acts₁ acts₂ : List (Act κ)) : Prop where
  /-- What listeners are told of it, its health, its snapshot and its poll state, at all times. -/
  film : s.film calendar v₁ device acts₁ = s.film calendar v₂ device acts₂
  /-- What the operations on it answer, and when. -/
  answers : (s.run calendar v₁ acts₁).answersOf device = (s.run calendar v₂ acts₂).answersOf device
  /-- What is asked about it, and when. -/
  asked : (s.run calendar v₁ acts₁).asked device = (s.run calendar v₂ acts₂).asked device

/-- Two timelines that were shut down have the same left of a device, which may have been disposed of in
them since. -/
structure LeftAlike (device : String) (disposed₁ disposed₂ : Bool) (s₁ s₂ : Timeline κ) : Prop where
  told : s₁.hub.told device = s₂.hub.told device
  kept : disposed₁ = disposed₂ →
    Dict.get? s₁.hub.health device = Dict.get? s₂.hub.health device ∧
      s₁.hub.store.get? device = s₂.hub.store.get? device
  /-- When both have let it go, operations on it answer the same. -/
  gone : s₁.hub.devices.contains device = false → s₂.hub.devices.contains device = false →
    s₁.hub.pollState? device = s₂.hub.pollState? device ∧
      s₁.hub.commandClient device = s₂.hub.commandClient device ∧
      ∀ a : Hub.Act κ, a.concerns device = true → s₁.hub.answer? a = s₂.hub.answer? a

theorem leftAlike {c₁ c₂ : Timeline κ} (hs₁ : Sound c₁) (hs₂ : Sound c₂)
    (hshut₁ : c₁.hub.isShutDown = true) (ha : AgreeOn device c₁ c₂) (rest₁ rest₂ : List (Act κ)) :
    LeftAlike device (c₁.isDisposed calendar v₁ device rest₁) (c₂.isDisposed calendar v₂ device rest₂)
      (c₁.run calendar v₁ rest₁) (c₂.run calendar v₂ rest₂) := by
  have hshut₂ : c₂.hub.isShutDown = true := ha.hub.isShutDown ▸ hshut₁
  have hdown₁ : c₁.hub.WindsDown (c₁.run calendar v₁ rest₁).hub := windsDown_run hs₁ hshut₁ rest₁
  have hdown₂ : c₂.hub.WindsDown (c₂.run calendar v₂ rest₂).hub := windsDown_run hs₂ hshut₂ rest₂
  refine ⟨?_, fun hdisposed => ?_, fun hgone₁ hgone₂ => ⟨?_, ?_, fun a hconcerns => ?_⟩⟩
  · have htold : c₁.hub.told device = c₂.hub.told device := ha.hub.told
    unfold Hub.told at htold ⊢
    rw [hdown₁.journal, hdown₂.journal, htold]
  · rw [(kept_run hs₁ hshut₁ rest₁).1, (kept_run hs₁ hshut₁ rest₁).2, (kept_run hs₂ hshut₂ rest₂).1,
      (kept_run hs₂ hshut₂ rest₂).2, hdisposed, ha.hub.health, ha.hub.snapshot]
    exact ⟨rfl, rfl⟩
  · simp only [Hub.contains_eq, Option.isSome_eq_false_iff, Option.isNone_iff_eq_none] at hgone₁ hgone₂
    rw [Hub.pollState?_eq, Hub.pollState?_eq, hgone₁, hgone₂]
    rfl
  · simp only [Dict.contains, Option.isSome_eq_false_iff, Option.isNone_iff_eq_none] at hgone₁ hgone₂
    simp only [Hub.commandClient, hgone₁, hgone₂]
  · rw [Hub.answer?_of_gone hdown₁.isShutDown hgone₁ hconcerns,
      Hub.answer?_of_gone hdown₂.isShutDown hgone₂ hconcerns]

/-- For every device and every two runs of a hub: if both do the same with the device, that is the same
operations on it, the same changes of bridges and the same shutdown at the same times, and if what is
reported on the device depends in both on nothing but the requests about it, and in the same way, then
the device is seen the same at all times, in the order of all changes: what listeners are told of it,
its health, its snapshot and its poll state. The operations on it answer the same at the same times, and
the same is asked about it at the same times. The runs may differ in all else: in operations on other
devices, in what is reported on those, and in the order of all that happens to them. What comes first
when operations on the device, reports on it and turns of its poll task fall on one time is the script's
to say; the times of reports and turns are not.

That is so up to any time at which no shutdown has let go of the device in either run, and nothing is left
to do for it, and up to the call that shuts the hub down. From the call on, whatever either run does,
listeners are told the same of the device, its health and its snapshot are the same unless one run alone
has disposed of it while it was registered, and once both have let it go, its poll state is the same and
operations on it answer the same. -/
theorem isolated (schemas : SchemaRegistry) {device : String} {habit : Habit κ} {v₁ v₂ : Vendor κ}
    (hv₁ : habit.Rules device v₁) (hv₂ : habit.Rules device v₂) (acts₁ acts₂ : List (Act κ))
    (hkept₁ : .call (.release device) ∉ acts₁) (hkept₂ : .call (.release device) ∉ acts₂) :
    let s : Timeline κ := new schemas
    let closed₁ := acts₁ ++ [.call .beginShutdown]
    let closed₂ := acts₂ ++ [.call .beginShutdown]
    let c₁ := s.run calendar v₁ closed₁
    let c₂ := s.run calendar v₂ closed₂
    (script 0 0 (s.cues calendar v₁ device acts₁) = script 0 0 (s.cues calendar v₂ device acts₂) →
      (s.run calendar v₁ acts₁).now = (s.run calendar v₂ acts₂).now →
      (s.run calendar v₁ acts₁).isStill v₁ device = true →
      (s.run calendar v₂ acts₂).isStill v₂ device = true →
      SeenAlike calendar v₁ v₂ device s acts₁ acts₂) ∧
    (script 0 0 (s.cues calendar v₁ device closed₁) =
        script 0 0 (s.cues calendar v₂ device closed₂) →
      SeenAlike calendar v₁ v₂ device s closed₁ closed₂ ∧ ∀ rest₁ rest₂,
        LeftAlike device (c₁.isDisposed calendar v₁ device rest₁)
          (c₂.isDisposed calendar v₂ device rest₂) (c₁.run calendar v₁ rest₁)
          (c₂.run calendar v₂ rest₂)) := by
  intro s closed₁ closed₂ c₁ c₂
  have hs : Sound s := sound_new schemas
  have hclosed {acts : List (Act κ)} (hkept : .call (.release device) ∉ acts) :
      .call (.release device) ∉ acts ++ [Act.call (κ := κ) .beginShutdown] := by simp [hkept]
  refine ⟨fun hscript hnow hstill₁ hstill₂ => ?_, fun hscript => ?_⟩
  · obtain ⟨hfilm, hagree⟩ := film_eq hv₁ hv₂ rfl hs hs (.refl device s) hkept₁ hkept₂ hscript
      (.still hnow hstill₁ hstill₂)
    exact ⟨hfilm, hagree.answers, hagree.asked⟩
  · obtain ⟨hfilm, hagree⟩ := film_eq hv₁ hv₂ rfl hs hs (.refl device s) (hclosed hkept₁)
      (hclosed hkept₂) hscript (.scripted (last_isScripted_closed s acts₁) (last_isScripted_closed s acts₂))
    have hshut : c₁.hub.isShutDown = true := isShutDown_closed s acts₁
    exact ⟨⟨hfilm, hagree.answers, hagree.asked⟩,
      leftAlike (hs.run closed₁) (hs.run closed₂) hshut hagree⟩

/-- Reports on a plug take a millisecond. -/
def plugHabit : Habit Unit where
  report? asked number time :=
    (asked[number]?).bind fun q => if q.time < time then some ⟨Hub.plugSays true, rfl⟩ else none
  stays asked more number time h := by
    rw [Option.isSome_iff_exists] at h ⊢
    obtain ⟨report, h⟩ := h
    obtain ⟨q, hq, h⟩ := Option.bind_eq_some_iff.1 h
    refine ⟨report, Option.bind_eq_some_iff.2 ⟨q, ?_, h⟩⟩
    rw [List.getElem?_append_left (List.getElem?_eq_some_iff.1 hq).1, hq]

/-- Reports on all but the plug are there at once, and are the same, or are never there. -/
def plugVendor (others : Option Report) : Vendor Unit := fun asked device number time =>
  if device = "p1" then plugHabit.report? (asked "p1") number time else others

theorem plugHabit_rules (others : Option Report) : plugHabit.Rules "p1" (plugVendor others) :=
  fun _ _ _ => if_pos rfl

def grants : Vendor Unit := plugVendor (some ⟨Hub.plugSays true, rfl⟩)

def refuses : Vendor Unit := plugVendor (some ⟨.error (.http 401 "no"), rfl⟩)

def stalls : Vendor Unit := plugVendor none

def frozen : Nat → Instant := fun _ => .epoch

def noDevices : Timeline Unit := new [("plug", Hub.plugSchema)]

/-- A plug is asked, and its report is heard a millisecond later. -/
def plugAlone : List (Act Unit) := [
  .call (.attach "hub" (.attached ())), .call (.enroll Hub.plug), .turn 0, .tick, .hear "p1" 0]

/-- The same, beside a second plug that is suspended, restarted and disposed of while it is asked. -/
def plugBeside : List (Act Unit) :=
  let second : DeviceConfig := ⟨⟨"hub", "p2", "plug"⟩, 5, Hub.plug.request⟩
  [.call (.attach "hub" (.attached ())), .call (.enroll second), .turn 0, .hear "p2" 0,
    .call (.enroll Hub.plug), .turn 1, .call (.restart "p2"), .turn 2, .hear "p2" 1, .tick,
    .call (.dispose "p2"), .hear "p1" 0]

/-- A plug does not notice a second one, though that one is refused its credential. Both hubs are shut
down then. The one lets the plug go, and its health and its snapshot stay as they are in the other, where
it is still registered. -/
theorem isolated_plug :
    let alone := noDevices.run frozen grants (plugAlone ++ [.call .beginShutdown])
    let beside := noDevices.run frozen refuses (plugBeside ++ [.call .beginShutdown])
    let letGo := alone.run frozen grants [.turn 0, .call (.release "p1")]
    let still := beside.run frozen refuses [.turn 1]
    let letGo' := still.run frozen refuses [.call (.release "p1")]
    noDevices.film frozen grants "p1" plugAlone = noDevices.film frozen refuses "p1" plugBeside ∧
    (noDevices.film frozen refuses "p1" plugBeside).length = 5 ∧
    beside.hub.told "p1" =
      [.connectivity "p1" .online none, .state "p1" "power" (.boolean true)] ∧
    letGo.hub.told "p1" = still.hub.told "p1" ∧
    Dict.get? letGo.hub.health "p1" = Dict.get? still.hub.health "p1" ∧
    letGo.hub.store.get? "p1" = still.hub.store.get? "p1" ∧
    (still.hub.store.get? "p1").isSome = true ∧ still.hub.devices.contains "p1" = true ∧
    letGo.hub.pollState? "p1" = letGo'.hub.pollState? "p1" ∧
    letGo.hub.answer? (.refresh "p1") = letGo'.hub.answer? (.refresh "p1") := by
  intro alone beside letGo still letGo'
  obtain ⟨hruns, hclosed⟩ := @isolated Unit frozen [("plug", Hub.plugSchema)] "p1" plugHabit grants refuses
    (plugHabit_rules _) (plugHabit_rules _) plugAlone plugBeside (by simp [plugAlone])
    (by simp [plugBeside])
  have hseen : SeenAlike frozen grants refuses "p1" noDevices plugAlone plugBeside :=
    hruns rfl (by decide +kernel) (by decide +kernel) (by decide +kernel)
  obtain ⟨-, hleft⟩ := hclosed rfl
  have hstill := hleft [.turn 0, .call (.release "p1")] [.turn 1]
  have hgone := hleft [.turn 0, .call (.release "p1")] [.turn 1, .call (.release "p1")]
  obtain ⟨hhealth, hsnapshot⟩ := hstill.kept (by decide +kernel)
  obtain ⟨hpoll, -, hanswer⟩ := hgone.gone (by decide +kernel) (by decide +kernel)
  exact ⟨hseen.film, by decide +kernel, by decide +kernel, hstill.told, hhealth, hsnapshot,
    by decide +kernel, by decide +kernel, hpoll, hanswer (.refresh "p1") rfl⟩

/-- A plug is taken in and a second one, and the plug is refreshed at once. -/
def plugRefreshed (between : List (Act Unit)) : List (Act Unit) :=
  [.call (.attach "hub" (.attached ())), .call (.enroll Hub.plug),
    .call (.enroll ⟨⟨"hub", "p2", "plug"⟩, 5, Hub.plug.request⟩)] ++ between ++ [.call (.refresh "p1")]

/-- A plug behind another one, which is let go before it. Both are asked, and the plug's report is heard. -/
def plugBehind (first : List (Act Unit)) : List (Act Unit) :=
  [.call (.attach "hub" (.attached ())), .call (.enroll ⟨⟨"hub", "p0", "plug"⟩, 5, Hub.plug.request⟩),
    .turn 0] ++ first ++ [.call (.enroll Hub.plug), .turn 1, .tick, .hear "p1" 0]

/-- Twice, the same is done with a plug in two hubs at the same times, and the plug is not seen the same.

In one hub a second plug is commanded before the plug is refreshed, and the poll tasks have their turns
while the command is answered. So the refresh finds the plug asked already.

Two hubs are shut down at the same time. In the one the cycle of the device before the plug goes on, and
the shutdown waits for it; in the other that device is at rest, and the shutdown lets go of the plug. A
millisecond later its poll state and what a refresh of it answers are not the same. -/
theorem apart_in_turns_and_shutdown :
    (let commanded : List (Act Unit) :=
        [.command "p2" Hub.plug.request, .turn 0, .turn 1, .hear "p2" 0, .hear "p2" 1]
      let quiet := noDevices.run frozen grants (plugRefreshed [])
      let busy := noDevices.run frozen grants (plugRefreshed commanded)
      -- the same is done with the plug at the same time, but for the turns before
      (script 0 0 (noDevices.cues frozen grants "p1" (plugRefreshed []))).map (fun e => (e.time, e.act)) =
        (script 0 0 (noDevices.cues frozen grants "p1" (plugRefreshed commanded))).map
          (fun e => (e.time, e.act)) ∧
      quiet.now = 0 ∧ busy.now = 0 ∧
      quiet.answersOf "p1" = [(0, .refreshed (.ok .accepted)), (0, .done (.ok ()))] ∧
      busy.answersOf "p1" = [(0, .refreshed (.ok .skippedRunning)), (0, .done (.ok ()))]) ∧
    (let busy := noDevices.run frozen stalls (plugBehind [])
      let idle := noDevices.run frozen grants (plugBehind [.hear "p0" 0])
      let busyShutdown : List (Act Unit) := [.call .beginShutdown, .call (.release "p0"), .turn 1, .tick]
      let idleShutdown : List (Act Unit) :=
        [.call .beginShutdown, .call (.release "p0"), .turn 0, .call (.release "p1"), .turn 1, .tick]
      let refreshed : Act Unit := .call (.refresh "p1")
      let waiting := busy.run frozen stalls busyShutdown
      let atRest := idle.run frozen grants [.call .beginShutdown, .call (.release "p0"), .turn 0]
      let finished := idle.run frozen grants idleShutdown
      let call := (busy.hub.shutdown.1.goOn busy.hub.shutdown.2).1
      let call' := (idle.hub.shutdown.1.goOn idle.hub.shutdown.2).1
      -- both have let the first plug go; the one still waits for its poll task, the other goes on
      call = ⟨["p1"], some 0⟩ ∧ (call.goOn waiting.hub).1 = call ∧
      call' = ⟨["p1"], some 0⟩ ∧ (call'.goOn atRest.hub).1 = ⟨["p1"], none⟩ ∧
      -- the same is done with the second plug
      script 0 0 (noDevices.cues frozen stalls "p1" (plugBehind [] ++ busyShutdown ++ [refreshed])) =
        script 0 0 (noDevices.cues frozen grants "p1"
          (plugBehind [.hear "p0" 0] ++ idleShutdown ++ [refreshed])) ∧
      waiting.now = 2 ∧ finished.now = 2 ∧
      waiting.isStill stalls "p1" = true ∧ finished.isStill grants "p1" = true ∧
      -- and it is not seen the same
      waiting.hub.pollState? "p1" = some .stopped ∧ finished.hub.pollState? "p1" = none ∧
      waiting.hub.answer? (.refresh "p1") = some ("p1", .refreshed (.ok .inactive)) ∧
      finished.hub.answer? (.refresh "p1") =
        some ("p1", .refreshed (.error (.unknownDevice "p1")))) :=
  ⟨⟨rfl, rfl, rfl, rfl, rfl⟩, by decide +kernel, by decide +kernel, by decide +kernel,
    by decide +kernel, rfl, by decide +kernel, by decide +kernel, by decide +kernel, by decide +kernel,
    by decide +kernel, by decide +kernel, rfl, rfl⟩

end Timeline

end DeviceHub
