import DeviceHub.Proofs.Hub.Cues

/-!
# Scripts and films of a device

A device is filmed along a run: what listeners were told of it, its health, its snapshot and its poll
state, at every time. To do the same with a device in two runs is to follow the same script: the same
operations on it, the same changes of bridges and the same shutdown at the same times, and the same order
of what happens to the device at one time. That order is told by the number of turns that its poll task
had in the millisecond before. That a shutdown lets the device go is no part of a script: it does so when
the devices before it are at rest.

When the poll task has its turns, what is asked about the device and when reports on it are heard is not
part of a script, and follows from it: the clock moves only when nothing is left to do, so at any time
what comes next for the device is a turn, a report or a tick by what the device is, unless the script has
something else for just then.

* `script`, `film`: what is done with a device, and what is seen of it.
* `cue_eq`: a script leaves a device no choice.
* `SameEnd`: where two runs end.
* `film_eq`: two runs that follow the same script give the same film.
-/
namespace DeviceHub

variable {κ : Type}

/-- What is seen of a device at a time. -/
structure Shot where
  time : Nat
  /-- What listeners were told of it, the latest first. -/
  told : List Event
  health : Option DeviceHealth
  snapshot : Option Snapshot
  poll : Option PollState
  deriving DecidableEq

/-- Something that is done with a device. -/
structure Entry (κ : Type) where
  /-- The time of an operation; when a report is heard is up to who reports. -/
  time : Option Nat
  /-- How many turns the device's poll task had in the millisecond before. -/
  turns : Nat
  act : Timeline.Act κ

namespace Timeline

/-- Whether a cue stands in a script. -/
def Act.isScripted : Act κ → Bool
  | .tick | .turn _ => false
  | _ => true

def Act.entry (time turns : Nat) : Act κ → Entry κ
  | .hear device number => ⟨none, turns, .hear device number⟩
  | a => ⟨some time, turns, a⟩

/-- The script of some cues that begin at a time, after some turns. -/
def script (time turns : Nat) : List (Act κ) → List (Entry κ)
  | [] => []
  | .tick :: cues => script (time + 1) 0 cues
  | .turn _ :: cues => script time (turns + 1) cues
  | a :: cues => a.entry time turns :: script time turns cues

def shot (s : Timeline κ) (device : String) : Shot :=
  ⟨s.now, s.hub.told device, Dict.get? s.hub.health device, s.hub.store.get? device,
    s.hub.pollState? device⟩

section

variable (calendar : Nat → Instant) (vendor : Vendor κ) (device : String)

/-- The cues of a device in a run. -/
def cues : Timeline κ → List (Act κ) → List (Act κ)
  | _, [] => []
  | s, a :: acts => (s.cue vendor device a).toList ++ cues (s.step calendar vendor a) acts

/-- All that is seen of a device along a run, whenever anything about it is new. -/
def film : Timeline κ → List (Act κ) → List Shot
  | s, [] => [s.shot device]
  | s, a :: acts =>
    let s' := s.step calendar vendor a
    if s'.shot device = s.shot device then film s' acts else s.shot device :: film s' acts

/-- Whether nothing is left to do for a device at this time. -/
def isStill (s : Timeline κ) : Bool :=
  !s.isReady device &&
    (List.range (s.lane device).length).all fun number => !s.heeds vendor device number

end

variable {calendar : Nat → Instant} {vendor v₁ v₂ : Vendor κ} {s s' s₁ s₂ : Timeline κ}
  {device : String} {a a₁ a₂ c c₁ c₂ : Act κ} {acts rest : List (Act κ)}

theorem AgreeOn.shot (ha : AgreeOn device s₁ s₂) : s₁.shot device = s₂.shot device := by
  simp only [Timeline.shot, ha.now, ha.hub.told, ha.hub.health, ha.hub.snapshot, ha.hub.pollState?]

theorem entry_act (time turns : Nat) (a : Act κ) : (a.entry time turns).act = a := by
  cases a <;> rfl

theorem script_cons (time turns : Nat) (hc : c.isScripted = true) (cues : List (Act κ)) :
    script time turns (c :: cues) = c.entry time turns :: script time turns cues := by
  cases c with
  | tick | turn => cases hc
  | _ => rfl

theorem film_cons (a : Act κ) (acts : List (Act κ)) :
    s.film calendar vendor device (a :: acts) =
      if (s.step calendar vendor a).shot device = s.shot device then
        (s.step calendar vendor a).film calendar vendor device acts
      else s.shot device :: (s.step calendar vendor a).film calendar vendor device acts := rfl

/-! ## A device has nothing to do -/

theorem isStill_iff : s.isStill vendor device = true ↔
    s.isReady device = false ∧ ∀ number, s.heeds vendor device number = false := by
  simp only [isStill, Bool.and_eq_true, Bool.not_eq_true', List.all_eq_true, List.mem_range]
  refine and_congr_right fun _ => ⟨fun hall number => ?_, fun hall number _ => hall number⟩
  rcases Nat.lt_or_ge number (s.lane device).length with hlt | hge
  · exact hall number hlt
  · simp [heeds, List.getElem?_eq_none hge]

/-- When nothing is left to do at all, no report is left to be heard. -/
theorem isDue_of_isSettled (hsettled : s.isSettled vendor = true) (device : String) (number : Nat) :
    s.isDue vendor device number = false := by
  rw [isSettled, Bool.and_eq_true] at hsettled
  have hqueries := List.all_eq_true.1 hsettled.2
  rw [← Bool.not_eq_true]
  intro hdue
  obtain ⟨w, hw⟩ := Option.isSome_iff_exists.1 (Bool.and_eq_true_iff.1 hdue).1
  obtain ⟨q, hq, -⟩ := Option.bind_eq_some_iff.1 hw
  obtain ⟨log, hlog⟩ : ∃ log, s.queries.get? device = some log := by
    refine Option.ne_none_iff_exists'.1 fun hnone => ?_
    rw [Timeline.log, hnone] at hq
    cases hq
  have hsame : s.log device = log := by rw [Timeline.log, hlog]; rfl
  have hlt : number < log.length := hsame ▸ (List.getElem?_eq_some_iff.1 hq).1
  have hidle := List.all_eq_true.1 (hqueries _ (Dict.mem_of_get? hlog)) number (List.mem_range.2 hlt)
  rw [hdue] at hidle
  cases hidle

/-- When nothing is left to do at all, nothing is for the device. -/
theorem isStill_of_isSettled (hsettled : s.isSettled vendor = true) :
    s.isStill vendor device = true := by
  have htasks := List.all_eq_true.1 (Bool.and_eq_true_iff.1 hsettled).1
  refine isStill_iff.2 ⟨?_, fun number => ?_⟩
  · unfold isReady
    cases hown : s.hub.ownTask? device with
    | none => rfl
    | some t =>
      obtain ⟨n, -, ht⟩ := Option.bind_eq_some_iff.1 hown
      simpa using htasks t (List.mem_of_getElem? ht)
  · have hidle := isDue_of_isSettled hsettled device number
    rw [← Bool.not_eq_true]
    intro hheeds
    rw [heeds, Bool.and_eq_true, Option.isSome_iff_exists] at hheeds
    obtain ⟨⟨w, hw⟩, hreport⟩ := hheeds
    obtain ⟨e, he, hew⟩ := Option.bind_eq_some_iff.1 hw
    rw [lane, List.getElem?_map] at he
    obtain ⟨q, hq, rfl⟩ := Option.map_eq_some_iff.1 he
    obtain ⟨w', hw', -⟩ := Option.bind_eq_some_iff.1 hew
    simp [isDue, hq, hw', hreport] at hidle

section

variable {habit : Habit κ} (hv₁ : habit.Rules device v₁) (hv₂ : habit.Rules device v₂)

theorem AgreeOn.isReady (ha : AgreeOn device s₁ s₂) : s₁.isReady device = s₂.isReady device := by
  rw [Timeline.isReady, Timeline.isReady, ha.hub.task, ha.now]

include hv₁ hv₂

theorem AgreeOn.heeds (ha : AgreeOn device s₁ s₂) (number : Nat) :
    s₁.heeds v₁ device number = s₂.heeds v₂ device number := by
  rw [Timeline.heeds, Timeline.heeds, ha.lane, ha.report? hv₁ hv₂]

theorem AgreeOn.isStill (ha : AgreeOn device s₁ s₂) :
    s₁.isStill v₁ device = s₂.isStill v₂ device := by
  rw [Bool.eq_iff_iff, isStill_iff, isStill_iff, ha.isReady]
  simp only [ha.heeds hv₁ hv₂]

end

/-! ## Time -/

theorem now_turn (s : Timeline κ) (n : Nat) : (s.turn n).now = s.now := by
  unfold turn
  split
  · rfl
  · simp only
    split <;> rfl

theorem now_hear (s : Timeline κ) (device : String) (number : Nat) :
    (s.hear calendar vendor device number).now = s.now := by
  unfold hear
  split
  · split
    · next waiter _ => cases waiter <;> rfl
    · rfl
  · rfl

/-- Only the clock takes time. -/
theorem now_step (ha : a ≠ .tick) : (s.step calendar vendor a).now = s.now := by
  cases a with
  | tick => exact absurd rfl ha
  | turn n => exact now_turn s n
  | hear device number => exact now_hear s device number
  | call a =>
    simp only [step]
    split
    · split <;> rfl
    · rfl
  | command | pollOnce =>
    simp only [step]
    split <;> rfl

theorem now_tick (hsettled : s.isSettled vendor = true) :
    (s.step calendar vendor .tick).now = s.now + 1 := by
  rw [step, if_pos hsettled]

theorem now_le_step (a : Act κ) : s.now ≤ (s.step calendar vendor a).now := by
  by_cases ha : a = .tick
  · subst ha
    rw [step]
    split
    · exact Nat.le_succ _
    · exact Nat.le_refl _
  · exact Nat.le_of_eq (now_step ha).symm

theorem now_le_run (s : Timeline κ) (acts : List (Act κ)) :
    s.now ≤ (s.run calendar vendor acts).now := by
  induction acts generalizing s with
  | nil => exact Nat.le_refl _
  | cons a acts ih => exact Nat.le_trans (now_le_step a) (ih _)

/-! ## Up to the next cue -/

/-- A run has no cue for the device, or it has a first one. -/
inductive Onward (calendar : Nat → Instant) (vendor : Vendor κ) (device : String) (s : Timeline κ)
    (acts : List (Act κ)) : List (Act κ) → Prop where
  | idle (agree : AgreeOn device s (s.run calendar vendor acts))
      (film : s.film calendar vendor device acts = [s.shot device]) :
      Onward calendar vendor device s acts []
  | next {s' : Timeline κ} {a c : Act κ} {rest : List (Act κ)} (rest_suffix : rest <:+ acts)
      (sound : Sound s') (agree : AgreeOn device s s') (cue : s'.cue vendor device a = some c)
      (run : s.run calendar vendor acts = (s'.step calendar vendor a).run calendar vendor rest)
      (film : s.film calendar vendor device acts = s'.film calendar vendor device (a :: rest)) :
      Onward calendar vendor device s acts
        (c :: (s'.step calendar vendor a).cues calendar vendor device rest)

theorem onward (hs : Sound s) (hkept : .call (.release device) ∉ acts) :
    Onward calendar vendor device s acts (s.cues calendar vendor device acts) := by
  induction acts generalizing s with
  | nil => exact .idle (.refl device s) rfl
  | cons a acts ih =>
    rw [cues]
    cases hc : s.cue vendor device a with
    | some c => exact .next (List.suffix_cons a acts) hs (.refl device s) hc rfl rfl
    | none =>
      have ha : AgreeOn device s (s.step calendar vendor a) :=
        agreeOn_of_cue_eq_none hs hc fun hrelease => hkept (hrelease ▸ List.mem_cons_self)
      have hfilm : s.film calendar vendor device (a :: acts) =
          (s.step calendar vendor a).film calendar vendor device acts := by
        rw [film_cons, if_pos ha.shot.symm]
      have hrest : Onward calendar vendor device (s.step calendar vendor a) acts
          ((s.step calendar vendor a).cues calendar vendor device acts) :=
        ih (hs.step a) fun hrelease => hkept (List.mem_cons_of_mem a hrelease)
      rw [Option.toList_none, List.nil_append]
      generalize (s.step calendar vendor a).cues calendar vendor device acts = cues at hrest ⊢
      cases hrest with
      | idle agree film => exact .idle (ha.trans agree) (by rw [hfilm, film, ha.shot])
      | next rest_suffix sound agree cue run film =>
        exact .next (rest_suffix.trans (List.suffix_cons a acts)) sound (ha.trans agree) cue run
          (hfilm.trans film)

/-! ## A script leaves no choice -/

/-- How many turns the poll task had in this millisecond after a cue. -/
def Act.turnsAfter (turns : Nat) : Act κ → Nat
  | .tick => 0
  | .turn _ => turns + 1
  | _ => turns

theorem script_cued (hc : Cued vendor device s a c) (turns : Nat) (cues : List (Act κ)) :
    script s.now turns (c :: cues) =
      (if c.isScripted then [c.entry s.now turns] else []) ++
        script (s.step calendar vendor a).now (c.turnsAfter turns) cues := by
  cases hc with
  | tick settled => rw [now_tick settled]; rfl
  | _ =>
    rw [now_step]
    · rfl
    · nofun

theorem script_some_le {time turns t r : Nat} {cues : List (Act κ)} {l : List (Entry κ)}
    (hscript : script time turns cues = ⟨some t, r, a⟩ :: l) :
    time < t ∨ time = t ∧ turns ≤ r := by
  induction cues generalizing time turns with
  | nil => cases hscript
  | cons c cues ih =>
    cases c with
    | tick =>
      have := ih hscript
      omega
    | turn n =>
      have := ih hscript
      omega
    | hear => cases hscript
    | _ =>
      cases hscript
      exact .inr ⟨rfl, Nat.le_refl _⟩

/-- What is there to be heard is still there after a turn of the device's poll task. -/
theorem heeds_turn {habit : Habit κ} (hv : habit.Rules device vendor) (hs : Sound s) {n number : Nat}
    (hn : s.hub.current? device = some n) (hheeds : s.heeds vendor device number = true) :
    (s.turn n).heeds vendor device number = true := by
  obtain ⟨t, ht, hdevice⟩ := hs.wired.task?_current? hn
  obtain ⟨more, hmore⟩ : ∃ more, (s.turn n).lane device = s.lane device ++ more := by
    have hwoken : ({ s with hub := (s.hub.wake n s.now).2 } : Timeline κ).lane device =
        s.lane device := lane_withHub (Hub.current?_wake ..)
    simp only [turn, ht, hdevice]
    split
    · have hasked := lane_ask ({ s with hub := (s.hub.wake n s.now).2 } : Timeline κ) t.client device
        t.request (.task n)
      rw [hwoken] at hasked
      exact ⟨_, hasked⟩
    · exact ⟨[], by rw [hwoken, List.append_nil]⟩
  rw [heeds, Bool.and_eq_true] at hheeds ⊢
  obtain ⟨hwaits, hreport⟩ := hheeds
  have hlt : number < (s.lane device).length := by
    refine Nat.lt_of_not_le fun hge => ?_
    simp [List.getElem?_eq_none hge] at hwaits
  refine ⟨by rwa [hmore, List.getElem?_append_left hlt], ?_⟩
  rw [report?, hv] at hreport ⊢
  rw [asked_eq, hmore, List.map_append, ← asked_eq, now_turn]
  exact habit.stays _ _ _ _ hreport

/-- What is there to be heard is heard after all turns that the poll task has had. -/
theorem script_hear_le {habit : Habit κ} (hv : habit.Rules device vendor) {cues : List (Act κ)}
    {turns r number : Nat} {l : List (Entry κ)} (hs : Sound s)
    (hkept : .call (.release device) ∉ acts)
    (hcues : s.cues calendar vendor device acts = cues)
    (hheeds : s.heeds vendor device number = true)
    (hscript : script s.now turns cues = ⟨none, r, .hear device number⟩ :: l) : turns ≤ r := by
  induction cues generalizing s acts turns with
  | nil => cases hscript
  | cons c cues ih =>
    have honward : Onward calendar vendor device s acts (s.cues calendar vendor device acts) :=
      onward hs hkept
    rw [hcues] at honward
    cases honward with
    | @next s' a _ rest rest_suffix sound agree cue _ _ =>
      have hheeds' : s'.heeds vendor device number = true := by rw [← agree.heeds hv hv, hheeds]
      cases cued_of_cue cue with
      | tick settled =>
        have hstill : s'.isStill vendor device = true := isStill_of_isSettled settled
        rw [(isStill_iff.1 hstill).2 number] at hheeds'
        cases hheeds'
      | @turn n current _ =>
        have hnow : s.now = (s'.turn n).now := by rw [now_turn, agree.now]
        have hle : turns + 1 ≤ r := ih (sound.step (.turn n))
          (fun hrelease => hkept (rest_suffix.subset hrelease)) rfl
          (heeds_turn hv sound current hheeds') (hnow ▸ hscript)
        exact Nat.le_of_succ_le hle
      | hear heeded =>
        cases hscript
        exact Nat.le_refl _
      | _ => cases hscript

section

variable {habit : Habit κ} (hv₁ : habit.Rules device v₁) (hv₂ : habit.Rules device v₂)

include hv₁ hv₂

/-- What stands in the script of one run is not passed over in the other. -/
theorem script_ne_entry (hs₁ : Sound s₁) (ha : AgreeOn device s₁ s₂)
    (hkept : .call (.release device) ∉ rest) (hc₁ : Cued v₁ device s₁ a₁ c₁) (hc₂ : Cued v₂ device s₂ a₂ c₂) (hpassed : c₁.isScripted = false)
    (hscripted : c₂.isScripted = true) (turns : Nat) (l : List (Entry κ)) :
    script s₁.now turns
        (c₁ :: (s₁.step calendar v₁ a₁).cues calendar v₁ device rest) ≠
      c₂.entry s₂.now turns :: l := by
  intro hscript
  rw [← ha.now] at hscript
  cases hc₁ with
  | tick settled =>
    cases hc₂ with
    | hear heeded =>
      have hstill : s₁.isStill v₁ device = true := isStill_of_isSettled settled
      rw [← ha.heeds hv₁ hv₂, (isStill_iff.1 hstill).2] at heeded
      cases heeded
    | tick | turn => cases hscripted
    | _ =>
      have hlater : s₁.now + 1 < s₁.now ∨ s₁.now + 1 = s₁.now ∧ 0 ≤ turns :=
        script_some_le hscript
      omega
  | @turn n current ready =>
    cases hc₂ with
    | hear heeded =>
      rw [← ha.heeds hv₁ hv₂] at heeded
      have hnow : s₁.now = (s₁.turn n).now := (now_turn s₁ n).symm
      have hle : turns + 1 ≤ turns := script_hear_le hv₁ (hs₁.step (.turn n)) hkept rfl
        (heeds_turn hv₁ hs₁ current heeded) (hnow ▸ hscript)
      omega
    | tick | turn => cases hscripted
    | _ =>
      have hlater : s₁.now < s₁.now ∨ s₁.now = s₁.now ∧ turns + 1 ≤ turns :=
        script_some_le hscript
      omega
  | _ => cases hpassed

/-- Two runs with the same script have the same next cue. -/
theorem cue_eq {acts₁ acts₂ : List (Act κ)} (hs₁ : Sound s₁) (hs₂ : Sound s₂)
    (ha : AgreeOn device s₁ s₂) (hkept₁ : .call (.release device) ∉ acts₁)
    (hkept₂ : .call (.release device) ∉ acts₂) (hc₁ : Cued v₁ device s₁ a₁ c₁)
    (hc₂ : Cued v₂ device s₂ a₂ c₂) {turns : Nat} (hscript :
      script s₁.now turns (c₁ :: (s₁.step calendar v₁ a₁).cues calendar v₁ device acts₁) =
        script s₂.now turns (c₂ :: (s₂.step calendar v₂ a₂).cues calendar v₂ device acts₂)) :
    c₁ = c₂ := by
  cases h₁ : c₁.isScripted with
  | true =>
    rw [script_cons _ _ h₁] at hscript
    cases h₂ : c₂.isScripted with
    | true =>
      rw [script_cons _ _ h₂] at hscript
      rw [← entry_act s₁.now turns c₁, (List.cons.inj hscript).1, entry_act]
    | false =>
      exact absurd hscript.symm
        (script_ne_entry hv₂ hv₁ hs₂ ha.symm hkept₂ hc₂ hc₁ h₂ h₁ turns _)
  | false =>
    cases h₂ : c₂.isScripted with
    | true =>
      rw [script_cons _ _ h₂] at hscript
      exact absurd hscript (script_ne_entry hv₁ hv₂ hs₁ ha hkept₁ hc₁ hc₂ h₁ h₂ turns _)
    | false =>
      -- a poll task that is ready keeps the clock from moving
      cases hc₁ with
      | tick settled =>
        cases hc₂ with
        | tick => rfl
        | turn current ready =>
          have hstill : s₁.isStill v₁ device = true := isStill_of_isSettled settled
          rw [← ha.isReady, (isStill_iff.1 hstill).1] at ready
          cases ready
        | _ => cases h₂
      | turn current ready =>
        cases hc₂ with
        | turn => rfl
        | tick settled =>
          have hstill : s₂.isStill v₂ device = true := isStill_of_isSettled settled
          rw [ha.isReady, (isStill_iff.1 hstill).1] at ready
          cases ready
        | _ => cases h₂
      | _ => cases h₁

end

/-! ## Where two runs end -/

/-- Two runs come to the same end for a device: at one time, when nothing is left to do for it, or each
with something that stands in the script, if anything happens to the device at all. -/
inductive SameEnd (v₁ v₂ : Vendor κ) (device : String) (end₁ end₂ : Timeline κ)
    (cues₁ cues₂ : List (Act κ)) : Prop where
  | still (now : end₁.now = end₂.now) (still₁ : end₁.isStill v₁ device = true)
      (still₂ : end₂.isStill v₂ device = true)
  | scripted (last₁ : cues₁.getLast?.all Act.isScripted = true)
      (last₂ : cues₂.getLast?.all Act.isScripted = true)

section

variable {end₁ end₂ : Timeline κ} {cues cues₁ cues₂ : List (Act κ)}

theorem SameEnd.symm (hends : SameEnd v₁ v₂ device end₁ end₂ cues₁ cues₂) :
    SameEnd v₂ v₁ device end₂ end₁ cues₂ cues₁ := by
  cases hends with
  | still now still₁ still₂ => exact .still now.symm still₂ still₁
  | scripted last₁ last₂ => exact .scripted last₂ last₁

theorem last_isScripted_of_cons (hlast : (c :: cues).getLast?.all Act.isScripted = true) :
    cues.getLast?.all Act.isScripted = true := by
  cases cues with
  | nil => rfl
  | cons d cues => rwa [List.getLast?_cons_cons] at hlast

/-- The end stays the same while the runs go on. -/
theorem SameEnd.tail (hends : SameEnd v₁ v₂ device end₁ end₂ (c₁ :: cues₁) (c₂ :: cues₂)) :
    SameEnd v₁ v₂ device end₁ end₂ cues₁ cues₂ := by
  cases hends with
  | still now still₁ still₂ => exact .still now still₁ still₂
  | scripted last₁ last₂ =>
    exact .scripted (last_isScripted_of_cons last₁) (last_isScripted_of_cons last₂)

theorem script_ne_nil (hlast : (c :: cues).getLast?.all Act.isScripted = true) (time turns : Nat) :
    script time turns (c :: cues) ≠ [] := by
  induction cues generalizing c time turns with
  | nil =>
    have hscripted : c.isScripted = true := hlast
    rw [script_cons _ _ hscripted]
    exact List.cons_ne_nil _ _
  | cons d cues ih =>
    rw [List.getLast?_cons_cons] at hlast
    cases c with
    | tick => exact ih hlast (time + 1) 0
    | turn => exact ih hlast time (turns + 1)
    | _ => exact List.cons_ne_nil _ _

/-- A run that has ended has no further cue. -/
theorem SameEnd.no_cue {habit : Habit κ} (hv₁ : habit.Rules device v₁) (hv₂ : habit.Rules device v₂)
    (hends : SameEnd v₁ v₂ device end₁ ((s₂.step calendar v₂ a₂).run calendar v₂ rest) []
      (c₂ :: cues₂))
    (ha : AgreeOn device end₁ s₂) (hc₂ : Cued v₂ device s₂ a₂ c₂) {turns : Nat}
    (hscript : [] = script s₂.now turns (c₂ :: cues₂)) : False := by
  cases hends with
  | scripted _ last₂ => exact script_ne_nil last₂ _ _ hscript.symm
  | still now still₁ _ =>
    rw [ha.isStill hv₁ hv₂, isStill_iff] at still₁
    cases hc₂ with
    | tick settled =>
      have hle : (s₂.step calendar v₂ .tick).now ≤
          ((s₂.step calendar v₂ .tick).run calendar v₂ rest).now := now_le_run _ rest
      rw [now_tick settled, ← now, ha.now] at hle
      omega
    | turn current ready =>
      rw [still₁.1] at ready
      cases ready
    | hear heeded =>
      rw [still₁.2] at heeded
      cases heeded
    | _ => cases hscript

end

section

variable {habit : Habit κ} (hv₁ : habit.Rules device v₁) (hv₂ : habit.Rules device v₂)

include hv₁ hv₂

/-- Two runs that follow the same script for a device give the same film of it, and leave the same of
it, as long as no shutdown lets it go. -/
theorem film_eq {acts₁ acts₂ : List (Act κ)} {cues : List (Act κ)} {turns : Nat}
    (hcues : s₁.cues calendar v₁ device acts₁ = cues) (hs₁ : Sound s₁) (hs₂ : Sound s₂)
    (ha : AgreeOn device s₁ s₂) (hkept₁ : .call (.release device) ∉ acts₁)
    (hkept₂ : .call (.release device) ∉ acts₂)
    (hscript : script s₁.now turns cues =
      script s₂.now turns (s₂.cues calendar v₂ device acts₂))
    (hends : SameEnd v₁ v₂ device (s₁.run calendar v₁ acts₁) (s₂.run calendar v₂ acts₂) cues
      (s₂.cues calendar v₂ device acts₂)) :
    s₁.film calendar v₁ device acts₁ = s₂.film calendar v₂ device acts₂ ∧
      AgreeOn device (s₁.run calendar v₁ acts₁) (s₂.run calendar v₂ acts₂) := by
  induction cues generalizing s₁ s₂ acts₁ acts₂ turns with
  | nil =>
    have honward₁ : Onward calendar v₁ device s₁ acts₁ (s₁.cues calendar v₁ device acts₁) :=
      onward hs₁ hkept₁
    have honward₂ : Onward calendar v₂ device s₂ acts₂ (s₂.cues calendar v₂ device acts₂) :=
      onward hs₂ hkept₂
    rw [hcues] at honward₁
    cases honward₁ with
    | idle agree₁ film₁ =>
      generalize s₂.cues calendar v₂ device acts₂ = cues₂ at honward₂ hscript hends
      cases honward₂ with
      | idle agree₂ film₂ =>
        exact ⟨by rw [film₁, film₂, ha.shot], (agree₁.symm.trans ha).trans agree₂⟩
      | next _ _ agree₂ cue₂ run₂ =>
        rw [run₂] at hends
        rw [agree₂.now] at hscript
        exact (hends.no_cue hv₁ hv₂ ((agree₁.symm.trans ha).trans agree₂) (cued_of_cue cue₂)
          hscript).elim
  | cons c cues ih =>
    have honward₁ : Onward calendar v₁ device s₁ acts₁ (s₁.cues calendar v₁ device acts₁) :=
      onward hs₁ hkept₁
    have honward₂ : Onward calendar v₂ device s₂ acts₂ (s₂.cues calendar v₂ device acts₂) :=
      onward hs₂ hkept₂
    rw [hcues] at honward₁
    cases honward₁ with
    | next suffix₁ sound₁ agree₁ cue₁ run₁ film₁ =>
      generalize s₂.cues calendar v₂ device acts₂ = cues₂ at honward₂ hscript hends
      cases honward₂ with
      | idle agree₂ =>
        rw [run₁] at hends
        rw [agree₁.now] at hscript
        exact (hends.symm.no_cue hv₂ hv₁ ((agree₂.symm.trans ha.symm).trans agree₁)
          (cued_of_cue cue₁) hscript.symm).elim
      | next suffix₂ sound₂ agree₂ cue₂ run₂ film₂ =>
        have hmeet := (agree₁.symm.trans ha).trans agree₂
        have hrest₁ := fun hrelease => hkept₁ (suffix₁.subset hrelease)
        have hrest₂ := fun hrelease => hkept₂ (suffix₂.subset hrelease)
        rw [agree₁.now, agree₂.now] at hscript
        obtain rfl := cue_eq hv₁ hv₂ sound₁ sound₂ hmeet hrest₁ hrest₂ (cued_of_cue cue₁)
          (cued_of_cue cue₂) hscript
        have hstep : AgreeOn device (step calendar v₁ _ _) (step calendar v₂ _ _) :=
          hmeet.step hv₁ hv₂ sound₁ sound₂ cue₁ cue₂
        rw [script_cued (cued_of_cue cue₁), script_cued (cued_of_cue cue₂), hmeet.now,
          List.append_cancel_left_eq] at hscript
        rw [run₁, run₂] at hends ⊢
        obtain ⟨hfilm, hfinal⟩ := ih rfl (sound₁.step _) (sound₂.step _) hstep hrest₁ hrest₂ hscript
          hends.tail
        refine ⟨?_, hfinal⟩
        rw [film₁, film₂, film_cons, film_cons, hmeet.shot, hstep.shot, hfilm]

end

end Timeline

end DeviceHub
