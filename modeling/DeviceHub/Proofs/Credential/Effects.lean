import DeviceHub.Proofs.Credential.SingleFlight

/-!
# What an act does to one bridge

An act of a renewal is about one refresh, one caller or one bridge. What it can do to some bridge is
said once, without asking whether the bridge is registered or which source it has: its refreshes go on
or start, and its slot stays, loses its credential or gets the one of a refresh that was undecided.

* `Effect`: what an act can do to one bridge.
* `effect_step`: every act of a renewal does one of these things.
* `slot_receive`: a refresh that asks stores what it gets.
-/
namespace DeviceHub

variable {σ : Type}

namespace Refresh.Phase

/-- The refresh token that a refresh shows to its source. -/
def held? : Refresh.Phase → Option String
  | .asking _ held | .pausing _ held => held
  | _ => none

end Refresh.Phase

namespace Refresher

/-! ## What happens to one bridge -/

/-- How a refresh goes on: it keeps its source, and what it shows to it was stored when it began. -/
structure Continues (r : Refresher σ) (g g' : Refresh σ) : Prop where
  bridge : g'.bridge = g.bridge
  source : g'.source = g.source
  undecided : g'.phase.outcome? = none → g.phase.outcome? = none
  held : ∀ t, g'.phase.held? = some t →
    g.phase.held? = some t ∨ r.store.refreshToken? g.bridge = some t

theorem continues_refl (r : Refresher σ) (g : Refresh σ) : Continues r g g :=
  ⟨rfl, rfl, id, fun _ => .inl⟩

/-- What can become of the slot of a bridge in an act. -/
inductive Rewrites (bridge : String) (r r' : Refresher σ) : Prop where
  | same (slot : r'.store.slot bridge = r.store.slot bridge)
  | dropped (slot : r'.store.slot bridge = (r.store.slot bridge).invalidate)
  /-- An undecided refresh has got a credential. -/
  | replaced {n : Nat} {f f' : Refresh σ} {c : Credential} (before : r.refreshes[n]? = some f)
      (ofBridge : f.bridge = bridge) (undecided : f.phase.outcome? = none)
      (after : r'.refreshes[n]? = some f')
      (outcome : f'.phase.outcome? = some (.ok ((r.store.slot bridge).published c)))
      (slot : r'.store.slot bridge = (r.store.slot bridge).replace c)

/-- What an act can do to one bridge. -/
structure Effect (bridge : String) (r r' : Refresher σ) : Prop where
  /-- A refresh is one of before, or a new one of the source. -/
  refreshes : ∀ (m : Nat) g', r'.refreshes[m]? = some g' → g'.bridge = bridge →
    (∃ g, r.refreshes[m]? = some g ∧ Continues r g g') ∨
      m = r.refreshes.length ∧ g'.phase = .created ∧
        ∃ reg, r.bridges.get? bridge = some reg ∧ g'.source = reg.source
  /-- The bridge was registered before, and what is under way for it was, or has just started. -/
  bridges : ∀ reg', r'.bridges.get? bridge = some reg' →
    ∃ reg, r.bridges.get? bridge = some reg ∧ reg'.source = reg.source ∧
      ∀ n, reg'.inflight = some n → reg.inflight = some n ∨
        n = r.refreshes.length ∧ ∃ f', r'.refreshes[n]? = some f' ∧ f'.bridge = bridge
  slot : Rewrites bridge r r'

section

variable {bridge : String} {r r' : Refresher σ} {n : Nat} {f : Refresh σ} {phase : Refresh.Phase}

theorem effect_alike (hb : r'.bridges = r.bridges) (hf : r'.refreshes = r.refreshes)
    (hslot : Rewrites bridge r r') : Effect bridge r r' := by
  refine ⟨fun m g' hg' _ => ?_, fun reg' hreg' => ?_, hslot⟩
  · exact .inl ⟨g', hf ▸ hg', continues_refl r g'⟩
  · exact ⟨reg', hb ▸ hreg', rfl, fun n hn => .inl hn⟩

theorem effect_refl : Effect bridge r r := effect_alike rfl rfl (.same rfl)

theorem effect_withPhase (hb : r'.bridges = r.bridges)
    (hrefreshes : r'.refreshes = (r.withPhase n phase).refreshes) (hf : r.refreshes[n]? = some f)
    (hopen : f.phase.outcome? = none)
    (hheld : ∀ t, phase.held? = some t →
      f.phase.held? = some t ∨ r.store.refreshToken? f.bridge = some t)
    (hslot : Rewrites bridge r r') : Effect bridge r r' := by
  refine ⟨fun m g' hg' _ => ?_, fun reg' hreg' => ?_, hslot⟩
  · rw [hrefreshes, getElem?_withPhase] at hg'
    obtain ⟨g, hg, rfl⟩ := Option.map_eq_some_iff.1 hg'
    refine .inl ⟨g, hg, ?_⟩
    split
    · next hn =>
      subst hn
      rw [hf] at hg
      cases hg
      exact ⟨rfl, rfl, fun _ => hopen, hheld⟩
    · exact continues_refl r g
  · exact ⟨reg', hb ▸ hreg', rfl, fun n hn => .inl hn⟩

theorem effect_begin (n : Nat) : Effect bridge r (r.begin n) := by
  rcases r.begin_cases n with hidle | ⟨f, hf, hcreated, hbegin⟩
  · rw [hidle]
    exact effect_refl
  · rw [hbegin]
    have hopen : f.phase.outcome? = none := by
      rw [hcreated]
      rfl
    exact effect_withPhase rfl rfl hf hopen (fun t ht => .inr ht) (.same rfl)

theorem effect_resume (n : Nat) : Effect bridge r (r.resume n) := by
  rcases r.resume_cases n with hidle | ⟨f, attempt, held, hf, hpausing, hresume⟩
  · rw [hidle]
    exact effect_refl
  · rw [hresume]
    have hopen : f.phase.outcome? = none := by
      rw [hpausing]
      rfl
    have hheld : f.phase.held? = held := by
      rw [hpausing]
      rfl
    exact effect_withPhase rfl rfl hf hopen (fun t ht => .inl (hheld.trans ht)) (.same rfl)

theorem effect_receive (n : Nat) (result : Except RequestError Credential) :
    Effect bridge r (r.receive n result) := by
  unfold receive
  split
  · next b source policy attempt held hf =>
    cases result with
    | ok c =>
      refine effect_withPhase rfl rfl hf rfl (fun t ht => ?_) ?_
      · cases ht
      · by_cases hb : b = bridge
        · subst hb
          have hafter : (({ r with store := (r.store.replace b c).2 } : Refresher σ).withPhase n
              (.closing (.ok (r.store.replace b c).1))).refreshes[n]? =
                some ⟨b, source, policy, .closing (.ok (r.store.replace b c).1)⟩ := by
            rw [getElem?_withPhase]
            simp [hf]
          exact .replaced hf rfl rfl hafter rfl ((CredentialStore.slot_replace ..).trans (if_pos rfl))
        · exact .same ((CredentialStore.slot_replace ..).trans (if_neg hb))
    | error e =>
      simp only
      split
      · exact effect_withPhase rfl rfl hf rfl (fun t ht => .inl ht) (.same rfl)
      · refine effect_withPhase rfl rfl hf rfl (fun t ht => ?_) (.same rfl)
        cases ht
  · exact effect_refl

/-- Whatever source the bridge has by then. -/
theorem slot_receive {attempt : Nat} {held : Option String} (hf : r.refreshes[n]? = some f)
    (hasking : f.phase = .asking attempt held) (c : Credential) :
    (r.receive n (.ok c)).store.slot f.bridge = (r.store.slot f.bridge).replace c := by
  obtain ⟨b, source, policy, phase⟩ := f
  subst hasking
  have hstore : (r.receive n (.ok c)).store = (r.store.replace b c).2 := by
    simp only [receive, hf]
    rfl
  rw [hstore]
  exact (CredentialStore.slot_replace ..).trans (if_pos rfl)

theorem effect_close (n : Nat) : Effect bridge r (r.close n) := by
  rcases r.close_cases n with hidle | ⟨f, outcome, hf, hclosing⟩
  · rw [hidle]
    exact effect_refl
  · refine ⟨fun m g' hg' _ => ?_, fun reg' hreg' => ?_, ?_⟩
    · rw [getElem?_close hf hclosing] at hg'
      obtain ⟨g, hg, rfl⟩ := Option.map_eq_some_iff.1 hg'
      refine .inl ⟨g, hg, ?_⟩
      split
      · refine ⟨rfl, rfl, fun h => ?_, fun t ht => ?_⟩
        · cases h
        · cases ht
      · exact continues_refl r g
    · rw [get?_bridges_close hf hclosing] at hreg'
      obtain ⟨reg, hreg, rfl⟩ := Option.map_eq_some_iff.1 hreg'
      refine ⟨reg, hreg, ?_⟩
      split
      · refine ⟨rfl, fun m hm => ?_⟩
        cases hm
      · exact ⟨rfl, fun m hm => .inl hm⟩
    · rw [close_eq hf hclosing]
      exact .same rfl

theorem effect_start {b : String} {breg : Registration σ} (hbreg : r.bridges.get? b = some breg) :
    Effect bridge r (r.start b breg) := by
  have hnew : ∀ m, (r.start b breg).refreshes[m]? = if m = r.refreshes.length
      then some ⟨b, breg.source, breg.policy, .created⟩ else r.refreshes[m]? :=
    r.getElem?_start b breg
  refine ⟨fun m g' hg' hb => ?_, fun reg' hreg' => ?_, .same rfl⟩
  · rw [hnew] at hg'
    split at hg'
    · next hm =>
      cases hg'
      cases hb
      exact .inr ⟨hm, rfl, breg, hbreg, rfl⟩
    · exact .inl ⟨g', hg', continues_refl r g'⟩
  · have hbridges : (r.start b breg).bridges.get? bridge =
        if b = bridge then some { breg with inflight := some r.refreshes.length }
        else r.bridges.get? bridge := Dict.get?_insert ..
    rw [hbridges] at hreg'
    split at hreg'
    · next hb =>
      subst hb
      cases hreg'
      refine ⟨breg, hbreg, rfl, fun m hm => .inr ?_⟩
      cases hm
      exact ⟨rfl, _, (hnew _).trans (if_pos rfl), rfl⟩
    · exact ⟨reg', hreg', rfl, fun m hm => .inl hm⟩

theorem effect_call (b : String) (now : Instant) : Effect bridge r (r.call b now).2 := by
  unfold call
  split
  · exact effect_refl
  · next breg hbreg =>
    split
    · exact effect_refl
    · split
      · exact effect_refl
      · exact effect_start hbreg

theorem effect_register {b : String} (hb : b ≠ bridge) (source : σ) (policy : RefreshPolicy) :
    Effect bridge r (r.register b source policy) := by
  refine ⟨fun m g' hg' _ => .inl ⟨g', hg', continues_refl r g'⟩, fun reg' hreg' => ?_, .same ?_⟩
  · rw [get?_bridges_register, if_neg hb] at hreg'
    exact ⟨reg', hreg', rfl, fun n hn => .inl hn⟩
  · rw [slot_register, if_neg hb]

theorem rewrites_invalidate (b : String) : Rewrites bridge r (r.invalidate b) := by
  by_cases hb : b = bridge
  · subst hb
    exact .dropped ((CredentialStore.slot_invalidate ..).trans (if_pos rfl))
  · exact .same ((CredentialStore.slot_invalidate ..).trans (if_neg hb))

theorem rewrites_invalidateIf (b : String) (c : Credential) :
    Rewrites bridge r (r.invalidateIf b c) := by
  have hslot := r.store.slot_invalidateIf b bridge c
  split at hslot
  · next hdropped =>
    obtain ⟨rfl, -⟩ := hdropped
    exact .dropped hslot
  · exact .same hslot

end

end Refresher

namespace Renewal

open Refresher (Effect Move)

variable {bridge : String}

/-- The acts that give a bridge a source. -/
def Act.registers (bridge : String) : Act σ → Prop
  | .register b _ _ => b = bridge
  | _ => False

/-- A bridge that is registered is not registered again, so this is about every other act. -/
theorem effect_step (s : Renewal σ) {a : Act σ}
    (ha : ¬a.registers bridge ∨ (s.refresher.bridges.get? bridge).isSome = true) :
    Effect bridge s.refresher (s.step a).refresher := by
  cases a with
  | register b source policy =>
    simp only [step]
    split
    · exact Refresher.effect_refl
    · next hnew =>
      have hb : b ≠ bridge := by
        rintro rfl
        rcases ha with hother | hknown
        · exact hother rfl
        · exact hnew hknown
      exact Refresher.effect_register hb source policy
  | tick | arrive => exact Refresher.effect_refl
  | join k =>
    simp only [step]
    split
    · next b _ => exact Refresher.effect_call b s.now
    · exact Refresher.effect_refl
  | deliver k =>
    simp only [step]
    split
    · split <;> exact Refresher.effect_refl
    · exact Refresher.effect_refl
  | begin n => exact Refresher.effect_begin n
  | receive n result => exact Refresher.effect_receive n result
  | resume n => exact Refresher.effect_resume n
  | close n => exact Refresher.effect_close n
  | invalidate b => exact Refresher.effect_alike rfl rfl (Refresher.rewrites_invalidate b)
  | invalidateIf b c => exact Refresher.effect_alike rfl rfl (Refresher.rewrites_invalidateIf b c)

end Renewal

end DeviceHub
