import DeviceHub.Proofs.Credential.Run
import DeviceHub.Proofs.Places

/-!
# The slots of the bridges

A bridge has at most one refresh in flight, and the slot of the bridge has it: the slot is filled when
a refresh starts, and emptied in the very turn in which the refresh ends. So nobody starts a second
one, and nobody waits for one that will not end any more.

* `Orderly`: the slots have the refreshes in flight; so there is one at most, `Orderly.inFlight_unique`.
* `begin_cases`, `resume_cases`, `close_cases`: what these turns of a refresh do.
* `Move.orderly`: whatever happens to a refresher.
* `Move.registered`: a bridge keeps its source.
-/
namespace DeviceHub

variable {σ : Type}

namespace Refresher

/-- A refresh of a bridge that has not ended. -/
def InFlight (r : Refresher σ) (bridge : String) (n : Nat) : Prop :=
  ∃ f, r.refreshes[n]? = some f ∧ f.bridge = bridge ∧ f.phase.isEnded = false

/-- The slot of every bridge has the refresh in flight, and only registered bridges have refreshes. -/
structure Orderly (r : Refresher σ) : Prop where
  slots : ∀ b reg, r.bridges.get? b = some reg → ∀ n, reg.inflight = some n ↔ r.InFlight b n
  known : ∀ (n : Nat) f, r.refreshes[n]? = some f → (r.bridges.get? f.bridge).isSome = true

/-- A slot has room for one. -/
theorem Orderly.inFlight_unique {r : Refresher σ} (ho : Orderly r) {bridge : String}
    {reg : Registration σ} (hreg : r.bridges.get? bridge = some reg) {m n : Nat}
    (hm : r.InFlight bridge m) (hn : r.InFlight bridge n) : m = n := by
  have hslot := (ho.slots bridge reg hreg m).2 hm
  rw [(ho.slots bridge reg hreg n).2 hn] at hslot
  exact (Option.some.inj hslot).symm

/-! ## Places of refreshes -/

theorem getElem?_withPhase (r : Refresher σ) (n : Nat) (phase : Refresh.Phase) (m : Nat) :
    (r.withPhase n phase).refreshes[m]? =
      r.refreshes[m]?.map fun f => if n = m then { f with phase := phase } else f := by
  simp only [withPhase, List.getElem?_modify, Option.map_eq_map]

theorem close_eq {r : Refresher σ} {n : Nat} {f : Refresh σ} {outcome : Except String Credential}
    (hf : r.refreshes[n]? = some f) (hclosing : f.phase = .closing outcome) :
    r.close n =
      { r.withPhase n (.ended outcome) with
        bridges := r.bridges.mapValues fun reg =>
          if reg.inflight = some n then { reg with inflight := none } else reg } := by
  have hphase : r.phase? n = some (.closing outcome) := by rw [phase?, hf, ← hclosing]; rfl
  simp only [close, hphase]

/-- Only a refresh that was created begins, and it reads the refresh token that is stored then. -/
theorem begin_cases (r : Refresher σ) (n : Nat) :
    r.begin n = r ∨ ∃ f, r.refreshes[n]? = some f ∧ f.phase = .created ∧
      r.begin n = r.withPhase n (.asking 1 (r.store.refreshToken? f.bridge)) := by
  unfold begin
  split
  · next hf => exact .inr ⟨_, hf, rfl, rfl⟩
  · exact .inl rfl

/-- A refresh that asks again shows what it showed before. -/
theorem resume_cases (r : Refresher σ) (n : Nat) :
    r.resume n = r ∨ ∃ f attempt held, r.refreshes[n]? = some f ∧
      f.phase = .pausing attempt held ∧
      r.resume n = r.withPhase n (.asking (attempt + 1) held) := by
  unfold resume
  split
  · next attempt held hphase =>
    obtain ⟨f, hf, hpausing⟩ := phase?_eq_some hphase
    exact .inr ⟨f, attempt, held, hf, hpausing, rfl⟩
  · exact .inl rfl

theorem close_cases (r : Refresher σ) (n : Nat) :
    r.close n = r ∨ ∃ f outcome, r.refreshes[n]? = some f ∧ f.phase = .closing outcome := by
  cases hphase : r.phase? n with
  | none => exact .inl (by simp only [close, hphase])
  | some phase =>
    obtain ⟨f, hf, rfl⟩ := phase?_eq_some hphase
    cases hp : f.phase with
    | closing outcome => exact .inr ⟨f, outcome, hf, hp⟩
    | _ => exact .inl (by simp only [close, hphase, hp])

theorem getElem?_close {r : Refresher σ} {n : Nat} {f : Refresh σ}
    {outcome : Except String Credential} (hf : r.refreshes[n]? = some f)
    (hclosing : f.phase = .closing outcome) (m : Nat) :
    (r.close n).refreshes[m]? =
      r.refreshes[m]?.map fun g => if n = m then { g with phase := .ended outcome } else g := by
  rw [close_eq hf hclosing]
  exact r.getElem?_withPhase n _ m

theorem get?_bridges_close {r : Refresher σ} {n : Nat} {f : Refresh σ}
    {outcome : Except String Credential} (hf : r.refreshes[n]? = some f)
    (hclosing : f.phase = .closing outcome) (bridge : String) :
    (r.close n).bridges.get? bridge = (r.bridges.get? bridge).map fun reg =>
      if reg.inflight = some n then { reg with inflight := none } else reg := by
  rw [close_eq hf hclosing, Dict.get?_mapValues]

theorem getElem?_start (r : Refresher σ) (bridge : String) (reg : Registration σ) (m : Nat) :
    (r.start bridge reg).refreshes[m]? =
      if m = r.refreshes.length then some ⟨bridge, reg.source, reg.policy, .created⟩
      else r.refreshes[m]? :=
  getElem?_concat ..

/-! ## In flight -/

/-- A refresh that goes from one phase to another without ending stays in flight. -/
theorem inFlight_congr {r r' : Refresher σ} {n : Nat} {f : Refresh σ} {phase : Refresh.Phase}
    (hrefreshes : r'.refreshes = (r.withPhase n phase).refreshes) (hf : r.refreshes[n]? = some f)
    (hopen : f.phase.isEnded = false) (hphase : phase.isEnded = false) (b : String) (m : Nat) :
    r'.InFlight b m ↔ r.InFlight b m := by
  unfold InFlight
  rw [hrefreshes, getElem?_withPhase]
  by_cases hm : n = m
  · subst hm
    simp [hf, hopen, hphase]
  · simp [hm]

theorem inFlight_close {r : Refresher σ} {n : Nat} {f : Refresh σ}
    {outcome : Except String Credential} (hf : r.refreshes[n]? = some f)
    (hclosing : f.phase = .closing outcome) (b : String) (m : Nat) :
    (r.close n).InFlight b m ↔ r.InFlight b m ∧ m ≠ n := by
  unfold InFlight
  rw [getElem?_close hf hclosing]
  by_cases hm : n = m
  · subst hm
    simp [hf, Refresh.Phase.isEnded]
  · simp [hm, Ne.symm hm]

theorem inFlight_start (r : Refresher σ) (bridge : String) (reg : Registration σ) (b : String)
    (m : Nat) : (r.start bridge reg).InFlight b m ↔
      r.InFlight b m ∨ (m = r.refreshes.length ∧ bridge = b) := by
  unfold InFlight
  rw [getElem?_start]
  by_cases hm : m = r.refreshes.length
  · subst hm
    simp [Refresh.Phase.isEnded]
  · simp [hm]

/-! ## Order -/

/-- A turn in which a refresh does not end leaves the slots as they are, and rightly so. -/
theorem Orderly.congr {r r' : Refresher σ} (ho : Orderly r) (hb : r'.bridges = r.bridges)
    (hin : ∀ b m, r'.InFlight b m ↔ r.InFlight b m)
    (hknown : ∀ (n : Nat) f', r'.refreshes[n]? = some f' →
      ∃ f, r.refreshes[n]? = some f ∧ f.bridge = f'.bridge) : Orderly r' := by
  refine ⟨fun b reg hreg n => ?_, fun n f' hf' => ?_⟩
  · rw [hin]
    exact ho.slots b reg (hb ▸ hreg) n
  · obtain ⟨f, hf, hbridge⟩ := hknown n f' hf'
    rw [hb, ← hbridge]
    exact ho.known n f hf

theorem Orderly.withPhase {r r' : Refresher σ} (ho : Orderly r) {n : Nat} {f : Refresh σ}
    {phase : Refresh.Phase} (hb : r'.bridges = r.bridges)
    (hrefreshes : r'.refreshes = (r.withPhase n phase).refreshes) (hf : r.refreshes[n]? = some f)
    (hopen : f.phase.isEnded = false) (hphase : phase.isEnded = false) : Orderly r' := by
  refine ho.congr hb (inFlight_congr hrefreshes hf hopen hphase) fun m f' hf' => ?_
  rw [hrefreshes, getElem?_withPhase] at hf'
  obtain ⟨g, hg, rfl⟩ := Option.map_eq_some_iff.1 hf'
  refine ⟨g, hg, ?_⟩
  split <;> rfl

theorem Orderly.close {r : Refresher σ} (ho : Orderly r) {n : Nat} {f : Refresh σ}
    {outcome : Except String Credential} (hf : r.refreshes[n]? = some f)
    (hclosing : f.phase = .closing outcome) : Orderly (r.close n) := by
  refine ⟨fun b reg hreg m => ?_, fun m f' hf' => ?_⟩
  · rw [get?_bridges_close hf hclosing] at hreg
    obtain ⟨old, hold, rfl⟩ := Option.map_eq_some_iff.1 hreg
    rw [inFlight_close hf hclosing, ← ho.slots b old hold m]
    split
    · next hn =>
      -- the slot is emptied, and it was this refresh that it had
      rw [hn]
      simp only [reduceCtorEq, Option.some.injEq, false_iff, not_and, Decidable.not_not]
      exact fun h => h.symm
    · next hn =>
      refine ⟨fun h => ⟨h, ?_⟩, fun h => h.1⟩
      rintro rfl
      exact hn h
  · rw [getElem?_close hf hclosing] at hf'
    obtain ⟨g, hg, rfl⟩ := Option.map_eq_some_iff.1 hf'
    rw [get?_bridges_close hf hclosing, Option.isSome_map]
    have hknown := ho.known m g hg
    split <;> exact hknown

theorem Orderly.start {r : Refresher σ} (ho : Orderly r) {bridge : String} {reg : Registration σ}
    (hreg : r.bridges.get? bridge = some reg) (hidle : reg.inflight = none) :
    Orderly (r.start bridge reg) := by
  have hbridges : ∀ b, (r.start bridge reg).bridges.get? b =
      if bridge = b then some { reg with inflight := some r.refreshes.length }
      else r.bridges.get? b := fun b => Dict.get?_insert ..
  refine ⟨fun b reg' hreg' m => ?_, fun m f hf => ?_⟩
  · rw [hbridges] at hreg'
    rw [inFlight_start]
    split at hreg'
    · next hb =>
      subst hb
      cases hreg'
      -- nothing was in flight, so the new refresh is all there is
      have hnone : ¬r.InFlight bridge m := by
        rw [← ho.slots bridge reg hreg m, hidle]
        simp
      simp [hnone, eq_comm]
    · next hb =>
      rw [ho.slots b reg' hreg' m]
      simp [hb]
  · rw [hbridges]
    rw [getElem?_start] at hf
    split
    · rfl
    · next hb =>
      split at hf
      · cases hf
        exact absurd rfl hb
      · exact ho.known m f hf

theorem Orderly.register {r : Refresher σ} (ho : Orderly r) {bridge : String} {source : σ}
    {policy : RefreshPolicy} (hnone : r.bridges.get? bridge = none) :
    Orderly (r.register bridge source policy) := by
  have hbridges : ∀ b, (r.register bridge source policy).bridges.get? b =
      if bridge = b then some ⟨source, policy, none⟩ else r.bridges.get? b :=
    fun b => Dict.get?_insert ..
  refine ⟨fun b reg hreg n => ?_, fun n f hf => ?_⟩
  · rw [hbridges] at hreg
    split at hreg
    · next hb =>
      subst hb
      cases hreg
      -- the bridge was not registered, so it has no refresh of earlier
      constructor
      · intro h
        cases h
      · rintro ⟨f, hf, hfb, -⟩
        have hknown := ho.known n f hf
        rw [hfb, hnone] at hknown
        cases hknown
    · exact ho.slots b reg hreg n
  · rw [hbridges]
    split
    · rfl
    · exact ho.known n f hf

theorem Turn.orderly {n : Nat} {r r' : Refresher σ} (ht : Turn n r r') (ho : Orderly r) :
    Orderly r' := by
  cases ht with
  | idle => exact ho
  | proceed hf hopen hphase =>
    exact ho.withPhase rfl rfl hf (Refresh.Phase.isEnded_of_outcome? hopen)
      (Refresh.Phase.isEnded_of_outcome? hphase)
  | fail hf hopen =>
    exact ho.withPhase rfl rfl hf (Refresh.Phase.isEnded_of_outcome? hopen) rfl
  | succeed hf hopen =>
    exact ho.withPhase rfl rfl hf (Refresh.Phase.isEnded_of_outcome? hopen) rfl
  | close hf hclosing => exact ho.close hf hclosing

theorem Move.orderly {r r' : Refresher σ} (hm : Move r r') (ho : Orderly r) : Orderly r' := by
  cases hm with
  | alike hb hf =>
    refine ho.congr hb (fun b m => ?_) fun n f' hf' => ⟨f', hf ▸ hf', rfl⟩
    unfold InFlight
    rw [hf]
  | register hnone => exact ho.register hnone
  | start hreg hidle => exact ho.start hreg hidle
  | turn ht => exact ht.orderly ho

/-- A registered bridge stays registered, with its source and policy. -/
theorem Move.registered {r r' : Refresher σ} (hm : Move r r') {bridge : String}
    {reg : Registration σ} (hreg : r.bridges.get? bridge = some reg) :
    ∃ reg', r'.bridges.get? bridge = some reg' ∧ reg'.source = reg.source ∧
      reg'.policy = reg.policy := by
  have hsame : r'.bridges = r.bridges → ∃ reg', r'.bridges.get? bridge = some reg' ∧
      reg'.source = reg.source ∧ reg'.policy = reg.policy :=
    fun hb => ⟨reg, hb ▸ hreg, rfl, rfl⟩
  cases hm with
  | alike hb _ => exact hsame hb
  | @register b source policy hnone =>
    have hb : b ≠ bridge := by
      rintro rfl
      rw [hnone] at hreg
      cases hreg
    exact ⟨reg, by rw [get?_bridges_register, if_neg hb, hreg], rfl, rfl⟩
  | @start b breg hbreg _ =>
    by_cases hb : b = bridge
    · subst hb
      rw [hreg] at hbreg
      cases hbreg
      exact ⟨{ reg with inflight := some r.refreshes.length },
        (Dict.get?_insert ..).trans (if_pos rfl), rfl, rfl⟩
    · exact ⟨reg, by simp [Refresher.start, Dict.get?_insert, hb, hreg], rfl, rfl⟩
  | turn ht =>
    cases ht with
    | idle | proceed | fail | succeed => exact hsame rfl
    | close hf hclosing =>
      rw [get?_bridges_close hf hclosing, hreg]
      refine ⟨_, rfl, ?_⟩
      simp only
      split <;> exact ⟨rfl, rfl⟩

end Refresher

end DeviceHub
