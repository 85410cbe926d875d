import DeviceHub.Proofs.Credential.Replacement

/-!
# Which sources a bridge's credentials come from

Whatever happens, a credential that a caller gets for a bridge was got by a refresh of that bridge, from
a source that the bridge has had. It need not be the source that the bridge has now: that is so during a
`Tenure`, which ends when the bridge is registered again and begins when nothing of the bridge was
undecided then.

* `Progress.lasts`: refreshes keep their bridges, their sources and their outcomes.
* `Sourced.step`, `Sourced.register`: all that is known about a bridge goes back to its sources.
* `Sourced.lent_of_call`, `Sourced.owed_of_call`: so does what a caller gets or waits for.
* `Tenure.aside`, `tenure_register`: the registration of another bridge, and of the bridge itself.
-/
namespace DeviceHub

variable {σ : Type}

namespace Refresher

variable {bridge : String} {ok ok' : σ → Prop} {r r' r'' : Refresher σ}

/-- No refresh is forgotten, and none changes its bridge, its source or a certain outcome. -/
def Lasts (r r' : Refresher σ) : Prop :=
  ∀ (n : Nat) f, r.refreshes[n]? = some f →
    ∃ f', r'.refreshes[n]? = some f' ∧ f'.bridge = f.bridge ∧ f'.source = f.source ∧
      ∀ o, f.phase.outcome? = some o → f'.phase.outcome? = some o

theorem lasts_of_eq (h : r'.refreshes = r.refreshes) : Lasts r r' := fun _ f hf =>
  ⟨f, h ▸ hf, rfl, rfl, fun _ => id⟩

/-- What can happen when no bridge is registered. -/
structure Progress (r r' : Refresher σ) : Prop where
  move : Move r r'
  effect : ∀ bridge, Effect bridge r r'

theorem progress_call (r : Refresher σ) (bridge : String) (now : Instant) :
    Progress r (r.call bridge now).2 := ⟨r.move_call bridge now, fun _ => effect_call bridge now⟩

theorem progress_invalidateIf (r : Refresher σ) (bridge : String) (refused : Credential) :
    Progress r (r.invalidateIf bridge refused) :=
  ⟨.alike rfl rfl, fun _ => effect_alike rfl rfl (rewrites_invalidateIf bridge refused)⟩

theorem progress_begin (r : Refresher σ) (n : Nat) : Progress r (r.begin n) :=
  ⟨.turn (r.turn_begin n), fun _ => effect_begin n⟩

theorem progress_receive (r : Refresher σ) (n : Nat) (result : Except RequestError Credential) :
    Progress r (r.receive n result) :=
  ⟨.turn (r.turn_receive n result), fun _ => effect_receive n result⟩

theorem progress_resume (r : Refresher σ) (n : Nat) : Progress r (r.resume n) :=
  ⟨.turn (r.turn_resume n), fun _ => effect_resume n⟩

theorem progress_close (r : Refresher σ) (n : Nat) : Progress r (r.close n) :=
  ⟨.turn (r.turn_close n), fun _ => effect_close n⟩

theorem Progress.lasts (h : Progress r r') : Lasts r r' := by
  intro n f hf
  obtain ⟨f', hf', hsettles⟩ := h.move.settles hf
  refine ⟨f', hf', hsettles.bridge, ?_, fun o => hsettles.outcome?⟩
  rcases (h.effect f'.bridge).refreshes n f' hf' rfl with ⟨g, hg, hcontinues⟩ | ⟨hnew, -⟩
  · rw [hf] at hg
    cases hg
    exact hcontinues.source
  · exact absurd (List.getElem?_eq_some_iff.1 hf).1 (by omega)

/-- A credential that a refresh of a bridge got from a source of some kind. -/
def Lent (bridge : String) (ok : σ → Prop) (r : Refresher σ) (c : Credential) : Prop :=
  ∃ (n : Nat) (f : Refresh σ), r.refreshes[n]? = some f ∧ f.bridge = bridge ∧ ok f.source ∧
    f.phase.outcome? = some (.ok c)

/-- A refresh of a bridge that asks a source of some kind. -/
def Owed (bridge : String) (ok : σ → Prop) (r : Refresher σ) (n : Nat) : Prop :=
  ∃ f : Refresh σ, r.refreshes[n]? = some f ∧ f.bridge = bridge ∧ ok f.source

theorem Lent.lasts {c : Credential} (h : Lent bridge ok r c) (hl : Lasts r r') :
    Lent bridge ok r' c := by
  obtain ⟨n, f, hf, hb, hok, hc⟩ := h
  obtain ⟨f', hf', hbridge, hsource, houtcome⟩ := hl n f hf
  exact ⟨n, f', hf', hbridge.trans hb, hsource ▸ hok, houtcome _ hc⟩

theorem Lent.mono {c : Credential} (h : Lent bridge ok r c) (hmono : ∀ s, ok s → ok' s) :
    Lent bridge ok' r c := by
  obtain ⟨n, f, hf, hb, hok, hc⟩ := h
  exact ⟨n, f, hf, hb, hmono _ hok, hc⟩

theorem Owed.mono {n : Nat} (h : Owed bridge ok r n) (hmono : ∀ s, ok s → ok' s) :
    Owed bridge ok' r n := by
  obtain ⟨f, hf, hb, hok⟩ := h
  exact ⟨f, hf, hb, hmono _ hok⟩

theorem Owed.lasts {n : Nat} (h : Owed bridge ok r n) (hl : Lasts r r') :
    Owed bridge ok r' n := by
  obtain ⟨f, hf, hb, hok⟩ := h
  obtain ⟨f', hf', hbridge, hsource, -⟩ := hl n f hf
  exact ⟨f', hf', hbridge.trans hb, hsource ▸ hok⟩

/-- Who hears of a refresh gets what its source gave. -/
theorem Owed.lent {n : Nat} (h : Owed bridge ok r n) {c : Credential}
    (hc : r.outcome? n = some (.ok c)) : Lent bridge ok r c := by
  obtain ⟨f, hf, hb, hok⟩ := h
  obtain ⟨g, outcome, hg, hended, hresult⟩ := outcome?_eq_some.1 hc
  rw [hf] at hg
  cases hg
  refine ⟨n, f, hf, hb, hok, ?_⟩
  rw [hended]
  cases outcome with
  | ok d =>
    cases hresult
    rfl
  | error text => cases hresult

/-! ## What a call finds -/

/-- What is granted is stored. -/
theorem current_of_call {now : Instant} {c : Credential}
    (hc : (r.call bridge now).1 = .granted c) : (r.store.slot bridge).current = some c := by
  unfold call at hc
  split at hc
  · cases hc
  · split at hc
    · next hfresh =>
      cases hc
      exact (Option.filter_eq_some_iff.1 hfresh).1
    · split at hc <;> cases hc

/-- Who has to wait waits for the refresh under way, or for one that begins now. -/
theorem awaits_of_call {now : Instant} {n : Nat} (hn : (r.call bridge now).1 = .awaits n) :
    ∃ reg, r.bridges.get? bridge = some reg ∧
      (reg.inflight = some n ∨ n = r.refreshes.length ∧
        (r.call bridge now).2 = r.start bridge reg) := by
  unfold call at hn ⊢
  split at hn
  · cases hn
  · next reg hreg =>
    refine ⟨reg, hreg, ?_⟩
    split at hn
    · cases hn
    · split at hn
      · next hslot =>
        cases hn
        exact .inl hslot
      · next hslot =>
        cases hn
        simp_all

/-! ## All that is known about a bridge -/

/-- All that is known about a bridge goes back to sources of some kind. -/
structure Sourced (bridge : String) (ok : σ → Prop) (r : Refresher σ) : Prop where
  registered : ∀ reg, r.bridges.get? bridge = some reg → ok reg.source ∧
    ∀ n, reg.inflight = some n → ∃ f, r.refreshes[n]? = some f ∧ f.bridge = bridge
  refreshes : ∀ (n : Nat) f, r.refreshes[n]? = some f → f.bridge = bridge → ok f.source
  current : ∀ c, (r.store.slot bridge).current = some c → Lent bridge ok r c

theorem sourced_empty : Sourced bridge ok (.empty : Refresher σ) := by
  refine ⟨fun reg hreg => ?_, fun n f hf => ?_, fun c hc => ?_⟩
  · cases hreg
  · cases hf
  · cases hc

theorem Sourced.step (h : Sourced bridge ok r) (hl : Lasts r r') (he : Effect bridge r r') :
    Sourced bridge ok r' := by
  refine ⟨fun reg' hreg' => ?_, fun n f' hf' hb => ?_, fun c hc => ?_⟩
  · obtain ⟨reg, hreg, hsource, hinflight⟩ := he.bridges reg' hreg'
    obtain ⟨hok, hslot⟩ := h.registered reg hreg
    refine ⟨hsource ▸ hok, fun n hn => ?_⟩
    rcases hinflight n hn with hold | ⟨-, hnew⟩
    · obtain ⟨f, hf, hb⟩ := hslot n hold
      obtain ⟨f', hf', hbridge, -⟩ := hl n f hf
      exact ⟨f', hf', hbridge.trans hb⟩
    · exact hnew
  · rcases he.refreshes n f' hf' hb with ⟨f, hf, hcontinues⟩ | ⟨-, -, reg, hreg, hsource⟩
    · rw [hcontinues.source]
      exact h.refreshes n f hf (hcontinues.bridge.symm.trans hb)
    · rw [hsource]
      exact (h.registered reg hreg).1
  · cases he.slot with
    | same slot =>
      rw [slot] at hc
      exact (h.current c hc).lasts hl
    | dropped slot =>
      rw [slot] at hc
      cases hc
    | @replaced n f f' d before ofBridge _ after outcome slot =>
      rw [slot] at hc
      cases hc
      obtain ⟨g, hg, hbridge, hsource, -⟩ := hl n f before
      rw [after] at hg
      cases hg
      exact ⟨n, f', after, hbridge.trans ofBridge, hsource ▸ h.refreshes n f before ofBridge, outcome⟩

/-- A bridge that gets another source starts with nothing but its refreshes. -/
theorem Sourced.register (h : Sourced bridge ok r) {source : σ} (hsource : ok source)
    (policy : RefreshPolicy) : Sourced bridge ok (r.register bridge source policy) := by
  refine ⟨fun reg hreg => ?_, h.refreshes, fun c hc => ?_⟩
  · rw [get?_bridges_register, if_pos rfl] at hreg
    cases hreg
    exact ⟨hsource, nofun⟩
  · rw [slot_register, if_pos rfl] at hc
    cases hc

theorem Sourced.mono (h : Sourced bridge ok r) (hmono : ∀ s, ok s → ok' s) :
    Sourced bridge ok' r := by
  refine ⟨fun reg hreg => ?_, fun n f hf hb => hmono _ (h.refreshes n f hf hb),
    fun c hc => (h.current c hc).mono hmono⟩
  obtain ⟨hok, hslot⟩ := h.registered reg hreg
  exact ⟨hmono _ hok, hslot⟩

theorem Sourced.lent_of_call (h : Sourced bridge ok r) {now : Instant} {c : Credential}
    (hc : (r.call bridge now).1 = .granted c) : Lent bridge ok r c :=
  h.current c (current_of_call hc)

theorem Sourced.owed_of_call (h : Sourced bridge ok r) {now : Instant} {n : Nat}
    (hn : (r.call bridge now).1 = .awaits n) : Owed bridge ok (r.call bridge now).2 n := by
  obtain ⟨reg, hreg, hjoins | ⟨rfl, hstarts⟩⟩ := awaits_of_call hn
  · obtain ⟨hok, hslot⟩ := h.registered reg hreg
    obtain ⟨f, hf, hb⟩ := hslot n hjoins
    have howed : Owed bridge ok r n := ⟨f, hf, hb, h.refreshes n f hf hb⟩
    exact howed.lasts (r.progress_call bridge now).lasts
  · rw [hstarts]
    exact ⟨_, (getElem?_start ..).trans (if_pos rfl), rfl, (h.registered reg hreg).1⟩

end Refresher

/-! ## The time of one source -/

namespace Renewal

variable {bridge : String} {source : σ} {first : Nat} {r : Refresher σ}

/-- The registration of another bridge does not end the time of a source. -/
theorem Tenure.aside (h : Tenure bridge source first r) {other : String} (hother : other ≠ bridge)
    (added : σ) (policy : RefreshPolicy) :
    Tenure bridge source first (r.register other added policy) := by
  refine ⟨?_, h.first_le, h.earlier, h.refreshes, fun c hc => ?_, fun t ht => ?_⟩
  · rw [Refresher.get?_bridges_register, if_neg hother]
    exact h.registered
  · rw [Refresher.slot_register, if_neg hother] at hc
    exact h.current c hc
  · rw [Refresher.slot_register, if_neg hother] at ht
    exact h.refreshToken t ht

/-- The time of a source begins with its registration, if nothing of the bridge is undecided. -/
theorem tenure_register (hdecided : ¬r.Undecided bridge) (source : σ) (policy : RefreshPolicy) :
    Tenure bridge source r.refreshes.length (r.register bridge source policy) := by
  have hquiet : Quiet bridge (⟨r, [], .epoch⟩ : Renewal σ) := ⟨hdecided, fun _ => nofun⟩
  exact hquiet.tenure_replace source policy

theorem Tenure.lent_of_call (h : Tenure bridge source first r) {now : Instant} {c : Credential}
    (hc : (r.call bridge now).1 = .granted c) : r.Lent bridge (· = source) c := by
  obtain ⟨n, f, hown, houtcome⟩ := h.own_of_given (h.given_of_call hc)
  exact ⟨n, f, hown.found, hown.bridge, hown.source, houtcome⟩

theorem Tenure.owed_of_call (h : Tenure bridge source first r) {now : Instant} {n : Nat}
    (hn : (r.call bridge now).1 = .awaits n) :
    (r.call bridge now).2.Owed bridge (· = source) n := by
  obtain ⟨hle, f, hf, hb⟩ := h.awaits hn
  have hafter : Tenure bridge source first (r.call bridge now).2 :=
    h.step (r.move_call bridge now) (Refresher.effect_call bridge now)
  exact ⟨f, hf, hb, (hafter.refreshes n f hle hf hb).1⟩

end Renewal

end DeviceHub
