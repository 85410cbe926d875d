import DeviceHub.Proofs.Credential.Slots

/-!
# The outcomes of refreshes

Once the outcome of a refresh is certain it stays, whatever happens afterwards. A refresh writes to the
store only in the turn in which it gets its credential, and that turn makes its outcome certain.

* `Move.settles`, `Move.outcome?`: an outcome stays.
* `Move.bridge_eq`, `Move.length_le`: a refresh is one of its bridge, and is not forgotten.
* `Turn.store`: a turn that writes to the store ends in success.
* `Move.stored`: an outcome that is a credential was stored.
-/
namespace DeviceHub

variable {σ : Type}

namespace Refresher

/-- A refresh stays one of its bridge, and once its outcome is certain it can only end with it. -/
structure Settles (f f' : Refresh σ) : Prop where
  bridge : f'.bridge = f.bridge
  phase : ∀ o, f.phase.outcome? = some o → f'.phase = f.phase ∨ f'.phase = .ended o

theorem settles_refl (f : Refresh σ) : Settles f f := ⟨rfl, fun _ _ => .inl rfl⟩

theorem Settles.outcome? {f f' : Refresh σ} (h : Settles f f') {o : Except String Credential}
    (ho : f.phase.outcome? = some o) : f'.phase.outcome? = some o := by
  rcases h.phase o ho with hp | hp
  · rw [hp, ho]
  · rw [hp]
    rfl

/-- A turn of another refresh, or one of a refresh with no outcome yet. -/
theorem settles_withPhase {r r' : Refresher σ} {n m : Nat} {f g : Refresh σ} {phase : Refresh.Phase}
    (hrefreshes : r'.refreshes = (r.withPhase n phase).refreshes) (hf : r.refreshes[n]? = some f)
    (hopen : f.phase.outcome? = none) (hg : r.refreshes[m]? = some g) :
    ∃ g', r'.refreshes[m]? = some g' ∧ Settles g g' := by
  rw [hrefreshes, getElem?_withPhase, hg]
  refine ⟨_, rfl, ?_⟩
  split
  · next hn =>
    subst hn
    rw [hf] at hg
    cases hg
    refine ⟨rfl, fun o ho => ?_⟩
    rw [hopen] at ho
    cases ho
  · exact settles_refl g

theorem Turn.settles {n : Nat} {r r' : Refresher σ} (ht : Turn n r r') {m : Nat} {g : Refresh σ}
    (hg : r.refreshes[m]? = some g) : ∃ g', r'.refreshes[m]? = some g' ∧ Settles g g' := by
  cases ht with
  | idle => exact ⟨g, hg, settles_refl g⟩
  | proceed hf hopen => exact settles_withPhase rfl hf hopen hg
  | fail hf hopen => exact settles_withPhase rfl hf hopen hg
  | succeed hf hopen => exact settles_withPhase rfl hf hopen hg
  | close hf hclosing =>
    rw [getElem?_close hf hclosing, hg]
    refine ⟨_, rfl, ?_⟩
    split
    · next hn =>
      subst hn
      rw [hf] at hg
      cases hg
      refine ⟨rfl, fun o ho => .inr ?_⟩
      rw [hclosing] at ho
      cases ho
      rfl
    · exact settles_refl g

theorem Move.settles {r r' : Refresher σ} (hm : Move r r') {m : Nat} {g : Refresh σ}
    (hg : r.refreshes[m]? = some g) : ∃ g', r'.refreshes[m]? = some g' ∧ Settles g g' := by
  cases hm with
  | alike hb hf => exact ⟨g, hf ▸ hg, settles_refl g⟩
  | register => exact ⟨g, hg, settles_refl g⟩
  | start =>
    have hlt : m < r.refreshes.length := (List.getElem?_eq_some_iff.1 hg).1
    refine ⟨g, ?_, settles_refl g⟩
    rw [getElem?_start, if_neg (Nat.ne_of_lt hlt), hg]
  | turn ht => exact ht.settles hg

/-- What those who wait get, said of the phase. -/
theorem outcome?_eq_some {r : Refresher σ} {n : Nat} {result : Except RequestError Credential} :
    r.outcome? n = some result ↔
      ∃ f o, r.refreshes[n]? = some f ∧ f.phase = .ended o ∧
        result = o.mapError .authentication := by
  unfold outcome? phase?
  cases hf : r.refreshes[n]? with
  | none => simp
  | some f =>
    cases hp : f.phase with
    | ended o =>
      have hmapped : ∀ f : String → RequestError, o.mapError f =
          match o with
          | .ok c => .ok c
          | .error e => .error (f e) := fun _ => by cases o <;> rfl
      cases o <;> simp [hp, hmapped, eq_comm]
    | _ => simp [hp]

theorem Move.outcome? {r r' : Refresher σ} (hm : Move r r') {n : Nat}
    {result : Except RequestError Credential} (h : r.outcome? n = some result) :
    r'.outcome? n = some result := by
  obtain ⟨f, o, hf, hended, hresult⟩ := outcome?_eq_some.1 h
  obtain ⟨f', hf', hsettles⟩ := hm.settles hf
  refine outcome?_eq_some.2 ⟨f', o, hf', ?_, hresult⟩
  rcases hsettles.phase o (by rw [hended]; rfl) with hp | hp
  · rw [hp, hended]
  · exact hp

/-- A refresh of a bridge may still get a credential. -/
def Undecided (r : Refresher σ) (bridge : String) : Prop :=
  ∃ (n : Nat) (f : Refresh σ), r.refreshes[n]? = some f ∧ f.bridge = bridge ∧
    f.phase.outcome? = none

theorem Move.bridge_eq {r r' : Refresher σ} (hm : Move r r') {n : Nat} {f f' : Refresh σ}
    (hf : r.refreshes[n]? = some f) (hf' : r'.refreshes[n]? = some f') : f'.bridge = f.bridge := by
  obtain ⟨g, hg, hsettles⟩ := hm.settles hf
  rw [hf'] at hg
  cases hg
  exact hsettles.bridge

/-- No refresh is ever forgotten. -/
theorem Move.length_le {r r' : Refresher σ} (hm : Move r r') :
    r.refreshes.length ≤ r'.refreshes.length := by
  refine Nat.le_of_not_lt fun hlt => ?_
  obtain ⟨g', hg', -⟩ := hm.settles (List.getElem?_eq_getElem hlt)
  simp at hg'

/-! ## What a refresh stores -/

/-- A refresh writes to the store only in the turn in which it gets its credential. -/
theorem Turn.store {n : Nat} {r r' : Refresher σ} (ht : Turn n r r') :
    r'.store = r.store ∨ ∃ c, r'.phase? n = some (.closing (.ok c)) := by
  cases ht with
  | idle | proceed | fail => exact .inl rfl
  | @succeed f c hf =>
    refine .inr ⟨(r.store.replace f.bridge c).1, ?_⟩
    rw [phase?, getElem?_withPhase]
    simp [hf]
  | close hf hclosing =>
    rw [close_eq hf hclosing]
    exact .inl rfl

/-- A refresh that is found after a turn was there before, or it is the one that took the turn. -/
theorem getElem?_withPhase_cases {r r' : Refresher σ} {n m : Nat} {f g' : Refresh σ}
    {phase : Refresh.Phase} (hrefreshes : r'.refreshes = (r.withPhase n phase).refreshes)
    (hf : r.refreshes[n]? = some f) (hg' : r'.refreshes[m]? = some g') :
    r.refreshes[m]? = some g' ∨ g' = { f with phase := phase } := by
  rw [hrefreshes, getElem?_withPhase] at hg'
  obtain ⟨g, hg, rfl⟩ := Option.map_eq_some_iff.1 hg'
  split
  · next hn =>
    subst hn
    rw [hf] at hg
    cases hg
    exact .inr rfl
  · exact .inl hg

theorem Turn.stored {n : Nat} {r r' : Refresher σ} (ht : Turn n r r') {m : Nat} {g' : Refresh σ}
    {c : Credential} (hg' : r'.refreshes[m]? = some g') (hc : g'.phase.outcome? = some (.ok c)) :
    (∃ g, r.refreshes[m]? = some g ∧ g.bridge = g'.bridge ∧ g.phase.outcome? = some (.ok c)) ∨
      g'.phase = .closing (.ok c) ∧ r'.store.current? g'.bridge = some c := by
  cases ht with
  | idle => exact .inl ⟨g', hg', rfl, hc⟩
  | proceed hf hopen hphase =>
    rcases getElem?_withPhase_cases rfl hf hg' with hg | rfl
    · exact .inl ⟨g', hg, rfl, hc⟩
    · rw [hphase] at hc
      cases hc
  | fail hf =>
    rcases getElem?_withPhase_cases rfl hf hg' with hg | rfl
    · exact .inl ⟨g', hg, rfl, hc⟩
    · cases hc
  | succeed hf =>
    rcases getElem?_withPhase_cases rfl hf hg' with hg | rfl
    · exact .inl ⟨g', hg, rfl, hc⟩
    · cases hc
      exact .inr ⟨rfl, r.store.current?_replace _ _⟩
  | close hf hclosing =>
    rw [getElem?_close hf hclosing] at hg'
    obtain ⟨g, hg, rfl⟩ := Option.map_eq_some_iff.1 hg'
    refine .inl ⟨g, hg, ?_⟩
    split at hc
    · next hn =>
      subst hn
      rw [hf] at hg
      cases hg
      cases hc
      exact ⟨by split <;> rfl, by rw [hclosing]; rfl⟩
    · exact ⟨by split <;> rfl, hc⟩

/-- A credential is the outcome of a refresh only if the refresh has just stored it, or had it
before. -/
theorem Move.stored {r r' : Refresher σ} (hm : Move r r') {m : Nat} {g' : Refresh σ}
    {c : Credential} (hg' : r'.refreshes[m]? = some g') (hc : g'.phase.outcome? = some (.ok c)) :
    (∃ g, r.refreshes[m]? = some g ∧ g.bridge = g'.bridge ∧ g.phase.outcome? = some (.ok c)) ∨
      g'.phase = .closing (.ok c) ∧ r'.store.current? g'.bridge = some c := by
  cases hm with
  | alike hb hf => exact .inl ⟨g', hf ▸ hg', rfl, hc⟩
  | register => exact .inl ⟨g', hg', rfl, hc⟩
  | start =>
    rw [getElem?_start] at hg'
    split at hg'
    · cases hg'
      cases hc
    · exact .inl ⟨g', hg', rfl, hc⟩
  | turn ht => exact ht.stored hg' hc

end Refresher

end DeviceHub
