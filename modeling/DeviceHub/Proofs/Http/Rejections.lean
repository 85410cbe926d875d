import DeviceHub.Proofs.Http.Traffic
import Mathlib.Data.Finset.Card
import Mathlib.Data.Finset.Dedup

/-!
# What rejections cost

When the vendor refuses a token, every fetch that holds it hears so, sooner or later, and drops the
credential of the bridge if it is still that one. The source mints tokens that differ and stay good.
So a refresh starts only when the last token has been refused, and however many fetches hear of it,
the next token stays.

`Ledger` is what every act preserves: but for the last one all tokens were refused, and the store has
the last one or it was refused as well.

* `Ledger.about`: an act of somebody else.
* `Ledger.answer`: an answer to a fetch.
* `successes_le_rejected`: the bound, for every run.
-/
namespace DeviceHub.Traffic

variable {σ : Type} {bridge : String} {policy : RefreshPolicy} {s : Traffic σ}

/-- The slot of the bridge has the credential that was minted last, or all were refused. -/
inductive Held (slot : CredentialSlot) (minted rejected : List Credential) : Prop where
  | missing (current : slot.current = none)
      (refused : ∀ c ∈ minted, c.key ∈ rejected.map Credential.key)
  | newest {c held : Credential} {older : List Credential} (minted : minted = c :: older)
      (current : slot.current = some held) (key : held.key = c.key)
      (expiry : slot.reportedExpiry = some c.expiresAt)

/-- What every act preserves. -/
structure Ledger (bridge : String) (policy : RefreshPolicy) (s : Traffic σ) : Prop where
  orderly : s.renewal.refresher.Orderly
  registered : ∃ reg, s.renewal.refresher.bridges.get? bridge = some reg ∧ reg.policy = policy
  successes : s.renewal.refresher.successes bridge = s.minted.length
  older : ∀ c ∈ s.minted.tail, c.key ∈ s.rejected.map Credential.key
  held : Held (s.renewal.refresher.store.slot bridge) s.minted s.rejected
  /-- Who may still get a credential was needed. -/
  undecided : s.renewal.refresher.Undecided bridge →
    (s.renewal.refresher.store.slot bridge).current = none
  now : s.renewal.now ∈ s.times

theorem ledger_start (bridge : String) (source : σ) (policy : RefreshPolicy) (now : Instant) :
    Ledger bridge policy (start bridge source policy now) := by
  have hnone : (Refresher.empty : Refresher σ).bridges.get? bridge = none := rfl
  refine ⟨?_, ⟨⟨source, policy, none⟩, ?_, rfl⟩, rfl, ?_, .missing rfl ?_, ?_, ?_⟩
  · exact (Renewal.move_step Renewal.new (.register bridge source policy)).orderly
      Renewal.orderly_new
  · exact (Dict.get?_insert ..).trans (if_pos rfl)
  · intro c hc
    cases hc
  · intro c hc
    cases hc
  · intro
    rfl
  · exact List.mem_singleton.2 rfl

/-- An act that the store and the refreshes do not notice. -/
theorem Ledger.congr {s' : Traffic σ} (h : Ledger bridge policy s)
    (hr : s'.renewal.refresher = s.renewal.refresher) (hm : s'.minted = s.minted)
    (hj : s'.rejected = s.rejected) (hnow : s'.renewal.now ∈ s'.times) :
    Ledger bridge policy s' := by
  refine ⟨?_, ?_, ?_, ?_, ?_, ?_, hnow⟩
  · rw [hr]
    exact h.orderly
  · rw [hr]
    exact h.registered
  · rw [hr, hm]
    exact h.successes
  · rw [hm, hj]
    exact h.older
  · rw [hr, hm, hj]
    exact h.held
  · rw [hr]
    exact h.undecided

/-! ## Acts of others -/

/-- Without a credential all were refused. -/
theorem Held.refused_of_none {slot : CredentialSlot} {minted rejected : List Credential}
    (h : Held slot minted rejected) (hnone : slot.current = none) :
    ∀ c ∈ minted, c.key ∈ rejected.map Credential.key := by
  cases h with
  | missing _ refused => exact refused
  | newest _ current => cases hnone.symm.trans current

/-- The credential that was minted last is good, unless it was refused. -/
theorem Held.current_of_fresh?_none {slot : CredentialSlot} {minted rejected : List Credential}
    {margin : Int} {now : Instant} (h : Held slot minted rejected)
    (hlasting : ∀ c ∈ minted, c.expiresAt.isWithin margin now = false)
    (hmissing : slot.fresh? margin now = none) : slot.current = none := by
  cases h with
  | missing current => exact current
  | @newest c held older minted current _ expiry =>
    have hgood : c.expiresAt.isWithin margin now = false := hlasting c (by simp [minted])
    simp [CredentialSlot.fresh?, current, expiry, hgood] at hmissing

theorem Ledger.about {s' : Traffic σ} (h : Ledger bridge policy s) {m : Option Credential}
    (hlasting : ∀ c ∈ s.minted, c.expiresAt.isWithin policy.marginNanos s.renewal.now = false)
    (hm : Refresher.Move s.renewal.refresher s'.renewal.refresher)
    (ha : Refresher.About bridge policy.marginNanos s.renewal.now s.renewal.refresher
      s'.renewal.refresher m)
    (hminted : s'.minted = m.toList ++ s.minted) (hj : s'.rejected = s.rejected)
    (hnow : s'.renewal.now ∈ s'.times) : Ledger bridge policy s' := by
  have hregistered : ∃ reg, s'.renewal.refresher.bridges.get? bridge = some reg ∧
      reg.policy = policy := by
    obtain ⟨reg, hreg, hpolicy⟩ := h.registered
    obtain ⟨reg', hreg', -, hpolicy'⟩ := hm.registered hreg
    exact ⟨reg', hreg', hpolicy'.trans hpolicy⟩
  cases ha with
  | aside slot successes undecided =>
    have hsame : s'.minted = s.minted := hminted
    refine ⟨hm.orderly h.orderly, hregistered, ?_, ?_, ?_, fun hu => ?_, hnow⟩
    · rw [successes, hsame]
      exact h.successes
    · rw [hsame, hj]
      exact h.older
    · rw [slot, hsame, hj]
      exact h.held
    · rw [slot]
      exact h.undecided (undecided hu)
  | starts slot successes missing =>
    have hsame : s'.minted = s.minted := hminted
    refine ⟨hm.orderly h.orderly, hregistered, ?_, ?_, ?_, fun _ => ?_, hnow⟩
    · rw [successes, hsame]
      exact h.successes
    · rw [hsame, hj]
      exact h.older
    · rw [slot, hsame, hj]
      exact h.held
    · rw [slot]
      exact h.held.current_of_fresh?_none hlasting missing
  | @mints c slot successes undecided decided =>
    have hmore : s'.minted = c :: s.minted := hminted
    -- the refresh was needed, so every token so far was refused
    have hrefused := h.held.refused_of_none (h.undecided undecided)
    refine ⟨hm.orderly h.orderly, hregistered, ?_, ?_, ?_, fun hu => absurd hu decided, hnow⟩
    · rw [successes, hmore, h.successes]
      rfl
    · rw [hmore, hj]
      exact hrefused
    · rw [slot, hmore]
      refine .newest rfl (CredentialSlot.current_replace _ _) ?_ rfl
      unfold CredentialSlot.published
      split <;> rfl

theorem Ledger.renew (h : Ledger bridge policy s)
    (hlasting : ∀ c ∈ s.minted, c.expiresAt.isWithin policy.marginNanos s.renewal.now = false)
    (a : Renewal.Act σ) : Ledger bridge policy (s.step bridge (.renew a)) := by
  cases ha : drops bridge a with
  | true =>
    have hidle : s.step bridge (.renew a) = s := by simp [step, ha]
    rw [hidle]
    exact h
  | false =>
    have hstep : s.step bridge (.renew a) =
        { s with
          renewal := s.renewal.step a
          minted := (minted? s.renewal.refresher bridge a).toList ++ s.minted
          times := (s.renewal.step a).now :: s.times } := by
      simp [step, ha]
    obtain ⟨reg, hreg, rfl⟩ := h.registered
    rw [hstep]
    exact h.about hlasting (Renewal.move_step s.renewal a) (about_step h.orderly hreg ha) rfl rfl
      List.mem_cons_self

/-! ## Answers -/

/-- What becomes of the slot of the bridge when a credential is refused, and the refusal is noted. -/
theorem Held.invalidateIf {store : CredentialStore} {minted rejected : List Credential}
    (h : Held (store.slot bridge) minted rejected)
    (holder : ∀ c ∈ minted.tail, c.key ∈ rejected.map Credential.key) (c : Credential) :
    Held ((store.invalidateIf bridge c).2.slot bridge) minted (c :: rejected) := by
  have hmore : ∀ k ∈ rejected.map Credential.key, k ∈ (c :: rejected).map Credential.key :=
    fun k hk => List.mem_cons_of_mem _ hk
  rw [CredentialStore.slot_invalidateIf]
  split
  · next hdropped =>
    refine .missing rfl fun d hd => ?_
    cases h with
    | missing _ refused => exact hmore _ (refused d hd)
    | @newest last held older hminted current key _ =>
      subst hminted
      rcases List.mem_cons.1 hd with rfl | hd
      · -- it is the refused token that the slot held
        have hheld : held.key = c.key := by
          have hholds := hdropped.2
          simp only [CredentialSlot.holds, current, Option.any_some] at hholds
          exact Credential.sameToken_iff.1 hholds
        rw [← key, hheld]
        exact List.mem_cons_self
      · exact hmore _ (holder d hd)
  · cases h with
    | missing current refused => exact .missing current fun d hd => hmore _ (refused d hd)
    | newest minted current key expiry => exact .newest minted current key expiry

theorem current_invalidateIf {store : CredentialStore} (hnone : (store.slot bridge).current = none)
    (c : Credential) : ((store.invalidateIf bridge c).2.slot bridge).current = none := by
  rw [CredentialStore.slot_invalidateIf]
  split
  · rfl
  · exact hnone

theorem Held.mono {slot : CredentialSlot} {minted rejected more : List Credential}
    (h : Held slot minted rejected) : Held slot minted (more ++ rejected) := by
  cases h with
  | missing current refused =>
    refine .missing current fun c hc => ?_
    rw [List.map_append]
    exact List.mem_append_right _ (refused c hc)
  | newest minted current key expiry => exact .newest minted current key expiry

theorem Ledger.answer (h : Ledger bridge policy s) (i : Nat) (result : Except RequestError Payload) :
    Ledger bridge policy (s.step bridge (.answer i result)) := by
  simp only [step]
  split
  · next phase caller _ =>
    have hmore : ∀ c ∈ s.minted.tail,
        c.key ∈ ((phase.rejected? result).toList ++ s.rejected).map Credential.key := by
      intro c hc
      rw [List.map_append]
      exact List.mem_append_right _ (h.older c hc)
    cases hrefused : phase.refused? result with
    | none =>
      exact ⟨h.orderly, h.registered, h.successes, hmore, h.held.mono, h.undecided, h.now⟩
    | some c =>
      have hrejected := Fetch.Phase.rejected?_of_refused? hrefused
      have horderly := (Renewal.move_step s.renewal (.invalidateIf bridge c)).orderly h.orderly
      rw [hrejected] at hmore ⊢
      exact ⟨horderly, h.registered, h.successes, hmore, h.held.invalidateIf h.older c,
        fun hu => current_invalidateIf (h.undecided hu) c, h.now⟩
  · exact h

/-! ## Runs -/

theorem Ledger.step (h : Ledger bridge policy s)
    (hlasting : ∀ c ∈ s.minted, c.expiresAt.isWithin policy.marginNanos s.renewal.now = false)
    (a : Act σ) : Ledger bridge policy (s.step bridge a) := by
  cases a with
  | renew a => exact h.renew hlasting a
  | fetch => exact h.congr rfl rfl rfl h.now
  | ask i =>
    simp only [Traffic.step]
    split
    · split
      · exact h.congr rfl rfl rfl h.now
      · exact h
    · exact h
  | credit i =>
    simp only [Traffic.step]
    split
    · split
      · exact h.congr rfl rfl rfl h.now
      · exact h
    · exact h
  | answer i result => exact h.answer i result

/-- What was noted stays. -/
theorem subset_step (bridge : String) (s : Traffic σ) (a : Act σ) :
    s.minted ⊆ (s.step bridge a).minted ∧ s.times ⊆ (s.step bridge a).times := by
  cases a with
  | renew a =>
    simp only [step]
    split
    · exact ⟨List.Subset.refl _, List.Subset.refl _⟩
    · exact ⟨List.subset_append_right _ _, List.subset_cons_self _ _⟩
  | fetch => exact ⟨List.Subset.refl _, List.Subset.refl _⟩
  | ask i =>
    simp only [step]
    split
    · split <;> exact ⟨List.Subset.refl _, List.Subset.refl _⟩
    · exact ⟨List.Subset.refl _, List.Subset.refl _⟩
  | credit i =>
    simp only [step]
    split
    · split <;> exact ⟨List.Subset.refl _, List.Subset.refl _⟩
    · exact ⟨List.Subset.refl _, List.Subset.refl _⟩
  | answer i result =>
    simp only [step]
    split <;> exact ⟨List.Subset.refl _, List.Subset.refl _⟩

theorem subset_run (bridge : String) (s : Traffic σ) (acts : List (Act σ)) :
    s.minted ⊆ (s.run bridge acts).minted ∧ s.times ⊆ (s.run bridge acts).times := by
  induction acts generalizing s with
  | nil => exact ⟨List.Subset.refl _, List.Subset.refl _⟩
  | cons a acts ih =>
    obtain ⟨hminted, htimes⟩ := subset_step bridge s a
    obtain ⟨hminted', htimes'⟩ := ih (s.step bridge a)
    exact ⟨List.Subset.trans hminted hminted', List.Subset.trans htimes htimes'⟩

theorem Ledger.run (h : Ledger bridge policy s) (acts : List (Act σ))
    (hlasting : ∀ c ∈ (s.run bridge acts).minted, ∀ t ∈ (s.run bridge acts).times,
      c.expiresAt.isWithin policy.marginNanos t = false) :
    Ledger bridge policy (s.run bridge acts) := by
  induction acts generalizing s with
  | nil => exact h
  | cons a acts ih =>
    obtain ⟨hminted, htimes⟩ := subset_run bridge s (a :: acts)
    have hnow : ∀ c ∈ s.minted,
        c.expiresAt.isWithin policy.marginNanos s.renewal.now = false :=
      fun c hc => hlasting c (hminted hc) _ (htimes h.now)
    exact ih (h.step hnow a) hlasting

/-! ## The bound -/

/-- But for the last one, every refresh was paid for by a token that was refused. -/
theorem Ledger.successes_le (h : Ledger bridge policy s)
    (hdistinct : (s.minted.map Credential.key).Nodup) :
    s.renewal.refresher.successes bridge ≤ 1 + (s.rejected.map Credential.key).toFinset.card := by
  have hnodup : (s.minted.tail.map Credential.key).Nodup := by
    rw [List.map_tail]
    exact hdistinct.sublist (List.tail_sublist _)
  have hsubset : (s.minted.tail.map Credential.key).toFinset ⊆
      (s.rejected.map Credential.key).toFinset := by
    intro k hk
    obtain ⟨c, hc, rfl⟩ := List.mem_map.1 (List.mem_toFinset.1 hk)
    exact List.mem_toFinset.2 (h.older c hc)
  have hcard := Finset.card_le_card hsubset
  rw [List.toFinset_card_of_nodup hnodup, List.length_map, List.length_tail] at hcard
  rw [h.successes]
  omega

/-- A slot that holds the token minted last does not hold another. -/
theorem Held.not_holds {slot : CredentialSlot} {last c : Credential}
    {older rejected : List Credential} (h : Held slot (last :: older) rejected)
    (hother : last.key ≠ c.key) : slot.holds c = false := by
  cases h with
  | missing current => simp [CredentialSlot.holds, current]
  | newest minted current key =>
    cases minted
    rw [CredentialSlot.holds, current, Option.any_some, ← Bool.not_eq_true, Credential.sameToken_iff,
      key]
    exact hother

/-- However often a token that was replaced is refused, nobody but the fetch notices. -/
theorem Ledger.renewal_answer (h : Ledger bridge policy s) {i : Nat} {f : Fetching}
    {c last : Credential} {older : List Credential} (hf : s.fetches[i]? = some f)
    (hsent : f.phase.sent? = some c) (hminted : s.minted = last :: older)
    (hother : last.key ≠ c.key) (result : Except RequestError Payload) :
    (s.step bridge (.answer i result)).renewal = s.renewal := by
  obtain ⟨phase, caller⟩ := f
  simp only [Traffic.step, hf]
  cases hrefused : phase.refused? result with
  | none => rfl
  | some d =>
    have hd : d = c := by
      have hrejected := Fetch.Phase.rejected?_of_refused? hrefused
      cases result with
      | ok => cases hrejected
      | error e =>
        simp only [Fetch.Phase.rejected?] at hrejected
        split at hrejected
        · exact Option.some.inj (hrejected.symm.trans hsent)
        · cases hrejected
    subst hd
    have hheld := h.held
    rw [hminted] at hheld
    have hholds := hheld.not_holds hother
    simp [Renewal.step, Refresher.invalidateIf, CredentialStore.invalidateIf, hholds]

/-- A token that was refused for the first time is not in the store afterwards. -/
theorem current?_answer {i : Nat} {f : Fetching} {c held : Credential} {e : RequestError}
    (hf : s.fetches[i]? = some f) (hsent : f.phase = .sent c) (he : e.isAuthRejection = true)
    (hheld : (s.step bridge (.answer i (.error e))).renewal.refresher.store.current? bridge =
      some held) : held.key ≠ c.key := by
  obtain ⟨phase, caller⟩ := f
  subst hsent
  have hstore : (s.step bridge (.answer i (.error e))).renewal.refresher.store =
      (s.renewal.refresher.store.invalidateIf bridge c).2 := by
    simp [Traffic.step, hf, Fetch.Phase.refused?, he, Renewal.step, Refresher.invalidateIf]
  rw [hstore, CredentialStore.current?, CredentialStore.slot_invalidateIf] at hheld
  split at hheld
  · cases hheld
  · next hnot =>
    intro hkey
    apply hnot
    simp [CredentialSlot.holds, hheld, Credential.sameToken_iff, hkey]

/-- However many fetches share a bridge, and in whatever order they ask, are answered and hear that
their tokens are no good, beside all that others do: when the tokens of the source differ and stay
good, at most one refresh more gets a credential than tokens were refused. The refusal of a token that
another has replaced changes nothing for anybody else, and the one of a token in use takes it out of
use. -/
theorem successes_le_rejected (bridge : String) (source : σ) (policy : RefreshPolicy)
    (now : Instant) (acts : List (Act σ)) :
    let s := (start bridge source policy now).run bridge acts
    (s.minted.map Credential.key).Nodup →
    (∀ c ∈ s.minted, ∀ t ∈ s.times, c.expiresAt.isWithin policy.marginNanos t = false) →
    s.renewal.refresher.successes bridge ≤ 1 + (s.rejected.map Credential.key).toFinset.card ∧
    (∀ (i : Nat) f c last older, s.fetches[i]? = some f → f.phase.sent? = some c →
      s.minted = last :: older → last.key ≠ c.key →
      ∀ result, (s.step bridge (.answer i result)).renewal = s.renewal) ∧
    (∀ (i : Nat) f c e held, s.fetches[i]? = some f → f.phase = .sent c →
      e.isAuthRejection = true →
      (s.step bridge (.answer i (.error e))).renewal.refresher.store.current? bridge = some held →
      held.key ≠ c.key) := by
  intro s hdistinct hlasting
  have h : Ledger bridge policy s := (ledger_start bridge source policy now).run acts hlasting
  refine ⟨h.successes_le hdistinct, ?_, ?_⟩
  · intro i f c last older hf hsent hminted hother result
    exact h.renewal_answer hf hsent hminted hother result
  · intro i f c e held hf hsent he hheld
    exact current?_answer hf hsent he hheld

/-- Two fetches hold one token. The first is refused and gets the next token; the second hears only
then that the first token is no good. -/
theorem successes_le_rejected_late :
    let first := Credential.bearer "first"
    let second := Credential.bearer "second"
    let acts : List (Act Unit) := [.fetch, .fetch, .ask 0, .ask 1, .renew (.join 0),
      .renew (.join 1), .renew (.begin 0), .renew (.receive 0 (.ok first)), .renew (.close 0),
      .renew (.deliver 0), .renew (.deliver 1), .credit 0, .credit 1,
      .answer 0 (.error .sessionExpired), .ask 0, .renew (.join 2), .renew (.begin 1),
      .renew (.receive 1 (.ok second)), .renew (.close 1)]
    let s := (start "hub" () .usual .epoch).run "hub" acts
    s.minted = [second, first] ∧ s.rejected = [first] ∧
      s.renewal.refresher.successes "hub" ≤ 2 ∧
      (s.step "hub" (.answer 1 (.error .sessionExpired))).renewal.refresher.store.current? "hub" =
        some second := by
  intro first second acts s
  have hminted : s.minted = [second, first] := by decide +kernel
  have hrejected : s.rejected = [first] := by decide +kernel
  have hcurrent : s.renewal.refresher.store.current? "hub" = some second := by decide +kernel
  have hfetch : (s.fetches[1]?.bind fun f => f.phase.sent?) = some first := by decide +kernel
  obtain ⟨f, hf, hsent⟩ := Option.bind_eq_some_iff.1 hfetch
  have hother : second.key ≠ first.key := by decide
  have hdistinct : (s.minted.map Credential.key).Nodup := by
    rw [hminted]
    decide
  have hlasting : ∀ c ∈ s.minted, ∀ t ∈ s.times,
      c.expiresAt.isWithin RefreshPolicy.usual.marginNanos t = false := by
    rw [hminted]
    decide +kernel
  obtain ⟨hle, hlate, -⟩ := successes_le_rejected "hub" () .usual .epoch acts hdistinct hlasting
  refine ⟨hminted, hrejected, ?_, ?_⟩
  · have hcard : (s.rejected.map Credential.key).toFinset.card = 1 := by
      rw [hrejected]
      rfl
    rw [hcard] at hle
    exact hle
  · rw [hlate 1 f first second _ hf hsent hminted hother]
    exact hcurrent

end DeviceHub.Traffic
