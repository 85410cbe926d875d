import DeviceHub.Proofs.Credential.Effects

/-!
# Another source for a bridge

A bridge that gets another source forgets what was stored for it. Refreshes of the earlier source do
not: one that is still undecided stores its credential later, under the name of the bridge
(`stored_after_replacement`), and from then on callers get it and the new source is shown its refresh
token (`replaced_in_flight`). So a new source takes full effect when no refresh of the bridge is
undecided (`replaced_in_full`).

* `Tenure.step`, `Clients.step`: credentials, refresh tokens, refreshes and callers of the new source
  stay its own.
* `Vacant.step`: a bridge that was withdrawn stays empty.
-/
namespace DeviceHub

variable {σ : Type}

namespace Renewal

open Refresher (Effect Move)

variable {bridge : String}

/-! ## The time of one source -/

/-- A credential that a refresh of the bridge got, one of the refreshes from a number on. -/
def Given (bridge : String) (first : Nat) (r : Refresher σ) (c : Credential) : Prop :=
  ∃ (n : Nat) (f : Refresh σ), first ≤ n ∧ r.refreshes[n]? = some f ∧ f.bridge = bridge ∧
    f.phase.outcome? = some (.ok c)

theorem Given.move {first : Nat} {r r' : Refresher σ} {c : Credential}
    (h : Given bridge first r c) (hm : Move r r') : Given bridge first r' c := by
  obtain ⟨n, f, hn, hf, hb, hc⟩ := h
  obtain ⟨f', hf', hsettles⟩ := hm.settles hf
  exact ⟨n, f', hn, hf', hsettles.bridge.trans hb, hsettles.outcome? hc⟩

/-- A refresh token that came with such a credential. -/
def Issued (bridge : String) (first : Nat) (r : Refresher σ) (token : String) : Prop :=
  ∃ c, Given bridge first r c ∧ c.refreshToken = some token

theorem Issued.move {first : Nat} {r r' : Refresher σ} {token : String}
    (h : Issued bridge first r token) (hm : Move r r') : Issued bridge first r' token := by
  obtain ⟨c, hc, htoken⟩ := h
  exact ⟨c, hc.move hm, htoken⟩

/-- The bridge has a source, and all that is known about the bridge is the source's own: refreshes
from a number on, and what they got. Refreshes of before are decided. -/
structure Tenure (bridge : String) (source : σ) (first : Nat) (r : Refresher σ) : Prop where
  registered : ∃ reg, r.bridges.get? bridge = some reg ∧ reg.source = source ∧
    ∀ n, reg.inflight = some n →
      first ≤ n ∧ ∃ f, r.refreshes[n]? = some f ∧ f.bridge = bridge
  first_le : first ≤ r.refreshes.length
  earlier : ∀ n f, n < first → r.refreshes[n]? = some f → f.bridge = bridge →
    f.phase.outcome? ≠ none
  refreshes : ∀ n f, first ≤ n → r.refreshes[n]? = some f → f.bridge = bridge →
    f.source = source ∧ ∀ t, f.phase.held? = some t → Issued bridge first r t
  current : ∀ c, (r.store.slot bridge).current = some c → Given bridge first r c
  refreshToken : ∀ t, (r.store.slot bridge).refreshToken = some t → Issued bridge first r t

theorem Tenure.isSome {source : σ} {first : Nat} {r : Refresher σ}
    (h : Tenure bridge source first r) : (r.bridges.get? bridge).isSome = true := by
  obtain ⟨reg, hreg, -⟩ := h.registered
  rw [hreg]
  rfl

/-- Only a refresh of the source can still write to the slot. -/
theorem Tenure.first_le_of_undecided {source : σ} {first n : Nat} {r : Refresher σ} {f : Refresh σ}
    (h : Tenure bridge source first r) (hf : r.refreshes[n]? = some f) (hb : f.bridge = bridge)
    (hopen : f.phase.outcome? = none) : first ≤ n :=
  Nat.le_of_not_lt fun hlt => h.earlier n f hlt hf hb hopen

theorem Tenure.slot {source : σ} {first : Nat} {r r' : Refresher σ}
    (h : Tenure bridge source first r) (hm : Move r r') (hr : Refresher.Rewrites bridge r r') :
    (∀ c, (r'.store.slot bridge).current = some c → Given bridge first r' c) ∧
      ∀ t, (r'.store.slot bridge).refreshToken = some t → Issued bridge first r' t := by
  cases hr with
  | same slot =>
    rw [slot]
    exact ⟨fun c hc => (h.current c hc).move hm, fun t ht => (h.refreshToken t ht).move hm⟩
  | dropped slot =>
    rw [slot]
    refine ⟨fun c hc => ?_, fun t ht => (h.refreshToken t ht).move hm⟩
    cases hc
  | @replaced n f f' c before ofBridge undecided after outcome slot =>
    have hgiven : Given bridge first r' ((r.store.slot bridge).published c) :=
      ⟨n, f', h.first_le_of_undecided before ofBridge undecided, after,
        (hm.bridge_eq before after).trans ofBridge, outcome⟩
    rw [slot]
    refine ⟨fun d hd => ?_, fun t ht => ?_⟩
    · cases hd
      exact hgiven
    · rw [CredentialSlot.refreshToken_replace] at ht
      cases htoken : c.refreshToken with
      | none =>
        rw [htoken] at ht
        exact (h.refreshToken t ht).move hm
      | some u =>
        rw [htoken] at ht
        cases ht
        refine ⟨_, hgiven, ?_⟩
        unfold CredentialSlot.published
        split <;> exact htoken

theorem Tenure.step {source : σ} {first : Nat} {r r' : Refresher σ}
    (h : Tenure bridge source first r) (hm : Move r r') (he : Effect bridge r r') :
    Tenure bridge source first r' := by
  obtain ⟨reg, hreg, hsource, hinflight⟩ := h.registered
  obtain ⟨hcurrent, htoken⟩ := h.slot hm he.slot
  refine ⟨?_, Nat.le_trans h.first_le hm.length_le, ?_, ?_, hcurrent, htoken⟩
  · obtain ⟨reg', hreg', hsource', -⟩ := hm.registered hreg
    refine ⟨reg', hreg', hsource'.trans hsource, fun n hn => ?_⟩
    obtain ⟨old, hold, -, hslot⟩ := he.bridges reg' hreg'
    rw [hreg] at hold
    cases hold
    rcases hslot n hn with hn | ⟨rfl, hnew⟩
    · obtain ⟨hle, f, hf, hb⟩ := hinflight n hn
      obtain ⟨f', hf', hsettles⟩ := hm.settles hf
      exact ⟨hle, f', hf', hsettles.bridge.trans hb⟩
    · exact ⟨h.first_le, hnew⟩
  · intro n f' hlt hf' hb hopen
    rcases he.refreshes n f' hf' hb with ⟨f, hf, hcontinues⟩ | ⟨rfl, -⟩
    · exact h.earlier n f hlt hf (hcontinues.bridge.symm.trans hb) (hcontinues.undecided hopen)
    · exact absurd h.first_le (Nat.not_le_of_lt hlt)
  · intro n f' hle hf' hb
    rcases he.refreshes n f' hf' hb with ⟨f, hf, hcontinues⟩ | ⟨rfl, hcreated, old, hold, hfrom⟩
    · have hfb : f.bridge = bridge := hcontinues.bridge.symm.trans hb
      obtain ⟨hfsource, hfheld⟩ := h.refreshes n f hle hf hfb
      refine ⟨hcontinues.source.trans hfsource, fun t ht => ?_⟩
      rcases hcontinues.held t ht with hheld | hstored
      · exact (hfheld t hheld).move hm
      · rw [hfb] at hstored
        exact (h.refreshToken t hstored).move hm
    · rw [hreg] at hold
      cases hold
      refine ⟨hfrom.trans hsource, fun t ht => ?_⟩
      rw [hcreated] at ht
      cases ht

/-- Callers from a number on wait for refreshes of the source, and have what these got. -/
structure Clients (bridge : String) (first caller : Nat) (s : Renewal σ) : Prop where
  waiting : ∀ k n, caller ≤ k → s.callers[k]? = some (.waiting bridge n) →
    first ≤ n ∧ ∃ f, s.refresher.refreshes[n]? = some f ∧ f.bridge = bridge
  answered : ∀ k o c, caller ≤ k → s.callers[k]? = some (.answered bridge o (.ok c)) →
    Given bridge first s.refresher c

/-- What is so of a caller that was there before stays so. -/
theorem Clients.of_callers {first caller : Nat} {s s' : Renewal σ}
    (hs : Clients bridge first caller s) (hm : Move s.refresher s'.refresher)
    (hcallers : ∀ (k : Nat) c, caller ≤ k → s'.callers[k]? = some c → s.callers[k]? = some c ∨
      (∀ n, c = .waiting bridge n →
        first ≤ n ∧ ∃ f, s'.refresher.refreshes[n]? = some f ∧ f.bridge = bridge) ∧
      ∀ o d, c = .answered bridge o (.ok d) → Given bridge first s'.refresher d) :
    Clients bridge first caller s' := by
  refine ⟨fun k n hle hk => ?_, fun k o d hle hk => ?_⟩
  · rcases hcallers k _ hle hk with hold | hnew
    · obtain ⟨hfirst, f, hf, hb⟩ := hs.waiting k n hle hold
      obtain ⟨f', hf', hsettles⟩ := hm.settles hf
      exact ⟨hfirst, f', hf', hsettles.bridge.trans hb⟩
    · exact hnew.1 n rfl
  · rcases hcallers k _ hle hk with hold | hnew
    · exact (hs.answered k o d hle hold).move hm
    · exact hnew.2 o d rfl

/-- A good credential is the stored one. -/
theorem Tenure.given_of_fresh? {source : σ} {first : Nat} {r : Refresher σ}
    (h : Tenure bridge source first r) {margin : Int} {now : Instant} {c : Credential}
    (hc : r.store.fresh? bridge margin now = some c) : Given bridge first r c :=
  h.current c (Option.filter_eq_some_iff.1 hc).1

theorem Tenure.given_of_look {source : σ} {first : Nat} {r : Refresher σ}
    (h : Tenure bridge source first r) {now : Instant} {c : Credential}
    (hc : r.look bridge now = some (.ok c)) : Given bridge first r c := by
  obtain ⟨reg, hreg, -⟩ := h.registered
  rw [look_eq hreg] at hc
  obtain ⟨d, hd, hdc⟩ := Option.map_eq_some_iff.1 hc
  cases hdc
  exact h.given_of_fresh? hd

theorem Tenure.given_of_call {source : σ} {first : Nat} {r : Refresher σ}
    (h : Tenure bridge source first r) {now : Instant} {c : Credential}
    (hc : (r.call bridge now).1 = .granted c) : Given bridge first r c := by
  obtain ⟨reg, hreg, -⟩ := h.registered
  cases hfresh : r.store.fresh? bridge reg.policy.marginNanos now with
  | some d =>
    rw [Refresher.call_of_fresh hreg hfresh] at hc
    cases hc
    exact h.given_of_fresh? hfresh
  | none =>
    cases hn : reg.inflight with
    | some n =>
      rw [Refresher.call_of_inflight hreg hfresh hn] at hc
      cases hc
    | none =>
      rw [Refresher.call_of_idle hreg hfresh hn] at hc
      cases hc

/-- Who joins a refresh or starts one waits for one of the source. -/
theorem Tenure.awaits {source : σ} {first : Nat} {r : Refresher σ}
    (h : Tenure bridge source first r) {now : Instant} {n : Nat}
    (hn : (r.call bridge now).1 = .awaits n) :
    first ≤ n ∧ ∃ f, (r.call bridge now).2.refreshes[n]? = some f ∧ f.bridge = bridge := by
  obtain ⟨reg, hreg, -, hinflight⟩ := h.registered
  cases hfresh : r.store.fresh? bridge reg.policy.marginNanos now with
  | some d =>
    rw [Refresher.call_of_fresh hreg hfresh] at hn
    cases hn
  | none =>
    cases hslot : reg.inflight with
    | some m =>
      rw [Refresher.call_of_inflight hreg hfresh hslot] at hn ⊢
      cases hn
      exact hinflight n hslot
    | none =>
      rw [Refresher.call_of_idle hreg hfresh hslot] at hn ⊢
      cases hn
      exact ⟨h.first_le, _, (Refresher.getElem?_start ..).trans (if_pos rfl), rfl⟩

theorem Clients.step {source : σ} {first caller : Nat} {s : Renewal σ}
    (hs : Clients bridge first caller s) (ht : Tenure bridge source first s.refresher)
    (a : Act σ) : Clients bridge first caller (s.step a) := by
  have hm : Move s.refresher (s.step a).refresher := move_step s a
  refine hs.of_callers hm fun k c hle hk => ?_
  cases a with
  | arrive b =>
    rcases getElem?_concat_cases hk with hold | rfl
    · exact .inl hold
    · refine .inr ⟨fun n h => ?_, fun o d h => ?_⟩
      · cases hlook : s.refresher.look b s.now <;> rw [hlook] at h <;> cases h
      · cases hlook : s.refresher.look b s.now with
        | none =>
          rw [hlook] at h
          cases h
        | some result =>
          rw [hlook] at h
          cases h
          exact ht.given_of_look hlook
  | join i =>
    simp only [Renewal.step] at hk hm ⊢
    split at hk
    · next b hqueued =>
      rcases getElem?_set_cases hk with hold | rfl
      · exact .inl hold
      · simp only [hqueued] at hm ⊢
        refine .inr ⟨fun n h => ?_, fun o d h => ?_⟩
        · cases hcall : (s.refresher.call b s.now).1 with
          | awaits m =>
            rw [hcall] at h
            cases h
            exact ht.awaits hcall
          | _ => rw [hcall] at h; cases h
        · cases hcall : (s.refresher.call b s.now).1 with
          | granted e =>
            rw [hcall] at h
            cases h
            exact (ht.given_of_call hcall).move hm
          | _ => rw [hcall] at h; cases h
    · exact .inl hk
  | deliver i =>
    simp only [Renewal.step] at hk ⊢
    split at hk
    · next b n hwaiting =>
      split at hk
      · next result houtcome =>
        rw [List.getElem?_set] at hk
        split at hk
        · next hi =>
          subst hi
          split at hk
          · cases hk
            refine .inr ⟨fun m h => ?_, fun o d h => ?_⟩
            · cases h
            · cases h
              -- who waits hears of a refresh of the source
              obtain ⟨hfirst, f, hf, hb⟩ := hs.waiting i n hle hwaiting
              obtain ⟨g, outcome, hg, hended, hresult⟩ := Refresher.outcome?_eq_some.1 houtcome
              rw [hf] at hg
              cases hg
              refine ⟨n, f, hfirst, hf, hb, ?_⟩
              cases outcome with
              | ok e =>
                cases hresult
                rw [hended]
                rfl
              | error => cases hresult
          · cases hk
        · exact .inl hk
      · exact .inl hk
    · exact .inl hk
  | register b source policy =>
    simp only [Renewal.step] at hk
    split at hk <;> exact .inl hk
  | _ => exact .inl hk

theorem run_tenure {source : σ} {first caller : Nat} {s : Renewal σ}
    (ht : Tenure bridge source first s.refresher) (hs : Clients bridge first caller s)
    (acts : List (Act σ)) : Tenure bridge source first (s.run acts).refresher ∧
      Clients bridge first caller (s.run acts) := by
  induction acts generalizing s with
  | nil => exact ⟨ht, hs⟩
  | cons a acts ih =>
    have hstep := ht.step (move_step s a) (effect_step s (.inr ht.isSome))
    exact ih hstep (hs.step ht a)

/-! ## A bridge that was withdrawn -/

/-- The bridge is not registered, nothing is stored for it, and no refresh can change that. -/
structure Vacant (bridge : String) (r : Refresher σ) : Prop where
  unregistered : r.bridges.get? bridge = none
  empty : r.store.slot bridge = .empty
  decided : ¬r.Undecided bridge

theorem Vacant.step {r r' : Refresher σ} (h : Vacant bridge r) (he : Effect bridge r r') :
    Vacant bridge r' := by
  refine ⟨?_, ?_, ?_⟩
  · cases hreg' : r'.bridges.get? bridge with
    | none => rfl
    | some reg' =>
      obtain ⟨reg, hreg, -⟩ := he.bridges reg' hreg'
      cases h.unregistered.symm.trans hreg
  · cases he.slot with
    | same slot => exact slot.trans h.empty
    | dropped slot =>
      rw [slot, h.empty]
      rfl
    | replaced before ofBridge undecided =>
      exact absurd ⟨_, _, before, ofBridge, undecided⟩ h.decided
  · rintro ⟨n, f', hf', hb, hopen⟩
    rcases he.refreshes n f' hf' hb with ⟨f, hf, hcontinues⟩ | ⟨-, -, reg, hreg, -⟩
    · exact h.decided
        ⟨n, f, hf, hcontinues.bridge.symm.trans hb, hcontinues.undecided hopen⟩
    · cases h.unregistered.symm.trans hreg

theorem run_vacant {s : Renewal σ} (h : Vacant bridge s.refresher) (acts : List (Act σ))
    (hacts : ∀ a ∈ acts, ¬a.registers bridge) : Vacant bridge (s.run acts).refresher := by
  induction acts generalizing s with
  | nil => exact h
  | cons a acts ih =>
    have hstep := h.step (effect_step s (.inl (hacts a List.mem_cons_self)))
    exact ih hstep fun b hb => hacts b (List.mem_cons_of_mem _ hb)

/-! ## Another source -/

/-- The run after a bridge has got a source, in place of the one that it may have had. -/
def replace (s : Renewal σ) (bridge : String) (source : σ) (policy : RefreshPolicy) : Renewal σ :=
  { s with refresher := s.refresher.register bridge source policy }

/-- The run after a bridge has lost its source. -/
def withdraw (s : Renewal σ) (bridge : String) : Renewal σ :=
  { s with refresher := s.refresher.unregister bridge }

/-- Nothing of a bridge is under way: its refreshes are decided, and nobody is between the two looks
of a call, with the source of the first still in hand. -/
structure Quiet (bridge : String) (s : Renewal σ) : Prop where
  decided : ¬s.refresher.Undecided bridge
  looking : ∀ k : Nat, s.callers[k]? ≠ some (.queued bridge)

theorem Quiet.tenure_replace {s : Renewal σ} (h : Quiet bridge s) (source : σ)
    (policy : RefreshPolicy) :
    Tenure bridge source s.refresher.refreshes.length (s.replace bridge source policy).refresher := by
  have hslot : (s.replace bridge source policy).refresher.store.slot bridge = .empty :=
    (s.refresher.slot_register ..).trans (if_pos rfl)
  have hbridge : (s.replace bridge source policy).refresher.bridges.get? bridge =
      some ⟨source, policy, none⟩ :=
    (s.refresher.get?_bridges_register ..).trans (if_pos rfl)
  refine ⟨⟨⟨source, policy, none⟩, hbridge, rfl, ?_⟩, Nat.le_refl _, ?_, ?_, ?_, ?_⟩
  · intro n hn
    cases hn
  · intro n f _ hf hb hopen
    exact h.decided ⟨n, f, hf, hb, hopen⟩
  · intro n f hle hf
    exact absurd (List.getElem?_eq_some_iff.1 hf).1 (Nat.not_lt_of_le hle)
  · intro c hc
    rw [hslot] at hc
    cases hc
  · intro t ht
    rw [hslot] at ht
    cases ht

theorem clients_replace (s : Renewal σ) (source : σ) (policy : RefreshPolicy) :
    Clients bridge s.refresher.refreshes.length s.callers.length
      (s.replace bridge source policy) := by
  refine ⟨fun k n hle hk => ?_, fun k o c hle hk => ?_⟩
  · exact absurd (List.getElem?_eq_some_iff.1 hk).1 (Nat.not_lt_of_le hle)
  · exact absurd (List.getElem?_eq_some_iff.1 hk).1 (Nat.not_lt_of_le hle)

theorem Quiet.vacant_withdraw {s : Renewal σ} (h : Quiet bridge s) :
    Vacant bridge (s.withdraw bridge).refresher :=
  ⟨(s.refresher.get?_bridges_unregister ..).trans (if_pos rfl),
    (s.refresher.slot_unregister ..).trans (if_pos rfl), h.decided⟩

/-- A refresh of a source's own, one of the refreshes from a number on. -/
structure Own (bridge : String) (source : σ) (first : Nat) (r : Refresher σ) (n : Nat)
    (f : Refresh σ) : Prop where
  first_le : first ≤ n
  found : r.refreshes[n]? = some f
  bridge : f.bridge = bridge
  source : f.source = source

theorem Tenure.own_of_given {source : σ} {first : Nat} {r : Refresher σ}
    (h : Tenure bridge source first r) {c : Credential} (hc : Given bridge first r c) :
    ∃ n f, Own bridge source first r n f ∧ f.phase.outcome? = some (.ok c) := by
  obtain ⟨n, f, hle, hf, hb, houtcome⟩ := hc
  exact ⟨n, f, ⟨hle, hf, hb, (h.refreshes n f hle hf hb).1⟩, houtcome⟩

/-- When nothing of a bridge is under way, another source takes full effect, whatever happens
afterwards: who calls from then on gets only what refreshes of that source got, the source is shown
only refresh tokens of its own, and after a withdrawal nothing is stored for the bridge until it is
registered again. -/
theorem replaced_in_full (s : Renewal σ) (bridge : String) (source : σ) (policy : RefreshPolicy)
    (hquiet : Quiet bridge s) :
    (∀ acts : List (Act σ),
      let first := s.refresher.refreshes.length
      let s' := (s.replace bridge source policy).run acts
      (∀ (k : Nat) o c, s.callers.length ≤ k →
        s'.callers[k]? = some (.answered bridge o (.ok c)) →
        ∃ n f, Own bridge source first s'.refresher n f ∧ f.phase.outcome? = some (.ok c)) ∧
      ∀ (n : Nat) f, first ≤ n → s'.refresher.refreshes[n]? = some f → f.bridge = bridge →
        f.source = source ∧
        ∀ t, f.phase.held? = some t →
          ∃ m g c, Own bridge source first s'.refresher m g ∧ g.phase.outcome? = some (.ok c) ∧
            c.refreshToken = some t) ∧
    ∀ acts : List (Act σ), (∀ a ∈ acts, ¬a.registers bridge) →
      ((s.withdraw bridge).run acts).refresher.store.slot bridge = .empty := by
  refine ⟨fun acts => ?_, fun acts hacts => (run_vacant hquiet.vacant_withdraw acts hacts).empty⟩
  intro first s'
  obtain ⟨ht, hs⟩ := run_tenure (hquiet.tenure_replace source policy)
    (clients_replace s source policy) acts
  refine ⟨fun k o c hle hk => ht.own_of_given (hs.answered k o c hle hk),
    fun n f hle hf hb => ?_⟩
  obtain ⟨hsource, hheld⟩ := ht.refreshes n f hle hf hb
  refine ⟨hsource, fun t htoken => ?_⟩
  obtain ⟨c, hgiven, hc⟩ := hheld t htoken
  obtain ⟨m, g, hown, hg⟩ := ht.own_of_given hgiven
  exact ⟨m, g, c, hown, hg, hc⟩

/-- A bridge gets another source when a refresh of the first one has just stored its credential. -/
theorem replaced_in_full_stored :
    let s : Renewal String := new.run [.register "hub" "old" .usual, .arrive "hub", .join 0,
      .begin 0, .receive 0 (.ok (.bearer "first"))]
    let acts : List (Act String) := [.close 0, .arrive "hub", .join 1, .begin 1,
      .receive 1 (.ok (.bearer "second")), .arrive "hub"]
    let s' := (s.replace "hub" "new" .usual).run acts
    Quiet "hub" s ∧ s'.callers[2]? = some (.answered "hub" none (.ok (.bearer "second"))) ∧
      (∃ n f, Own "hub" "new" 1 s'.refresher n f ∧
        f.phase.outcome? = some (.ok (.bearer "second"))) ∧
      ((s.withdraw "hub").run [.close 0, .arrive "hub"]).refresher.store.slot "hub" = .empty := by
  intro s acts s'
  have hrefreshes : s.refresher.refreshes =
      [⟨"hub", "old", .usual, .closing (.ok (.bearer "first"))⟩] := by rfl
  have hcallers : s.callers = [.waiting "hub" 0] := by rfl
  have hquiet : Quiet "hub" s := by
    refine ⟨?_, fun k hk => ?_⟩
    · rintro ⟨n, f, hf, -, hopen⟩
      rw [hrefreshes] at hf
      cases List.mem_singleton.1 (List.mem_of_getElem? hf)
      cases hopen
    · rw [hcallers] at hk
      cases List.mem_singleton.1 (List.mem_of_getElem? hk)
  have hcaller : s'.callers[2]? = some (.answered "hub" none (.ok (.bearer "second"))) := by
    subst s' acts s
    rfl
  have hfirst : s.refresher.refreshes.length = 1 := by
    rw [hrefreshes]
    rfl
  have hcount : s.callers.length ≤ 2 := by
    rw [hcallers]
    exact Nat.le_succ 1
  obtain ⟨hreplaced, hwithdrawn⟩ := replaced_in_full s "hub" "new" .usual hquiet
  obtain ⟨hanswers, -⟩ := hreplaced acts
  rw [hfirst] at hanswers
  refine ⟨hquiet, hcaller, hanswers 2 _ _ hcount hcaller, hwithdrawn [.close 0, .arrive "hub"] ?_⟩
  intro a ha
  simp only [List.mem_cons, List.not_mem_nil, or_false] at ha
  rcases ha with rfl | rfl <;> exact id

/-- A refresh that asks when the bridge gets another source, or loses its own, stores its credential
all the same. -/
theorem stored_after_replacement (s : Renewal σ) {n attempt : Nat} {held : Option String}
    {f : Refresh σ} (hf : s.refresher.refreshes[n]? = some f)
    (hasking : f.phase = .asking attempt held) (source : σ) (policy : RefreshPolicy)
    (c : Credential) :
    ((s.replace f.bridge source policy).step (.receive n (.ok c))).refresher.store.current?
        f.bridge = some c ∧
      ((s.withdraw f.bridge).step (.receive n (.ok c))).refresher.store.current? f.bridge =
        some c := by
  have hempty : (s.refresher.store.remove f.bridge).slot f.bridge = .empty :=
    (CredentialStore.slot_remove ..).trans (if_pos rfl)
  have hslot : ∀ r : Refresher σ, r.refreshes = s.refresher.refreshes →
      r.store = s.refresher.store.remove f.bridge →
      (r.receive n (.ok c)).store.current? f.bridge = some c := by
    intro r hrefreshes hstore
    rw [CredentialStore.current?, Refresher.slot_receive (hrefreshes ▸ hf) hasking, hstore, hempty]
    rfl
  exact ⟨hslot _ rfl rfl, hslot _ rfl rfl⟩

/-- A refresh of the earlier source is under way when the bridge gets another source, or loses its
own. It stores its credential all the same: the next caller has it, the new source is shown its
refresh token, and the slot of a bridge without a source is not empty. -/
theorem replaced_in_flight :
    let late := { Credential.bearer "late" with refreshToken := some "of the old" }
    let s : Renewal String :=
      new.run [.register "hub" "old" .usual, .arrive "hub", .join 0, .begin 0]
    let stores : List (Act String) := [.receive 0 (.ok late), .close 0]
    let s' := (s.replace "hub" "new" .usual).run stores
    (s'.step (.arrive "hub")).callers[1]? = some (.answered "hub" none (.ok late)) ∧
      (s'.run [.invalidate "hub", .arrive "hub", .join 1, .begin 1]).refresher.refreshes[1]? =
        some ⟨"hub", "new", .usual, .asking 1 (some "of the old")⟩ ∧
      ((s.withdraw "hub").run stores).refresher.store.current? "hub" = some late :=
  ⟨rfl, rfl, rfl⟩

end Renewal

end DeviceHub
