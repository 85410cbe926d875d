import DeviceHub.Proofs.Credential.Outcomes
import Mathlib.Data.List.Induction

/-!
# One refresh for all who wait

Callers look at the slot of their bridge one after the other, and the slot has the refresh in flight.
So they join one refresh as long as there is one, and all of them get the outcome that it has in the
end.

* `Served`: who was answered by a refresh has its outcome.
* `run_stored`, `store_of_failed`: what a refresh leaves in the store.
* `refresh_shared`: all that callers can rely on, for every run.
-/
namespace DeviceHub

variable {σ : Type}

namespace Renewal

open Refresher (InFlight Orderly)

/-! ## What callers get -/

/-- Who waits for a refresh waits for one of its bridge, and who was answered by one has its
outcome. -/
structure Served (s : Renewal σ) : Prop where
  waiting : ∀ (k : Nat) bridge n, s.callers[k]? = some (.waiting bridge n) →
    ∃ f, s.refresher.refreshes[n]? = some f ∧ f.bridge = bridge
  answered : ∀ (k : Nat) bridge n result, s.callers[k]? = some (.answered bridge (some n) result) →
    s.refresher.outcome? n = some result ∧
      ∃ f, s.refresher.refreshes[n]? = some f ∧ f.bridge = bridge

/-- What is so of a caller that was there before stays so. -/
theorem Served.of_callers {s s' : Renewal σ} (hs : Served s)
    (hm : Refresher.Move s.refresher s'.refresher)
    (hcallers : ∀ (k : Nat) c, s'.callers[k]? = some c → s.callers[k]? = some c ∨
      (∀ bridge n, c = .waiting bridge n →
        ∃ f, s'.refresher.refreshes[n]? = some f ∧ f.bridge = bridge) ∧
      ∀ bridge n result, c = .answered bridge (some n) result →
        s'.refresher.outcome? n = some result ∧
          ∃ f, s'.refresher.refreshes[n]? = some f ∧ f.bridge = bridge) : Served s' := by
  refine ⟨fun k bridge n hk => ?_, fun k bridge n result hk => ?_⟩
  · rcases hcallers k _ hk with hold | hnew
    · obtain ⟨f, hf, hbridge⟩ := hs.waiting k bridge n hold
      obtain ⟨f', hf', hsettles⟩ := hm.settles hf
      exact ⟨f', hf', hsettles.bridge.trans hbridge⟩
    · exact hnew.1 bridge n rfl
  · rcases hcallers k _ hk with hold | hnew
    · obtain ⟨houtcome, f, hf, hbridge⟩ := hs.answered k bridge n result hold
      obtain ⟨f', hf', hsettles⟩ := hm.settles hf
      exact ⟨hm.outcome? houtcome, f', hf', hsettles.bridge.trans hbridge⟩
    · exact hnew.2 bridge n result rfl

theorem call_awaits {r r' : Refresher σ} (ho : Orderly r) {bridge : String} {now : Instant} {n : Nat}
    (h : r.call bridge now = (.awaits n, r')) :
    ∃ f, r'.refreshes[n]? = some f ∧ f.bridge = bridge := by
  cases hreg : r.bridges.get? bridge with
  | none => simp [Refresher.call, hreg] at h
  | some reg =>
    cases hc : r.store.fresh? bridge reg.policy.marginNanos now with
    | some c =>
      rw [Refresher.call_of_fresh hreg hc] at h
      cases h
    | none =>
      cases hn : reg.inflight with
      | some m =>
        rw [Refresher.call_of_inflight hreg hc hn] at h
        cases h
        obtain ⟨f, hf, hbridge, -⟩ := (ho.slots bridge reg hreg n).1 hn
        exact ⟨f, hf, hbridge⟩
      | none =>
        rw [Refresher.call_of_idle hreg hc hn] at h
        cases h
        exact ⟨_, by rw [Refresher.getElem?_start, if_pos rfl], rfl⟩

theorem Served.step {s : Renewal σ} (hs : Served s) (ho : Orderly s.refresher) (a : Act σ) :
    Served (s.step a) := by
  refine hs.of_callers (move_step s a) fun k c hk => ?_
  cases a with
  | arrive bridge =>
    rcases getElem?_concat_cases hk with hold | rfl
    · exact .inl hold
    · refine .inr ⟨fun b n h => ?_, fun b n result h => ?_⟩
      · cases hlook : s.refresher.look bridge s.now <;> rw [hlook] at h <;> cases h
      · cases hlook : s.refresher.look bridge s.now <;> rw [hlook] at h <;> cases h
  | join i =>
    simp only [Renewal.step] at hk ⊢
    split at hk
    · next bridge hqueued =>
      rcases getElem?_set_cases hk with hold | rfl
      · exact .inl hold
      · refine .inr ⟨fun b n h => ?_, fun b n result h => ?_⟩
        · cases hcall : (s.refresher.call bridge s.now).1 with
          | awaits m =>
            rw [hcall] at h
            cases h
            exact call_awaits ho (Prod.ext hcall rfl)
          | _ => rw [hcall] at h; cases h
        · cases hcall : (s.refresher.call bridge s.now).1 <;> rw [hcall] at h <;> cases h
    · exact .inl hk
  | deliver i =>
    simp only [Renewal.step] at hk ⊢
    split at hk
    · next bridge n hwaiting =>
      split at hk
      · next result houtcome =>
        rcases getElem?_set_cases hk with hold | rfl
        · exact .inl hold
        · refine .inr ⟨fun b m h => ?_, fun b m result' h => ?_⟩
          · cases h
          · cases h
            exact ⟨houtcome, hs.waiting i bridge n hwaiting⟩
      · exact .inl hk
    · exact .inl hk
  | register bridge source policy =>
    simp only [Renewal.step] at hk
    split at hk <;> exact .inl hk
  | _ => exact .inl hk

theorem run_orderly (s : Renewal σ) (ho : Orderly s.refresher) (acts : List (Act σ)) :
    Orderly (s.run acts).refresher := by
  induction acts generalizing s with
  | nil => exact ho
  | cons a acts ih => exact ih (s.step a) ((move_step s a).orderly ho)

theorem run_served (s : Renewal σ) (hs : Served s) (ho : Orderly s.refresher)
    (acts : List (Act σ)) : Served (s.run acts) := by
  induction acts generalizing s with
  | nil => exact hs
  | cons a acts ih => exact ih (s.step a) (hs.step ho a) ((move_step s a).orderly ho)

theorem orderly_new : Orderly (new : Renewal σ).refresher := by
  refine ⟨fun b reg hreg => ?_, fun n f hf => ?_⟩
  · cases hreg
  · cases hf

theorem served_new : Served (new : Renewal σ) := by
  refine ⟨fun k bridge n hk => ?_, fun k bridge n result hk => ?_⟩
  · cases hk
  · cases hk

/-- Every credential that a refresh has for an outcome was stored by it, some time in the run. -/
theorem run_stored (acts : List (Act σ)) {n : Nat} {f : Refresh σ} {c : Credential}
    (hf : (new.run acts).refresher.refreshes[n]? = some f)
    (hc : f.phase.outcome? = some (.ok c)) :
    ∃ earlier later, acts = earlier ++ later ∧
      (new.run earlier).refresher.phase? n = some (.closing (.ok c)) ∧
      (new.run earlier).refresher.store.current? f.bridge = some c := by
  induction acts using List.reverseRecOn generalizing f with
  | nil => cases hf
  | append_singleton acts a ih =>
    rw [run_concat] at hf
    rcases (move_step (new.run acts) a).stored hf hc with ⟨g, hg, hbridge, hgc⟩ | ⟨hclosing, hcurrent⟩
    · obtain ⟨earlier, later, rfl, hphase, hcurrent⟩ := ih hg hgc
      exact ⟨earlier, later ++ [a], by rw [List.append_assoc], hphase, hbridge ▸ hcurrent⟩
    · refine ⟨acts ++ [a], [], by rw [List.append_nil], ?_, ?_⟩
      · rw [run_concat, Refresher.phase?, hf, ← hclosing]
        rfl
      · rw [run_concat]
        exact hcurrent

/-- The acts that are a turn of a refresh. -/
def Act.isTurnOf (n : Nat) : Act σ → Prop
  | .begin m | .receive m _ | .resume m | .close m => m = n
  | _ => False

theorem run_outcome? (s : Renewal σ) (acts : List (Act σ)) {n : Nat} {f : Refresh σ}
    {o : Except String Credential} (hf : s.refresher.refreshes[n]? = some f)
    (ho : f.phase.outcome? = some o) :
    ∃ f', (s.run acts).refresher.refreshes[n]? = some f' ∧ f'.phase.outcome? = some o := by
  induction acts generalizing s f with
  | nil => exact ⟨f, hf, ho⟩
  | cons a acts ih =>
    obtain ⟨g, hg, hsettles⟩ := (move_step s a).settles hf
    exact ih (s.step a) hg (hsettles.outcome? ho)

theorem turn_step {s : Renewal σ} {n : Nat} {a : Act σ} (ha : a.isTurnOf n) :
    Refresher.Turn n s.refresher (s.step a).refresher := by
  cases a with
  | begin => cases ha; exact s.refresher.turn_begin n
  | receive _ result => cases ha; exact s.refresher.turn_receive n result
  | resume => cases ha; exact s.refresher.turn_resume n
  | close => cases ha; exact s.refresher.turn_close n
  | _ => exact ha.elim

/-- A refresh that has failed has written nothing in any of its turns. -/
theorem store_of_failed {s : Renewal σ} {n : Nat} {a : Act σ} (ha : a.isTurnOf n)
    (later : List (Act σ)) {e : RequestError}
    (he : ((s.step a).run later).refresher.outcome? n = some (.error e)) :
    (s.step a).refresher.store = s.refresher.store := by
  rcases (turn_step ha).store with hstore | ⟨c, hphase⟩
  · exact hstore
  · -- it has its credential, and could not have failed any more
    obtain ⟨f, hf, hclosing⟩ := Refresher.phase?_eq_some hphase
    obtain ⟨f', hf', houtcome⟩ := run_outcome? _ later hf (by rw [hclosing]; rfl)
    obtain ⟨g, o, hg, hended, hresult⟩ := Refresher.outcome?_eq_some.1 he
    rw [hf'] at hg
    cases hg
    rw [hended] at houtcome
    cases houtcome
    cases hresult

/-! ## The turn of a caller -/

section

variable {s : Renewal σ} {bridge : String} {reg : Registration σ} {k : Nat}

theorem look_eq {r : Refresher σ} (hreg : r.bridges.get? bridge = some reg) (now : Instant) :
    r.look bridge now = (r.store.fresh? bridge reg.policy.marginNanos now).map .ok := by
  simp only [Refresher.look, hreg]

theorem join_eq (hk : s.callers[k]? = some (.queued bridge)) :
    s.step (.join k) =
      { s with
        refresher := (s.refresher.call bridge s.now).2
        callers := s.callers.set k (.ofCall bridge (s.refresher.call bridge s.now).1) } := by
  simp only [step, hk]

theorem arrive_of_fresh (hreg : s.refresher.bridges.get? bridge = some reg) {c : Credential}
    (hc : s.refresher.store.fresh? bridge reg.policy.marginNanos s.now = some c) :
    s.step (.arrive bridge) =
      { s with callers := s.callers ++ [.answered bridge none (.ok c)] } := by
  simp only [step, look_eq hreg, hc]
  rfl

theorem arrive_of_none (hreg : s.refresher.bridges.get? bridge = some reg)
    (hc : s.refresher.store.fresh? bridge reg.policy.marginNanos s.now = none) :
    s.step (.arrive bridge) = { s with callers := s.callers ++ [.queued bridge] } := by
  simp only [step, look_eq hreg, hc]
  rfl

/-- A caller that finds a good credential has it, and the refresher does not notice. -/
theorem join_of_fresh (hreg : s.refresher.bridges.get? bridge = some reg) {c : Credential}
    (hc : s.refresher.store.fresh? bridge reg.policy.marginNanos s.now = some c)
    (hk : s.callers[k]? = some (.queued bridge)) :
    s.step (.join k) = { s with callers := s.callers.set k (.answered bridge none (.ok c)) } := by
  rw [join_eq hk, Refresher.call_of_fresh hreg hc]
  rfl

theorem join_of_inFlight (ho : Orderly s.refresher)
    (hreg : s.refresher.bridges.get? bridge = some reg)
    (hc : s.refresher.store.fresh? bridge reg.policy.marginNanos s.now = none)
    (hk : s.callers[k]? = some (.queued bridge)) {n : Nat} (hn : s.refresher.InFlight bridge n) :
    s.step (.join k) = { s with callers := s.callers.set k (.waiting bridge n) } := by
  have hslot : reg.inflight = some n := (ho.slots bridge reg hreg n).2 hn
  rw [join_eq hk, Refresher.call_of_inflight hreg hc hslot]
  rfl

theorem join_of_idle (ho : Orderly s.refresher)
    (hreg : s.refresher.bridges.get? bridge = some reg)
    (hc : s.refresher.store.fresh? bridge reg.policy.marginNanos s.now = none)
    (hk : s.callers[k]? = some (.queued bridge)) (hnone : ∀ n, ¬s.refresher.InFlight bridge n) :
    s.step (.join k) =
      { s with
        refresher := s.refresher.start bridge reg
        callers := s.callers.set k (.waiting bridge s.refresher.refreshes.length) } := by
  have hslot : reg.inflight = none := by
    cases hn : reg.inflight with
    | none => rfl
    | some n => exact absurd ((ho.slots bridge reg hreg n).1 hn) (hnone n)
  rw [join_eq hk, Refresher.call_of_idle hreg hc hslot]
  rfl

end

/-- When the refresh of a bridge has ended, none is in flight. -/
theorem not_inFlight_close {r : Refresher σ} (ho : Orderly r) {bridge : String}
    {reg : Registration σ} (hreg : r.bridges.get? bridge = some reg) {n : Nat}
    {outcome : Except String Credential} (hphase : r.phase? n = some (.closing outcome))
    (hn : r.InFlight bridge n) (m : Nat) : ¬(r.close n).InFlight bridge m := by
  obtain ⟨f, hf, hclosing⟩ := Refresher.phase?_eq_some hphase
  rw [Refresher.inFlight_close hf hclosing]
  rintro ⟨hm, hne⟩
  exact hne (ho.inFlight_unique hreg hm hn)

/-- Whatever callers, refreshes, sources and the clock do: a registered bridge has at most one refresh
in flight, and its slot has that one. A caller without a good credential joins the refresh in flight,
or starts one if there is none; a caller with a good credential has it and starts nothing. All who are
answered by one refresh are answered its outcome, which is the credential that it stored or an
authentication failure with its text. A refresh that fails has not touched the store in any of its
turns. When a refresh ends, none is in flight, so that the next caller that needs one starts it. -/
theorem refresh_shared (acts : List (Act σ)) {bridge : String} {reg : Registration σ}
    (hreg : (new.run acts).refresher.bridges.get? bridge = some reg) :
    let s := new.run acts
    let fresh? := s.refresher.store.fresh? bridge reg.policy.marginNanos s.now
    ((∀ n, reg.inflight = some n ↔ s.refresher.InFlight bridge n) ∧
      ∀ m n, s.refresher.InFlight bridge m → s.refresher.InFlight bridge n → m = n) ∧
    (fresh? = none →
      s.step (.arrive bridge) = { s with callers := s.callers ++ [.queued bridge] } ∧
      ∀ k : Nat, s.callers[k]? = some (.queued bridge) →
        (∀ n, s.refresher.InFlight bridge n →
          s.step (.join k) = { s with callers := s.callers.set k (.waiting bridge n) }) ∧
        ((∀ n, ¬s.refresher.InFlight bridge n) →
          s.step (.join k) =
            { s with
              refresher := s.refresher.start bridge reg
              callers := s.callers.set k (.waiting bridge s.refresher.refreshes.length) })) ∧
    (∀ c, fresh? = some c →
      s.step (.arrive bridge) =
        { s with callers := s.callers ++ [.answered bridge none (.ok c)] } ∧
      ∀ k : Nat, s.callers[k]? = some (.queued bridge) →
        s.step (.join k) =
          { s with callers := s.callers.set k (.answered bridge none (.ok c)) }) ∧
    (∀ (k n : Nat) result, s.callers[k]? = some (.waiting bridge n) →
      s.refresher.outcome? n = some result →
      s.step (.deliver k) =
        { s with callers := s.callers.set k (.answered bridge (some n) result) }) ∧
    (∀ (k n : Nat) result, s.callers[k]? = some (.answered bridge (some n) result) →
      s.refresher.outcome? n = some result ∧
      ((∃ c earlier later, result = .ok c ∧ acts = earlier ++ later ∧
          (new.run earlier).refresher.phase? n = some (.closing (.ok c)) ∧
          (new.run earlier).refresher.store.current? bridge = some c) ∨
        ∃ text, result = .error (.authentication text))) ∧
    (∀ n a later e, Act.isTurnOf n a →
      ((s.step a).run later).refresher.outcome? n = some (.error e) →
      (s.step a).refresher.store = s.refresher.store) ∧
    (∀ n outcome, s.refresher.InFlight bridge n →
      s.refresher.phase? n = some (.closing outcome) →
      ∀ m, ¬(s.step (.close n)).refresher.InFlight bridge m) := by
  intro s fresh?
  have ho : Orderly s.refresher := run_orderly new orderly_new acts
  have hs : Served s := run_served new served_new orderly_new acts
  refine ⟨⟨ho.slots bridge reg hreg, fun m n hm hn => ho.inFlight_unique hreg hm hn⟩,
    fun hc => ⟨arrive_of_none hreg hc, fun k hk =>
      ⟨fun n hn => join_of_inFlight ho hreg hc hk hn, join_of_idle ho hreg hc hk⟩⟩,
    fun c hc => ⟨arrive_of_fresh hreg hc, fun k hk => join_of_fresh hreg hc hk⟩,
    fun k n result hk houtcome => ?_,
    fun k n result hk => ?_, fun n a later e ha he => store_of_failed ha later he,
    fun n outcome hn hphase => not_inFlight_close ho hreg hphase hn⟩
  · simp only [step, hk, houtcome]
  · obtain ⟨houtcome, f, hf, rfl⟩ := hs.answered k bridge n result hk
    refine ⟨houtcome, ?_⟩
    obtain ⟨g, o, hg, hended, rfl⟩ := Refresher.outcome?_eq_some.1 houtcome
    rw [hf] at hg
    cases hg
    cases o with
    | ok c =>
      obtain ⟨earlier, later, hacts, hphase, hcurrent⟩ := run_stored acts hf (by rw [hended]; rfl)
      exact .inl ⟨c, earlier, later, rfl, hacts, hphase, hcurrent⟩
    | error text => exact .inr ⟨text, rfl⟩

/-- Two callers share a refresh that fails, and the next caller starts another. -/
theorem refresh_shared_failure :
    let acts : List (Act Unit) := [.register "hub" () .usual, .arrive "hub", .arrive "hub",
      .join 1, .begin 0, .join 0, .receive 0 (.error (.http 400 "")), .close 0, .deliver 0,
      .deliver 1, .arrive "hub"]
    let s := new.run acts
    let failure : Except RequestError Credential := .error (.authentication "HTTP 400: ")
    s.callers = [.answered "hub" (some 0) failure, .answered "hub" (some 0) failure,
        .queued "hub"] ∧
      (s.step (.join 2)).callers[2]? = some (.waiting "hub" 1) := by
  intro acts s failure
  have hcallers : s.callers = [.answered "hub" (some 0) failure, .answered "hub" (some 0) failure,
      .queued "hub"] := by rfl
  refine ⟨hcallers, ?_⟩
  have hreg : s.refresher.bridges.get? "hub" = some ⟨(), .usual, none⟩ := by rfl
  obtain ⟨⟨hslot, -⟩, hnone, -⟩ := refresh_shared acts hreg
  have hidle : ∀ n, ¬s.refresher.InFlight "hub" n := by
    intro n hn
    cases (hslot n).2 hn
  obtain ⟨-, hjoin⟩ := hnone (by rfl)
  rw [(hjoin 2 (by rfl)).2 hidle]
  rfl

end Renewal

end DeviceHub
