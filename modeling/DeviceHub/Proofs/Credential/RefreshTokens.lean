import DeviceHub.Proofs.Credential.Effects
import DeviceHub.Proofs.Credential.Endpoint

/-!
# Which refresh tokens a bridge presents

Bridges renew their credentials, and one that has an account sends messages to its token endpoint,
which may answer anything. The refresh token that the endpoint is shown is always the one that it issued
last (`presents_latest`): in the first try of a refresh and in every other, after any number of
refreshes.

So a refresh token that was rejected is not presented any more once another one was issued. Until then
it is, even when user name and password have brought a credential in the meantime, but no refresh
token with it (`rejected_presented`).

* `Owned.step`: a bridge with an account keeps it, and its refreshes ask it.
* `Kept.ask`, `Kept.other`: store, refreshes and log go together in every act.
-/
namespace DeviceHub

open Exchange (latest? ShowsLatest)
open Refresher (Effect Move Orderly)

variable {σ : Type}

namespace Refresher

variable {r : Refresher σ} {n : Nat} {f : Refresh σ} {attempt : Nat} {held : Option String}

/-- A refresh that holds a refresh token has not ended. -/
theorem isEnded_of_held? {phase : Refresh.Phase} {token : String} (h : phase.held? = some token) :
    phase.isEnded = false := by
  cases phase with
  | asking | pausing => rfl
  | created | closing | ended => cases h

/-- A credential without a refresh token leaves the stored one where it is. -/
theorem refreshToken?_receive (hf : r.refreshes[n]? = some f)
    (hasking : f.phase = .asking attempt held) (result : Except RequestError Credential) :
    (r.receive n result).store.refreshToken? f.bridge =
      (TokenSource.brought? result).or (r.store.refreshToken? f.bridge) := by
  cases result with
  | ok c =>
    rw [CredentialStore.refreshToken?, slot_receive hf hasking, CredentialSlot.refreshToken_replace]
    exact (Option.or_eq_orElse ..).symm
  | error e =>
    obtain ⟨bridge, source, policy, phase⟩ := f
    subst hasking
    simp only [receive, hf]
    split <;> rfl

theorem refreshToken?_receive_aside (hf : r.refreshes[n]? = some f) {bridge : String}
    (hother : f.bridge ≠ bridge) (result : Except RequestError Credential) :
    (r.receive n result).store.refreshToken? bridge = r.store.refreshToken? bridge := by
  obtain ⟨b, source, policy, phase⟩ := f
  unfold receive
  split
  · next hfound =>
    rw [hf] at hfound
    cases hfound
    cases result with
    | ok c =>
      exact congrArg CredentialSlot.refreshToken
        ((CredentialStore.slot_replace ..).trans (if_neg hother))
    | error e =>
      simp only
      split <;> rfl
  · rfl

/-- A refresh that gets a credential is the only one of its bridge that has not ended, so none is left
that holds a refresh token. -/
theorem held?_receive (ho : Orderly r) (hf : r.refreshes[n]? = some f)
    (hasking : f.phase = .asking attempt held) (c : Credential) {m : Nat} {g : Refresh σ}
    (hg : (r.receive n (.ok c)).refreshes[m]? = some g) (hbridge : g.bridge = f.bridge) :
    g.phase.held? = none := by
  obtain ⟨bridge, source, policy, phase⟩ := f
  subst hasking
  have hafter : ∀ k, (r.receive n (.ok c)).refreshes[k]? = r.refreshes[k]?.map fun f =>
      if n = k then { f with phase := .closing (.ok (r.store.replace bridge c).1) } else f := by
    intro k
    simp only [receive, hf]
    exact getElem?_withPhase ..
  rw [hafter] at hg
  obtain ⟨g, hold, rfl⟩ := Option.map_eq_some_iff.1 hg
  by_cases hm : n = m
  · rw [if_pos hm]
    rfl
  · rw [if_neg hm] at hbridge ⊢
    obtain ⟨reg, hreg⟩ := Option.isSome_iff_exists.1 (ho.known n _ hf)
    refine Option.eq_none_iff_forall_ne_some.2 fun token ht => hm ?_
    exact ho.inFlight_unique hreg ⟨_, hf, rfl, rfl⟩ ⟨g, hold, hbridge, isEnded_of_held? ht⟩

end Refresher

namespace Renewal

/-- Whether a refresh hears from its source. -/
def Act.hears : Act σ → Bool
  | .receive .. => true
  | _ => false

variable {bridge : String}

/-- Only from its source a bridge gets a refresh token, and it loses none. -/
theorem refreshToken?_step (s : Renewal σ) {a : Act σ} (ha : a.hears = false)
    (hknown : (s.refresher.bridges.get? bridge).isSome = true) :
    (s.step a).refresher.store.refreshToken? bridge =
      s.refresher.store.refreshToken? bridge := by
  cases a with
  | receive => cases ha
  | register b source policy =>
    simp only [step]
    split
    · rfl
    · next hnew =>
      have hb : b ≠ bridge := by
        rintro rfl
        exact hnew hknown
      simp only [CredentialStore.refreshToken?, Refresher.slot_register, if_neg hb]
  | tick | arrive => rfl
  | join k =>
    simp only [step]
    split
    · next b _ =>
      have hstore : (s.refresher.call b s.now).2.store = s.refresher.store := by
        unfold Refresher.call
        split
        · rfl
        · split
          · rfl
          · split <;> rfl
      simp only [hstore]
    · rfl
  | deliver k =>
    simp only [step]
    split
    · split <;> rfl
    · rfl
  | begin n =>
    simp only [step]
    rcases s.refresher.begin_cases n with hidle | ⟨f, -, -, hbegin⟩
    · rw [hidle]
    · rw [hbegin]
      rfl
  | resume n =>
    simp only [step]
    rcases s.refresher.resume_cases n with hidle | ⟨f, attempt, held, -, -, hresume⟩
    · rw [hidle]
    · rw [hresume]
      rfl
  | close n =>
    simp only [step]
    rcases s.refresher.close_cases n with hidle | ⟨f, outcome, hf, hclosing⟩
    · rw [hidle]
    · rw [Refresher.close_eq hf hclosing]
      rfl
  | invalidate b =>
    simp only [step, Refresher.invalidate, CredentialStore.refreshToken?,
      CredentialStore.slot_invalidate]
    split
    · next hb =>
      subst hb
      rfl
    · rfl
  | invalidateIf b refused =>
    simp only [step, Refresher.invalidateIf, CredentialStore.refreshToken?,
      CredentialStore.slot_invalidateIf]
    split
    · next hb =>
      obtain ⟨rfl, -⟩ := hb
      rfl
    · rfl

/-! ## Bridges with an account -/

/-- A bridge has an account, which all its refreshes ask. -/
structure Owned (bridge : String) (a : Account) (r : Refresher TokenSource) : Prop where
  orderly : Orderly r
  registered : ∃ reg, r.bridges.get? bridge = some reg ∧ reg.source = .account a
  sources : ∀ (n : Nat) f, r.refreshes[n]? = some f → f.bridge = bridge → f.source = .account a

variable {account : Account}

theorem Owned.isSome {r : Refresher TokenSource} (h : Owned bridge account r) :
    (r.bridges.get? bridge).isSome = true := by
  obtain ⟨reg, hreg, -⟩ := h.registered
  rw [hreg]
  rfl

theorem owned_register (bridge : String) (account : Account) (policy : RefreshPolicy) :
    Owned bridge account
      (Renewal.new.step (.register bridge (.account account) policy)).refresher := by
  refine ⟨(move_step new _).orderly orderly_new, ?_, fun n f hf => ?_⟩
  · exact ⟨_, (Refresher.get?_bridges_register ..).trans (if_pos rfl), rfl⟩
  · cases hf

/-- Who comes to the bridge with another source is not heard. -/
theorem Owned.step {s : Renewal TokenSource} (h : Owned bridge account s.refresher)
    (a : Act TokenSource) : Owned bridge account (s.step a).refresher := by
  obtain ⟨reg, hreg, hsource⟩ := h.registered
  have hmove := move_step s a
  have heffect := effect_step s (a := a) (.inr h.isSome)
  refine ⟨hmove.orderly h.orderly, ?_, fun n f' hf' hb => ?_⟩
  · obtain ⟨reg', hreg', hsource', -⟩ := hmove.registered hreg
    exact ⟨reg', hreg', hsource'.trans hsource⟩
  · rcases heffect.refreshes n f' hf' hb with ⟨f, hf, hcontinues⟩ | ⟨-, -, reg', hreg', hsource'⟩
    · exact hcontinues.source.trans (h.sources n f hf (hcontinues.bridge.symm.trans hb))
    · rw [hreg] at hreg'
      cases hreg'
      exact hsource'.trans hsource

end Renewal

/-! ## Runs with token endpoints -/

/-- Bridges with sources and callers, what was exchanged with token endpoints, and the endpoints. -/
structure Dealings (τ : Type) where
  renewal : Renewal TokenSource
  log : List Exchange
  world : τ

namespace Dealings

open Renewal (Owned)

/-- What can happen. Nothing that happens while a source is asked makes a difference to what it sends
or to what becomes of its answer, so asking and answering are one act. -/
inductive Act where
  | ask (refresh : Nat)
  | other (a : Renewal.Act TokenSource)

variable {τ : Type}

/-- A bridge that has just got an account. -/
def start (bridge : String) (account : Account) (policy : RefreshPolicy) (world : τ) : Dealings τ :=
  ⟨Renewal.new.step (.register bridge (.account account) policy), [], world⟩

/-- Refreshes hear from their sources only what these make of the answers of the endpoints. -/
def step (wire : Wire τ) (s : Dealings τ) : Act → Dealings τ
  | .ask n =>
    match s.renewal.refresher.refreshes[n]? with
    | some ⟨bridge, source, _, .asking _ held⟩ =>
      let (result, log, world) :=
        source.ask (wire.noted bridge) s.renewal.now held (s.log, s.world)
      ⟨s.renewal.step (.receive n result), log, world⟩
    | _ => s
  | .other a => if a.hears then s else { s with renewal := s.renewal.step a }

def run (wire : Wire τ) (s : Dealings τ) (acts : List Act) : Dealings τ := acts.foldl (step wire) s

/-- Store, refreshes and log of a bridge with an account go together. -/
structure Kept (bridge : String) (account : Account) (s : Dealings τ) : Prop where
  owned : Owned bridge account s.renewal.refresher
  stored : s.renewal.refresher.store.refreshToken? bridge = latest? bridge s.log
  held : ∀ (n : Nat) f, s.renewal.refresher.refreshes[n]? = some f → f.bridge = bridge →
    ∀ token, f.phase.held? = some token → latest? bridge s.log = some token
  shown : ShowsLatest bridge s.log

variable {bridge : String} {account : Account} {wire : Wire τ} {s : Dealings τ}

theorem kept_start (bridge : String) (account : Account) (policy : RefreshPolicy) (world : τ) :
    Kept bridge account (start bridge account policy world) := by
  refine ⟨Renewal.owned_register bridge account policy, ?_, fun n f hf => ?_,
    Exchange.showsLatest_nil⟩
  · exact congrArg CredentialSlot.refreshToken
      ((Refresher.slot_register ..).trans (if_pos rfl))
  · cases hf

/-- What a refresh holds after an act it has held before, or was stored when it began. -/
theorem Kept.held_step (h : Kept bridge account s) (a : Renewal.Act TokenSource) {n : Nat}
    {f : Refresh TokenSource} (hf : (s.renewal.step a).refresher.refreshes[n]? = some f)
    (hbridge : f.bridge = bridge) {token : String} (ht : f.phase.held? = some token) :
    latest? bridge s.log = some token := by
  have heffect := Renewal.effect_step s.renewal (a := a) (.inr h.owned.isSome)
  rcases heffect.refreshes n f hf hbridge with ⟨g, hg, hcontinues⟩ | ⟨-, hcreated, -⟩
  · have hofBridge : g.bridge = bridge := hcontinues.bridge.symm.trans hbridge
    rcases hcontinues.held token ht with hold | hstored
    · exact h.held n g hg hofBridge token hold
    · rw [← h.stored, ← hofBridge]
      exact hstored
  · rw [hcreated] at ht
    cases ht

theorem Kept.other (h : Kept bridge account s) (a : Renewal.Act TokenSource) :
    Kept bridge account (s.step wire (.other a)) := by
  simp only [step]
  split
  · exact h
  · next hears =>
    have ha : a.hears = false := Bool.eq_false_iff.2 hears
    refine ⟨h.owned.step a, ?_, fun n f hf hb token => h.held_step a hf hb, h.shown⟩
    exact (Renewal.refreshToken?_step s.renewal ha h.owned.isSome).trans h.stored

/-- The refresh of another bridge neither sends on behalf of this one nor stores for it. -/
theorem Kept.ask_aside (h : Kept bridge account s) {n : Nat} {f : Refresh TokenSource}
    (hf : s.renewal.refresher.refreshes[n]? = some f) (hother : f.bridge ≠ bridge)
    {sent : List Exchange} (hsent : ∀ e ∈ sent, e.bridge = f.bridge)
    (result : Except RequestError Credential) (world : τ) :
    Kept bridge account ⟨s.renewal.step (.receive n result), s.log ++ sent, world⟩ := by
  have haside : ∀ e ∈ sent, e.bridge ≠ bridge := fun e he => hsent e he ▸ hother
  have hlatest : latest? bridge (s.log ++ sent) = latest? bridge s.log :=
    Exchange.latest?_append_aside haside
  refine ⟨h.owned.step _, ?_, fun m g hg hb token ht => ?_, h.shown.aside haside⟩
  · rw [hlatest, ← h.stored]
    exact Refresher.refreshToken?_receive_aside hf hother result
  · exact hlatest.trans (h.held_step _ hg hb ht)

/-- The bridge's own refresh: it shows what was issued last, and stores what is issued now. -/
theorem Kept.ask_own (h : Kept bridge account s) {n attempt : Nat} {held : Option String}
    {f : Refresh TokenSource} (hf : s.renewal.refresher.refreshes[n]? = some f)
    (hasking : f.phase = .asking attempt held) (hown : f.bridge = bridge) {sent : List Exchange}
    {result : Except RequestError Credential} (hasked : TokenSource.Asked bridge held sent result)
    (world : τ) :
    Kept bridge account ⟨s.renewal.step (.receive n result), s.log ++ sent, world⟩ := by
  have hheld : ∀ token, held = some token → latest? bridge s.log = some token := by
    intro token ht
    refine h.held n f hf hown token ?_
    rw [hasking]
    exact ht
  have hlatest := hasked.latest?_append hheld
  refine ⟨h.owned.step _, ?_, fun m g hg hb token ht => ?_, hasked.showsLatest hheld h.shown⟩
  · rw [hlatest, ← h.stored, ← hown]
    exact Refresher.refreshToken?_receive hf hasking result
  · cases result with
    | ok c =>
      have hnone := Refresher.held?_receive h.owned.orderly hf hasking c hg (hb.trans hown.symm)
      rw [hnone] at ht
      cases ht
    | error fault => exact hlatest.trans (h.held_step _ hg hb ht)

theorem Kept.ask (h : Kept bridge account s) (n : Nat) :
    Kept bridge account (s.step wire (.ask n)) := by
  simp only [step]
  split
  · next b source policy attempt held hf =>
    by_cases hb : b = bridge
    · subst hb
      cases h.owned.sources n _ hf rfl
      obtain ⟨sent, result, world, hask, hasked⟩ := TokenSource.asked_account wire b
        s.renewal.now account held s.log s.world
      rw [hask]
      exact h.ask_own hf rfl rfl hasked world
    · obtain ⟨sent, hlog, hsent⟩ := source.ask_ofBridge wire b s.renewal.now held s.log s.world
      rw [hlog]
      exact h.ask_aside hf hb hsent _ _
  · exact h

theorem Kept.run (h : Kept bridge account s) (acts : List Act) :
    Kept bridge account (s.run wire acts) := by
  induction acts generalizing s with
  | nil => exact h
  | cons a acts ih =>
    cases a with
    | ask n => exact ih (h.ask n)
    | other a => exact ih (h.other a)

/-- Which refresh tokens are presented on behalf of a bridge. -/
structure PresentsLatest (bridge : String) (s : Dealings τ) : Prop where
  /-- Only the one that was issued last. -/
  shown : ∀ before e after token, s.log = before ++ e :: after → e.bridge = bridge →
    e.shown? = some token → latest? bridge before = some token
  /-- The one that was issued last is stored, for the next refresh to show. -/
  next : s.renewal.refresher.store.refreshToken? bridge = latest? bridge s.log
  /-- One that was rejected is presented again only if it was issued again, after whatever else was
  issued, or if nothing has been issued since. -/
  rejected : ∀ before refused between again after token,
    s.log = before ++ refused :: (between ++ again :: after) →
    refused.bridge = bridge → refused.shown? = some token → refused.isRejection →
    again.bridge = bridge → again.shown? = some token →
    latest? bridge between = some token ∨ ∀ e ∈ between, e.bridge = bridge → e.issued? = none

theorem presents_latest (wire : Wire τ) (bridge : String) (account : Account)
    (policy : RefreshPolicy) (world : τ) (acts : List Act) :
    PresentsLatest bridge ((start bridge account policy world).run wire acts) := by
  have hkept : Kept bridge account ((start bridge account policy world).run wire acts) :=
    (kept_start bridge account policy world).run acts
  refine ⟨fun before e after token hlog hb => hkept.shown before e after hlog hb token, hkept.stored,
    fun before refused between again after token hlog _ _ _ hb ht => ?_⟩
  rw [← List.cons_append, ← List.append_assoc] at hlog
  have hlatest := hkept.shown _ again after hlog hb token ht
  rw [List.append_cons, Exchange.latest?_append] at hlatest
  cases hbetween : latest? bridge between with
  | none => exact .inr (Exchange.latest?_eq_none_iff.1 hbetween)
  | some last =>
    rw [hbetween] at hlatest
    exact .inl hlatest

/-! ## A refresh token that was rejected -/

/-- A wire that brings replies one after the other. -/
def scripted : Wire (List Reply)
  | _, [] => (.noAnswer, [])
  | _, reply :: replies => (reply, replies)

def replied (status : Nat) (text : String) : Reply :=
  .response ⟨status, none, Text.Utf8.encode text.toList, .complete⟩

/-- The acts of a caller that needs a refresh, both of the same number. -/
def renews (bridge : String) (n : Nat) : List Act :=
  [.other (.arrive bridge), .other (.join n), .other (.begin n), .ask n, .other (.close n)]

/-- The endpoint rejects a refresh token, and gives a credential for user name and password that has
none. The next refresh presents the rejected one. -/
theorem rejected_presented :
    let endpoint : Url :=
      ⟨"http", some ⟨"", none, .domain "server", none⟩, .segments ["token"], none, none⟩
    let account : Account := ⟨endpoint, "id", none, "user", "secret", none, 30⟩
    let replies := [
      replied 200 "\x7b\"access_token\":\"a\",\"expires_in\":0,\"refresh_token\":\"r1\"\x7d",
      replied 400 "invalid_grant",
      replied 200 "\x7b\"access_token\":\"b\",\"expires_in\":0\x7d",
      replied 200 "\x7b\"access_token\":\"c\",\"expires_in\":0\x7d"]
    let s := (start "hub" account .usual replies).run scripted
      (renews "hub" 0 ++ renews "hub" 1 ++ renews "hub" 2)
    s.log.map Exchange.bridge = ["hub", "hub", "hub", "hub"] ∧
      s.log.map Exchange.shown? = [none, some "r1", none, some "r1"] ∧
      s.log.map Exchange.isRejection = [false, true, false, false] ∧
      s.log.map Exchange.issued? = [some "r1", none, none, none] := by
  decide +kernel

end Dealings

end DeviceHub
