import DeviceHub.Http.Client
import DeviceHub.Proofs.Credential.SingleFlight

/-!
# Fetches that share a bridge

Any number of fetches of one bridge, beside everything else that can happen to its credentials: other
callers, turns of refreshes, other bridges, the clock. A fetch asks for its credential as any caller
does, and its request is answered whenever the vendor likes and however it likes. The bridge is
registered once, and nobody drops its credential but fetches whose credential was refused.

What the source minted and what the vendor refused is noted on the way.

The fetches are those of `HttpDeviceClient.fetch`, their callers those of
`TokenRefresher.get_valid_token`.

* `About`: what an act can do to the credential of the bridge.
* `about_step`: every act of a renewal does one of these things.
-/
namespace DeviceHub

variable {σ : Type}

/-- What a vendor knows a credential by. -/
def Credential.key (c : Credential) : String × String := (c.tokenType, c.token)

theorem Credential.sameToken_iff {a b : Credential} : a.sameToken b = true ↔ a.key = b.key := by
  simp [sameToken, key]

namespace Fetch.Phase

def isAcquiring : Phase → Bool
  | .acquiring | .reacquiring => true
  | _ => false

/-- The credential of the request that is under way. -/
def sent? : Phase → Option Credential
  | .sent c | .resent c => some c
  | _ => none

/-- The credential that an answer says is no good, be it for the first or the second time. -/
def rejected? (phase : Phase) : Except RequestError Payload → Option Credential
  | .error e => if e.isAuthRejection then phase.sent? else none
  | .ok _ => none

/-- What is dropped was refused. -/
theorem rejected?_of_refused? {phase : Phase} {result : Except RequestError Payload}
    {c : Credential} (h : phase.refused? result = some c) : phase.rejected? result = some c := by
  cases phase with
  | sent held =>
    cases result with
    | error e => exact h
    | ok => cases h
  | _ => cases h

end Fetch.Phase

/-- A fetch, and the number of the caller that asks for its credential. -/
structure Fetching where
  phase : Fetch.Phase
  caller : Option Nat

/-- Fetches and the renewal that they share. -/
structure Traffic (σ : Type) where
  renewal : Renewal σ
  fetches : List Fetching
  /-- What the source of the bridge has minted, the latest first. -/
  minted : List Credential
  /-- What answers have said is no good. -/
  rejected : List Credential
  /-- All the times that it has been. -/
  times : List Instant

namespace Traffic

/-- What can happen. -/
inductive Act (σ : Type) where
  /-- Anything but that somebody drops the credential of the bridge. -/
  | renew (a : Renewal.Act σ)
  /-- A fetch begins. -/
  | fetch
  /-- A fetch asks for a credential. -/
  | ask (i : Nat)
  /-- A fetch hears what became of its question. -/
  | credit (i : Nat)
  /-- The request of a fetch is answered. -/
  | answer (i : Nat) (result : Except RequestError Payload)

/-- Whether somebody drops the credential of a bridge who is no fetch. -/
def drops (bridge : String) : Renewal.Act σ → Bool
  | .invalidate b | .invalidateIf b _ => b = bridge
  | _ => false

/-- What the source of a bridge mints: the credential by which it answers a refresh that asks. -/
def minted? (r : Refresher σ) (bridge : String) : Renewal.Act σ → Option Credential
  | .receive n (.ok c) =>
    match r.refreshes[n]? with
    | some ⟨b, _, _, .asking ..⟩ => if b = bridge then some c else none
    | _ => none
  | _ => none

/-- A bridge with its source, and nothing that has happened to it. -/
def start (bridge : String) (source : σ) (policy : RefreshPolicy) (now : Instant) : Traffic σ :=
  ⟨{ (Renewal.new.step (.register bridge source policy)) with now := now }, [], [], [], [now]⟩

/-- The traffic after an act; as before when the act cannot happen. -/
def step (bridge : String) (s : Traffic σ) : Act σ → Traffic σ
  | .renew a =>
    if drops bridge a then s
    else
      { s with
        renewal := s.renewal.step a
        minted := (minted? s.renewal.refresher bridge a).toList ++ s.minted
        times := (s.renewal.step a).now :: s.times }
  | .fetch => { s with fetches := s.fetches ++ [⟨.acquiring, none⟩] }
  | .ask i =>
    match s.fetches[i]? with
    | some ⟨phase, none⟩ =>
      if phase.isAcquiring then
        { s with
          renewal := s.renewal.step (.arrive bridge)
          fetches := s.fetches.set i ⟨phase, some s.renewal.callers.length⟩ }
      else s
    | _ => s
  | .credit i =>
    match s.fetches[i]? with
    | some ⟨phase, some k⟩ =>
      match s.renewal.callers[k]? with
      | some (.answered _ _ result) =>
        { s with fetches := s.fetches.set i ⟨phase.credited result, none⟩ }
      | _ => s
    | _ => s
  | .answer i result =>
    match s.fetches[i]? with
    | some ⟨phase, caller⟩ =>
      { s with
        renewal := match phase.refused? result with
          | some c => s.renewal.step (.invalidateIf bridge c)
          | none => s.renewal
        fetches := s.fetches.set i ⟨phase.answered result, caller⟩
        rejected := (phase.rejected? result).toList ++ s.rejected }
    | none => s

def run (bridge : String) (s : Traffic σ) (acts : List (Act σ)) : Traffic σ :=
  acts.foldl (step bridge) s

end Traffic

namespace Refresh.Phase

/-- Whether a refresh got a credential. -/
def isSuccess (phase : Refresh.Phase) : Bool :=
  match phase.outcome? with
  | some (.ok _) => true
  | _ => false

end Refresh.Phase

namespace Refresher

/-- How many refreshes of a bridge got a credential. -/
def successes (r : Refresher σ) (bridge : String) : Nat :=
  r.refreshes.countP fun f => f.bridge = bridge && f.phase.isSuccess

/-- What an act can do to the credential of a bridge, and what its source mints in it. -/
inductive About (bridge : String) (margin : Int) (now : Instant) (r r' : Refresher σ) :
    Option Credential → Prop where
  | aside (slot : r'.store.slot bridge = r.store.slot bridge)
      (successes : r'.successes bridge = r.successes bridge)
      (undecided : r'.Undecided bridge → r.Undecided bridge) : About bridge margin now r r' none
  /-- A refresh starts, because there is no good credential. -/
  | starts (slot : r'.store.slot bridge = r.store.slot bridge)
      (successes : r'.successes bridge = r.successes bridge)
      (missing : r.store.fresh? bridge margin now = none) : About bridge margin now r r' none
  /-- The refresh of the bridge gets a credential. -/
  | mints {c : Credential} (slot : r'.store.slot bridge = (r.store.slot bridge).replace c)
      (successes : r'.successes bridge = r.successes bridge + 1) (undecided : r.Undecided bridge)
      (decided : ¬r'.Undecided bridge) : About bridge margin now r r' (some c)

section

variable {bridge : String} {margin : Int} {now : Instant} {r r' : Refresher σ} {n : Nat}
  {f : Refresh σ} {phase : Refresh.Phase}

theorem about_refl : About bridge margin now r r none := .aside rfl rfl id

theorem successes_withPhase (bridge : String)
    (hrefreshes : r'.refreshes = (r.withPhase n phase).refreshes)
    (hf : r.refreshes[n]? = some f) :
    r'.successes bridge + (if f.bridge = bridge && f.phase.isSuccess then 1 else 0) =
      r.successes bridge + (if f.bridge = bridge && phase.isSuccess then 1 else 0) := by
  rw [successes, hrefreshes]
  exact countP_modify hf

/-- A turn in which the refresh of the bridge gets no credential. -/
theorem about_withPhase (hslot : r'.store.slot bridge = r.store.slot bridge)
    (hrefreshes : r'.refreshes = (r.withPhase n phase).refreshes) (hf : r.refreshes[n]? = some f)
    (hsuccess : f.bridge = bridge → phase.isSuccess = f.phase.isSuccess)
    (hopen : phase.outcome? = none → f.phase.outcome? = none) :
    About bridge margin now r r' none := by
  refine .aside hslot ?_ ?_
  · have hcount := successes_withPhase bridge hrefreshes hf
    by_cases hb : f.bridge = bridge
    · rw [hsuccess hb] at hcount
      omega
    · simpa [hb] using hcount
  · rintro ⟨m, g, hg, hb, hundecided⟩
    rcases getElem?_withPhase_cases hrefreshes hf hg with hold | rfl
    · exact ⟨m, g, hold, hb, hundecided⟩
    · exact ⟨n, f, hf, hb, hopen hundecided⟩

theorem isSuccess_of_undecided (h : phase.outcome? = none) : phase.isSuccess = false := by
  simp only [Refresh.Phase.isSuccess, h]

theorem about_begin (n : Nat) : About bridge margin now r (r.begin n) none := by
  rcases r.begin_cases n with hidle | ⟨f, hf, hcreated, hbegin⟩
  · rw [hidle]
    exact about_refl
  · rw [hbegin]
    refine about_withPhase rfl rfl hf (fun _ => ?_) fun _ => ?_
    · rw [hcreated]
      rfl
    · rw [hcreated]
      rfl

theorem about_resume (n : Nat) : About bridge margin now r (r.resume n) none := by
  rcases r.resume_cases n with hidle | ⟨f, attempt, held, hf, hpausing, hresume⟩
  · rw [hidle]
    exact about_refl
  · rw [hresume]
    refine about_withPhase rfl rfl hf (fun _ => ?_) fun _ => ?_
    · rw [hpausing]
      rfl
    · rw [hpausing]
      rfl

theorem about_close (n : Nat) : About bridge margin now r (r.close n) none := by
  rcases r.close_cases n with hidle | ⟨f, outcome, hf, hclosing⟩
  · rw [hidle]
    exact about_refl
  · rw [close_eq hf hclosing]
    refine about_withPhase rfl rfl hf (fun _ => ?_) fun h => ?_
    · rw [hclosing]
      rfl
    · cases h

/-- The answer of its source decides a refresh that asks. -/
theorem about_succeed (ho : Orderly r) {reg : Registration σ}
    (hreg : r.bridges.get? bridge = some reg) {c : Credential} (hf : r.refreshes[n]? = some f)
    (hopen : f.phase.outcome? = none) (hb : f.bridge = bridge)
    (hstore : r'.store = (r.store.replace bridge c).2) (hphase : phase.isSuccess = true)
    (hrefreshes : r'.refreshes = (r.withPhase n phase).refreshes) :
    About bridge margin now r r' (some c) := by
  refine .mints ?_ ?_ ⟨n, f, hf, hb, hopen⟩ ?_
  · rw [hstore, CredentialStore.slot_replace, if_pos rfl]
  · have hcount := successes_withPhase bridge hrefreshes hf
    simpa [hb, isSuccess_of_undecided hopen, hphase] using hcount
  · rintro ⟨m, g, hg, hgb, hundecided⟩
    rw [hrefreshes, getElem?_withPhase] at hg
    obtain ⟨g', hg', rfl⟩ := Option.map_eq_some_iff.1 hg
    by_cases hn : n = m
    · rw [if_pos hn] at hundecided
      rw [isSuccess_of_undecided hundecided] at hphase
      cases hphase
    · rw [if_neg hn] at hundecided hgb
      -- there would be two in flight
      have hin : r.InFlight bridge n := ⟨f, hf, hb, Refresh.Phase.isEnded_of_outcome? hopen⟩
      have hother : r.InFlight bridge m :=
        ⟨g', hg', hgb, Refresh.Phase.isEnded_of_outcome? hundecided⟩
      exact hn (ho.inFlight_unique hreg hin hother)

theorem about_receive (ho : Orderly r) {reg : Registration σ}
    (hreg : r.bridges.get? bridge = some reg) (n : Nat) (result : Except RequestError Credential) :
    About bridge margin now r (r.receive n result)
      (Traffic.minted? r bridge (.receive n result)) := by
  unfold receive
  split
  · next b source policy attempt held hf =>
    cases result with
    | ok c =>
      simp only [Traffic.minted?, hf]
      split
      · next hb =>
        subst hb
        exact about_succeed ho hreg hf rfl rfl rfl rfl rfl
      · next hb =>
        refine about_withPhase ?_ rfl hf (fun h => absurd h hb) fun _ => rfl
        exact (CredentialStore.slot_replace ..).trans (if_neg hb)
    | error e =>
      simp only [Traffic.minted?]
      split
      · exact about_withPhase rfl rfl hf (fun _ => rfl) fun _ => rfl
      · exact about_withPhase rfl rfl hf (fun _ => rfl) fun _ => rfl
  · next hnone =>
    have hminted : Traffic.minted? r bridge (.receive n result) = none := by
      cases result with
      | error => rfl
      | ok c => simp only [Traffic.minted?]
    rw [hminted]
    exact about_refl

theorem successes_start {reg : Registration σ} (b : String) :
    (r.start b reg).successes bridge = r.successes bridge := by
  simp [successes, start, List.countP_append, Refresh.Phase.isSuccess, Refresh.Phase.outcome?]

theorem undecided_start {reg : Registration σ} {b : String} (hb : b ≠ bridge)
    (h : (r.start b reg).Undecided bridge) : r.Undecided bridge := by
  obtain ⟨m, g, hg, hgb, hundecided⟩ := h
  rw [getElem?_start] at hg
  split at hg
  · cases hg
    exact absurd hgb hb
  · exact ⟨m, g, hg, hgb, hundecided⟩

theorem about_call {reg : Registration σ} (hreg : r.bridges.get? bridge = some reg)
    (hmargin : reg.policy.marginNanos = margin) (b : String) :
    About bridge margin now r (r.call b now).2 none := by
  unfold call
  split
  · exact about_refl
  · next breg hbreg =>
    split
    · exact about_refl
    · next hmissing =>
      split
      · exact about_refl
      · by_cases hb : b = bridge
        · subst hb
          rw [hreg] at hbreg
          cases hbreg
          exact .starts rfl (successes_start b) (hmargin ▸ hmissing)
        · exact .aside rfl (successes_start b) (undecided_start hb)

end

end Refresher

namespace Traffic

open Refresher (About about_refl)

/-- What somebody else than a fetch does to the credential of a bridge. -/
theorem about_step {s : Renewal σ} (ho : Refresher.Orderly s.refresher) {bridge : String}
    {reg : Registration σ} (hreg : s.refresher.bridges.get? bridge = some reg)
    {a : Renewal.Act σ} (ha : drops bridge a = false) :
    About bridge reg.policy.marginNanos s.now s.refresher (s.step a).refresher
      (minted? s.refresher bridge a) := by
  cases a with
  | register b source policy =>
    simp only [Renewal.step]
    split
    · exact about_refl
    · next hknown =>
      have hb : b ≠ bridge := by
        rintro rfl
        simp [Dict.contains, hreg] at hknown
      exact .aside ((s.refresher.slot_register ..).trans (if_neg hb)) rfl id
  | tick | arrive => exact about_refl
  | join k =>
    simp only [Renewal.step]
    split
    · next b _ => exact Refresher.about_call hreg rfl b
    · exact about_refl
  | deliver k =>
    simp only [Renewal.step]
    split
    · split <;> exact about_refl
    · exact about_refl
  | begin n => exact Refresher.about_begin n
  | receive n result => exact Refresher.about_receive ho hreg n result
  | resume n => exact Refresher.about_resume n
  | close n => exact Refresher.about_close n
  | invalidate b =>
    have hb : b ≠ bridge := by simpa [drops] using ha
    refine .aside ?_ rfl id
    exact (CredentialStore.slot_invalidate ..).trans (if_neg hb)
  | invalidateIf b c =>
    have hb : b ≠ bridge := by simpa [drops] using ha
    refine .aside ?_ rfl id
    exact (CredentialStore.slot_invalidateIf ..).trans (if_neg fun h => hb h.1)

end Traffic

end DeviceHub
