import DeviceHub.Credential.Refresher

/-!
# Runs of credential renewal

Any number of callers ask a refresher for credentials while its refreshes go on, credentials are
dropped and time passes, in any order. A caller looks twice for a good credential: when it comes, and
once more when it has its turn at the slot of its bridge, where it joins the refresh under way or
starts one. Between the two anything can happen, and so between any two turns of a refresh. A caller
that gives up is one that has no more turns.

Every bridge is registered once: who comes to it again with another source is not heard.

`Turn` says once what a refresh can do in one turn, and `Move` what an act can do to the refresher.

The callers are those of `TokenRefresher.get_valid_token`.

* `join_arrive`: a caller whose two looks follow each other gets what `Refresher.call` says.
* `move_step`: every act is such a move.
-/
namespace DeviceHub

variable {σ : Type}

namespace Refresh.Phase

/-- The outcome of a refresh, once it is certain. -/
def outcome? : Refresh.Phase → Option (Except String Credential)
  | .closing outcome | .ended outcome => some outcome
  | _ => none

def isEnded : Refresh.Phase → Bool
  | .ended _ => true
  | _ => false

theorem isEnded_of_outcome? {phase : Refresh.Phase} (h : phase.outcome? = none) :
    phase.isEnded = false := by
  cases phase with
  | closing | ended => cases h
  | created | asking | pausing => rfl

end Refresh.Phase

namespace Refresher

/-- What a caller finds without waiting: a good credential, or that there is no such bridge. -/
def look (r : Refresher σ) (bridge : String) (now : Instant) :
    Option (Except RequestError Credential) :=
  match r.bridges.get? bridge with
  | none => some (.error (.unknownBridge bridge))
  | some reg => (r.store.fresh? bridge reg.policy.marginNanos now).map .ok

/-! ## What a refresh does in a turn -/

/-- What one turn of a refresh can do. -/
inductive Turn (n : Nat) : Refresher σ → Refresher σ → Prop where
  | idle {r : Refresher σ} : Turn n r r
  /-- It goes on asking or pausing. -/
  | proceed {r : Refresher σ} {f : Refresh σ} {phase : Refresh.Phase} (hf : r.refreshes[n]? = some f)
      (hopen : f.phase.outcome? = none) (hphase : phase.outcome? = none) :
      Turn n r (r.withPhase n phase)
  | fail {r : Refresher σ} {f : Refresh σ} {text : String} (hf : r.refreshes[n]? = some f)
      (hopen : f.phase.outcome? = none) : Turn n r (r.withPhase n (.closing (.error text)))
  | succeed {r : Refresher σ} {f : Refresh σ} {c : Credential} (hf : r.refreshes[n]? = some f)
      (hopen : f.phase.outcome? = none) :
      Turn n r
        ({ r with store := (r.store.replace f.bridge c).2 }.withPhase n
          (.closing (.ok (r.store.replace f.bridge c).1)))
  | close {r : Refresher σ} {f : Refresh σ} {outcome : Except String Credential}
      (hf : r.refreshes[n]? = some f) (hclosing : f.phase = .closing outcome) : Turn n r (r.close n)

theorem turn_begin (r : Refresher σ) (n : Nat) : Turn n r (r.begin n) := by
  unfold begin
  split
  · next hf => exact .proceed hf rfl rfl
  · exact .idle

theorem turn_receive (r : Refresher σ) (n : Nat) (result : Except RequestError Credential) :
    Turn n r (r.receive n result) := by
  unfold receive
  split
  · next hf =>
    cases result with
    | ok c => exact .succeed hf rfl
    | error e =>
      simp only
      split
      · exact .proceed hf rfl rfl
      · exact .fail hf rfl
  · exact .idle

theorem phase?_eq_some {r : Refresher σ} {n : Nat} {phase : Refresh.Phase}
    (h : r.phase? n = some phase) : ∃ f, r.refreshes[n]? = some f ∧ f.phase = phase :=
  Option.map_eq_some_iff.1 h

theorem turn_resume (r : Refresher σ) (n : Nat) : Turn n r (r.resume n) := by
  unfold resume
  split
  · next attempt held hphase =>
    obtain ⟨f, hf, hpausing⟩ := phase?_eq_some hphase
    exact .proceed hf (by rw [hpausing]; rfl) rfl
  · exact .idle

theorem turn_close (r : Refresher σ) (n : Nat) : Turn n r (r.close n) := by
  cases hphase : r.phase? n with
  | none =>
    have hidle : r.close n = r := by simp only [close, hphase]
    rw [hidle]
    exact .idle
  | some phase =>
    obtain ⟨f, hf, rfl⟩ := phase?_eq_some hphase
    cases hp : f.phase with
    | closing outcome => exact .close hf hp
    | _ =>
      have hidle : r.close n = r := by simp only [close, hphase, hp]
      rw [hidle]
      exact .idle

/-! ## What happens to a refresher -/

/-- What one act can do to a refresher. -/
inductive Move : Refresher σ → Refresher σ → Prop where
  /-- Nothing but the store changes. -/
  | alike {r r' : Refresher σ} (hb : r'.bridges = r.bridges) (hf : r'.refreshes = r.refreshes) :
      Move r r'
  | register {r : Refresher σ} {bridge : String} {source : σ} {policy : RefreshPolicy}
      (hnone : r.bridges.get? bridge = none) : Move r (r.register bridge source policy)
  | start {r : Refresher σ} {bridge : String} {reg : Registration σ}
      (hreg : r.bridges.get? bridge = some reg) (hidle : reg.inflight = none) :
      Move r (r.start bridge reg)
  | turn {r r' : Refresher σ} {n : Nat} (ht : Turn n r r') : Move r r'

theorem call_of_fresh {r : Refresher σ} {bridge : String} {reg : Registration σ} {now : Instant}
    (hreg : r.bridges.get? bridge = some reg) {c : Credential}
    (hc : r.store.fresh? bridge reg.policy.marginNanos now = some c) :
    r.call bridge now = (.granted c, r) := by
  simp only [call, hreg, hc]

theorem call_of_inflight {r : Refresher σ} {bridge : String} {reg : Registration σ} {now : Instant}
    (hreg : r.bridges.get? bridge = some reg)
    (hc : r.store.fresh? bridge reg.policy.marginNanos now = none) {n : Nat}
    (hn : reg.inflight = some n) : r.call bridge now = (.awaits n, r) := by
  simp only [call, hreg, hc, hn]

theorem call_of_idle {r : Refresher σ} {bridge : String} {reg : Registration σ} {now : Instant}
    (hreg : r.bridges.get? bridge = some reg)
    (hc : r.store.fresh? bridge reg.policy.marginNanos now = none) (hn : reg.inflight = none) :
    r.call bridge now = (.awaits r.refreshes.length, r.start bridge reg) := by
  simp only [call, hreg, hc, hn]

theorem move_call (r : Refresher σ) (bridge : String) (now : Instant) :
    Move r (r.call bridge now).2 := by
  unfold call
  split
  · exact .alike rfl rfl
  · next reg hreg =>
    split
    · exact .alike rfl rfl
    · split
      · exact .alike rfl rfl
      · next hidle => exact .start hreg hidle

end Refresher

/-! ## Callers and acts -/

namespace Renewal

/-- Someone who asks for a credential of a bridge. -/
inductive Caller where
  /-- It found no good credential and waits for its turn at the slot of the bridge. -/
  | queued (bridge : String)
  | waiting (bridge : String) (refresh : Nat)
  /-- It has its answer, from a refresh or at once. -/
  | answered (bridge : String) (refresh : Option Nat) (result : Except RequestError Credential)

/-- What becomes of a caller at the slot of its bridge. -/
def Caller.ofCall (bridge : String) : Refresher.Call → Caller
  | .refused e => .answered bridge none (.error e)
  | .granted c => .answered bridge none (.ok c)
  | .awaits n => .waiting bridge n

/-- What can happen in a run. -/
inductive Act (σ : Type) where
  | register (bridge : String) (source : σ) (policy : RefreshPolicy)
  | tick (now : Instant)
  /-- A caller comes and takes its first look. -/
  | arrive (bridge : String)
  /-- A caller has its turn at the slot of its bridge. -/
  | join (k : Nat)
  /-- A caller hears of the refresh that it waits for. -/
  | deliver (k : Nat)
  | begin (n : Nat)
  | receive (n : Nat) (result : Except RequestError Credential)
  | resume (n : Nat)
  | close (n : Nat)
  | invalidate (bridge : String)
  | invalidateIf (bridge : String) (refused : Credential)

end Renewal

/-- A refresher, those who ask it for credentials, and the time. -/
structure Renewal (σ : Type) where
  refresher : Refresher σ
  callers : List Renewal.Caller
  now : Instant

namespace Renewal

def new : Renewal σ := ⟨.empty, [], .epoch⟩

/-- What becomes of a new caller. -/
def Caller.ofLook (bridge : String) : Option (Except RequestError Credential) → Caller
  | some result => .answered bridge none result
  | none => .queued bridge

/-- The run after an act; as before when the act cannot happen. -/
def step (s : Renewal σ) : Act σ → Renewal σ
  | .register bridge source policy =>
    if s.refresher.bridges.contains bridge then s
    else { s with refresher := s.refresher.register bridge source policy }
  | .tick now => { s with now := now }
  | .arrive bridge =>
    { s with callers := s.callers ++ [.ofLook bridge (s.refresher.look bridge s.now)] }
  | .join k =>
    match s.callers[k]? with
    | some (.queued bridge) =>
      let (call, refresher) := s.refresher.call bridge s.now
      { s with refresher := refresher, callers := s.callers.set k (.ofCall bridge call) }
    | _ => s
  | .deliver k =>
    match s.callers[k]? with
    | some (.waiting bridge n) =>
      match s.refresher.outcome? n with
      | some result => { s with callers := s.callers.set k (.answered bridge (some n) result) }
      | none => s
    | _ => s
  | .begin n => { s with refresher := s.refresher.begin n }
  | .receive n result => { s with refresher := s.refresher.receive n result }
  | .resume n => { s with refresher := s.refresher.resume n }
  | .close n => { s with refresher := s.refresher.close n }
  | .invalidate bridge => { s with refresher := s.refresher.invalidate bridge }
  | .invalidateIf bridge refused =>
    { s with refresher := s.refresher.invalidateIf bridge refused }

def run (s : Renewal σ) (acts : List (Act σ)) : Renewal σ := acts.foldl step s

theorem run_concat (s : Renewal σ) (acts : List (Act σ)) (a : Act σ) :
    s.run (acts ++ [a]) = (s.run acts).step a := by
  simp only [run, List.foldl_append, List.foldl_cons, List.foldl_nil]

/-- Two looks one after the other are one call. -/
theorem join_arrive (s : Renewal σ) (bridge : String) :
    (s.step (.arrive bridge)).step (.join s.callers.length) =
      { s with
        refresher := (s.refresher.call bridge s.now).2
        callers := s.callers ++ [.ofCall bridge (s.refresher.call bridge s.now).1] } := by
  simp only [step, List.getElem?_concat_length, Refresher.look]
  cases hreg : s.refresher.bridges.get? bridge with
  | none => simp [Caller.ofLook, Refresher.call, hreg, Caller.ofCall]
  | some reg =>
    cases hc : s.refresher.store.fresh? bridge reg.policy.marginNanos s.now with
    | some c => simp [Caller.ofLook, Refresher.call_of_fresh hreg hc, Caller.ofCall, hc]
    | none => simp [Caller.ofLook, hc]

theorem move_step (s : Renewal σ) (a : Act σ) :
    Refresher.Move s.refresher (s.step a).refresher := by
  cases a with
  | register bridge source policy =>
    simp only [step]
    split
    · exact .alike rfl rfl
    · next hnone => exact .register (by simpa [Dict.contains] using hnone)
  | tick | arrive | invalidate | invalidateIf => exact .alike rfl rfl
  | join k =>
    simp only [step]
    split
    · next bridge _ => exact s.refresher.move_call bridge s.now
    · exact .alike rfl rfl
  | deliver k =>
    simp only [step]
    split
    · split <;> exact .alike rfl rfl
    · exact .alike rfl rfl
  | begin n => exact .turn (s.refresher.turn_begin n)
  | receive n result => exact .turn (s.refresher.turn_receive n result)
  | resume n => exact .turn (s.refresher.turn_resume n)
  | close n => exact .turn (s.refresher.turn_close n)

end Renewal

end DeviceHub
