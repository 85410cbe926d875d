import DeviceHub.Proofs.Credential.Outcomes

/-!
# The course of a refresh

A refresh that has begun takes one turn after another until it ends: its source answers, its pause is
over, or it makes room for the next one. Between two of its turns anything can happen to the rest of
the refresher: other refreshes go on, callers come, credentials are stored or dropped.

`Course` has the turns that a refresh takes if its source gives certain answers.

* `Course.act`: what is no turn of a refresh leaves it alone.
* `advance_asking`, `advance_last`, `advance_pausing`, `advance_closing`: the turns.
-/
namespace DeviceHub

variable {σ : Type}

/-! ## Waits and answers -/

namespace Refresh

/-- What a refresh waits for. -/
inductive Wait where
  /-- The answer of its source, which was shown a refresh token. -/
  | answer (shown : Option String)
  | pause (millis : Nat)
  deriving DecidableEq

def Wait.isAnswer : Wait → Bool
  | .answer _ => true
  | .pause _ => false

def wait? (f : Refresh σ) : Option Wait :=
  match f.phase with
  | .asking _ held => some (.answer held)
  | .pausing .. => some (.pause f.policy.retryDelay)
  | _ => none

/-- A failure that may be gone at the next attempt. -/
def transient : Except RequestError Credential → Bool
  | .ok _ => false
  | .error e => e.isTransient

/-- The outcome that the last answer of a source comes to, and the store after it. -/
def conclude (bridge : String) (store : CredentialStore) :
    Except RequestError Credential → Except String Credential × CredentialStore
  | .ok c => (.ok (store.replace bridge c).1, (store.replace bridge c).2)
  | .error e => (.error e.message, store)

end Refresh

/-! ## Courses -/

namespace Refresher

/-- One turn of a refresh: the refresher before it and after it. -/
structure Change (σ : Type) where
  before : Refresher σ
  after : Refresher σ

/-- All that a refresh waited for in the turns that it took. -/
def waits (n : Nat) (turns : List (Change σ)) : List Refresh.Wait :=
  turns.filterMap fun t => t.after.refreshes[n]?.bind Refresh.wait?

/-- How often a refresh has asked its source. -/
def asked (n : Nat) (turns : List (Change σ)) : Nat := (waits n turns).countP Refresh.Wait.isAnswer

/-- The next turn of a refresh: its source answers, its pause is over, or it ends. -/
def advance (r : Refresher σ) (n : Nat) (result : Except RequestError Credential) : Refresher σ :=
  match r.phase? n with
  | some (.asking ..) => r.receive n result
  | some (.pausing ..) => r.resume n
  | _ => r.close n

/-- The turns that a refresh has taken from its beginning in `start`, and what has become of the
refresher. Its source has the answers `results`, numbered from 1. -/
inductive Course (n : Nat) (results : Nat → Except RequestError Credential) (start : Refresher σ) :
    List (Change σ) → Refresher σ → Prop where
  | begun : Course n results start [⟨start, start.begin n⟩] (start.begin n)
  /-- Something happens that is no turn of this refresh. -/
  | elsewhere {turns : List (Change σ)} {r r' : Refresher σ} (h : Course n results start turns r)
      (same : r'.refreshes[n]? = r.refreshes[n]?) : Course n results start turns r'
  | turn {turns : List (Change σ)} {r : Refresher σ} (h : Course n results start turns r)
      (going : r.outcome? n = none) :
      Course n results start (turns ++ [⟨r, r.advance n (results (asked n turns))⟩])
        (r.advance n (results (asked n turns)))

/-! ## What is no turn of a refresh -/

theorem getElem?_call (r : Refresher σ) (bridge : String) (now : Instant) {n : Nat}
    (hn : n < r.refreshes.length) : (r.call bridge now).2.refreshes[n]? = r.refreshes[n]? := by
  unfold call
  split
  · rfl
  · split
    · rfl
    · split
      · rfl
      · rw [getElem?_start, if_neg (Nat.ne_of_lt hn)]

/-- A turn of another refresh. -/
theorem Turn.getElem?_of_ne {m n : Nat} {r r' : Refresher σ} (ht : Turn m r r') (hm : m ≠ n) :
    r'.refreshes[n]? = r.refreshes[n]? := by
  have hother : ∀ phase, (r.withPhase m phase).refreshes[n]? = r.refreshes[n]? := by
    intro phase
    rw [getElem?_withPhase]
    simp only [hm, if_false, Option.map_id']
  cases ht with
  | idle => rfl
  | proceed | fail => exact hother _
  | succeed => exact hother (.closing (.ok _))
  | close hf hclosing =>
    rw [getElem?_close hf hclosing]
    simp only [hm, if_false, Option.map_id']

end Refresher

/-- An act that is a turn of a refresh. -/
def Renewal.Act.IsTurnOf (n : Nat) : Renewal.Act σ → Prop
  | .begin m | .receive m _ | .resume m | .close m => m = n
  | _ => False

namespace Refresher

theorem getElem?_step {s : Renewal σ} {a : Renewal.Act σ} {n : Nat} (ha : ¬a.IsTurnOf n)
    (hn : n < s.refresher.refreshes.length) :
    (s.step a).refresher.refreshes[n]? = s.refresher.refreshes[n]? := by
  cases a with
  | register =>
    simp only [Renewal.step]
    split <;> rfl
  | tick | arrive | invalidate | invalidateIf => rfl
  | join k =>
    simp only [Renewal.step]
    split
    · next bridge _ => exact s.refresher.getElem?_call bridge s.now hn
    · rfl
  | deliver k =>
    simp only [Renewal.step]
    split
    · split <;> rfl
    · rfl
  | begin => exact (turn_begin ..).getElem?_of_ne ha
  | receive => exact (turn_receive ..).getElem?_of_ne ha
  | resume => exact (turn_resume ..).getElem?_of_ne ha
  | close => exact (turn_close ..).getElem?_of_ne ha

variable {n : Nat} {results : Nat → Except RequestError Credential} {start : Refresher σ}
  {turns : List (Change σ)} {r : Refresher σ}

/-- The course of a refresh goes on unchanged whatever else happens in a run. -/
theorem Course.act {s : Renewal σ} (h : Course n results start turns s.refresher)
    {a : Renewal.Act σ} (ha : ¬a.IsTurnOf n) (hn : n < s.refresher.refreshes.length) :
    Course n results start turns (s.step a).refresher := h.elsewhere (getElem?_step ha hn)

theorem Course.length_pos (h : Course n results start turns r) : 1 ≤ turns.length := by
  induction h with
  | begun => exact Nat.le_refl 1
  | elsewhere _ _ ih => exact ih
  | turn => rw [List.length_append]; exact Nat.le_add_left ..

/-! ## Turns -/

section Turns

variable {bridge : String} {source : σ} {policy : RefreshPolicy} {attempt : Nat}
  {held : Option String} {result : Except RequestError Credential}

theorem advance_eq_receive
    (hf : r.refreshes[n]? = some ⟨bridge, source, policy, .asking attempt held⟩) :
    r.advance n result = r.receive n result := by
  simp only [advance, phase?, hf, Option.map_some]

/-- A source that fails is asked again after a pause. -/
theorem advance_asking (hf : r.refreshes[n]? = some ⟨bridge, source, policy, .asking attempt held⟩)
    (hagain : Refresh.transient result = true ∧ attempt < policy.lastAttempt) :
    r.advance n result = r.withPhase n (.pausing attempt held) := by
  rw [advance_eq_receive hf]
  cases result with
  | ok c => cases hagain.1
  | error e =>
    have he : e.isTransient = true ∧ attempt < policy.lastAttempt := hagain
    simp only [receive, hf, if_pos he]

/-- A source is not asked again: what it says is the outcome. -/
theorem advance_last (hf : r.refreshes[n]? = some ⟨bridge, source, policy, .asking attempt held⟩)
    (hlast : ¬(Refresh.transient result = true ∧ attempt < policy.lastAttempt)) :
    r.advance n result =
      { r with store := (Refresh.conclude bridge r.store result).2 }.withPhase n
        (.closing (Refresh.conclude bridge r.store result).1) := by
  rw [advance_eq_receive hf]
  cases result with
  | ok c => simp only [receive, hf, Refresh.conclude]
  | error e =>
    have he : ¬(e.isTransient = true ∧ attempt < policy.lastAttempt) := hlast
    simp only [receive, hf, if_neg he, Refresh.conclude]

theorem advance_pausing
    (hf : r.refreshes[n]? = some ⟨bridge, source, policy, .pausing attempt held⟩) :
    r.advance n result = r.withPhase n (.asking (attempt + 1) held) := by
  simp only [advance, phase?, hf, Option.map_some, resume]

theorem advance_closing {outcome : Except String Credential}
    (hf : r.refreshes[n]? = some ⟨bridge, source, policy, .closing outcome⟩) :
    r.advance n result = r.close n := by
  simp only [advance, phase?, hf, Option.map_some]

end Turns

end Refresher

end DeviceHub
