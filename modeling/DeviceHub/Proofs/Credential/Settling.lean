import DeviceHub.Proofs.Credential.Attempts

/-!
# Refreshes that are run to their end

A source that answers at once leaves nothing to wait for: `Refresher.settle` takes one turn of a
refresh after another. Its fuel is enough for any refresh, and it asks the source as often as the
refresh has calls.

* `settle_course`: what is left of a refresh.
* `settle_ends`: a whole refresh.
* `outcome?_obtain`: what a caller gets.
-/
namespace DeviceHub

variable {σ τ : Type}

namespace Refresher

section

variable (ask : σ → Option String → τ → Except RequestError Credential × τ) (source : σ)
  (held : Option String) (world : τ)

/-- What the world of a source is like after a number of answers. -/
def worldAfter : Nat → τ
  | 0 => world
  | j + 1 => (ask source held (worldAfter j)).2

/-- The answers of a source, numbered from 1. -/
def answers (j : Nat) : Except RequestError Credential :=
  (ask source held (worldAfter ask source held world (j - 1))).1

theorem ask_worldAfter {j : Nat} (hj : 1 ≤ j) :
    ask source held (worldAfter ask source held world (j - 1)) =
      (answers ask source held world j, worldAfter ask source held world j) := by
  obtain ⟨i, rfl⟩ : ∃ i, j = i + 1 := ⟨j - 1, by omega⟩
  rfl

end

variable {ask : σ → Option String → τ → Except RequestError Credential × τ} {source : σ}
  {held : Option String} {world : τ} {n : Nat} {start r : Refresher σ} {bridge : String}
  {policy : RefreshPolicy} {results : Nat → Except RequestError Credential}
  {turns : List (Change σ)}

/-- The end of a refresh that had taken some turns: it has its outcome, and its source has been asked
as often as it has calls. -/
def Settled (ask : σ → Option String → τ → Except RequestError Credential × τ) (source : σ)
    (held : Option String) (world : τ) (n : Nat) (start : Refresher σ) (policy : RefreshPolicy)
    (turns : List (Change σ)) (last : Refresher σ × τ) : Prop :=
  ∃ more, Course n (answers ask source held world) start (turns ++ more) last.1 ∧
    (last.1.outcome? n).isSome = true ∧ last.2 =
      worldAfter ask source held world (policy.calls (answers ask source held world))

theorem Settled.of_concat {t : Change σ} {last : Refresher σ × τ}
    (h : Settled ask source held world n start policy (turns ++ [t]) last) :
    Settled ask source held world n start policy turns last := by
  obtain ⟨more, hmore⟩ := h
  exact ⟨t :: more, by rw [List.append_cons]; exact hmore⟩

/-- The rest of a refresh. The induction is on the fuel, of which one is enough for each turn. -/
theorem settle_course (hf : start.refreshes[n]? = some ⟨bridge, source, policy, .created⟩)
    (hheld : start.store.refreshToken? bridge = held)
    (hresults : results = answers ask source held world) (fuel : Nat)
    (h : Course n results start turns r)
    (henough : 2 * policy.calls results + 1 ≤ turns.length + fuel) {w : τ}
    (hw : w = worldAfter ask source held world (min (policy.calls results) (turns.length / 2))) :
    Settled ask source held world n start policy turns (settle ask n fuel (r, w)) := by
  subst hresults
  induction fuel generalizing turns r w with
  | zero =>
    obtain ⟨hle, hended⟩ := (h.follows hf).ended_iff
    refine ⟨[], by rw [List.append_nil]; exact h, hended.2 (by omega), ?_⟩
    rw [settle, hw, Nat.min_eq_left (by omega)]
  | succ fuel ih =>
    have hpos := h.length_pos
    have hfollows := h.follows hf
    obtain ⟨phase, hr, hstage, -⟩ := hfollows.found
    rw [hheld] at hstage
    have hlength : ∀ (l : List (Change σ)) t, (l ++ [t]).length = l.length + 1 := fun l t => by
      rw [List.length_append, List.length_singleton]
    cases hstage with
    | created turn => omega
    | @asking j turn le =>
      have hasked : asked n turns = j := by rw [hfollows.asked]; omega
      have hask : ask source held w = (answers ask source held world j,
          worldAfter ask source held world j) := by
        have hpast : min (policy.calls (answers ask source held world)) (turns.length / 2) = j - 1 := by
          omega
        rw [hw, hpast, ask_worldAfter ask source held world (by omega)]
      have hone := h.turn (by simp only [outcome?, phase?, hr, Option.map_some])
      rw [hasked] at hone
      have hsettle : settle ask n (fuel + 1) (r, w) = settle ask n fuel
          ((r.advance n (answers ask source held world j)).close n,
            worldAfter ask source held world j) := by
        simp only [settle, hr, hask, answer, advance_eq_receive hr]
      rw [hsettle]
      -- The answer either leads to a pause, or the refresh ends with it at once.
      rcases close_cases (r.advance n (answers ask source held world j)) n with
        hsame | ⟨f, outcome, hclosing, hphase⟩
      · rw [hsame]
        refine (ih hone (by rw [hlength]; omega) ?_).of_concat
        rw [hlength]
        congr 1
        omega
      · obtain ⟨phase, hlast, hstage, -⟩ := (hone.follows hf).found
        rw [hclosing] at hlast
        cases hlast
        obtain rfl : phase = .closing outcome := hphase
        have htwo := hone.turn (by simp only [outcome?, phase?, hclosing, Option.map_some])
        rw [advance_closing hclosing] at htwo
        have hlast : turns.length + 1 = 2 * policy.calls (answers ask source held world) := by
          cases hstage with
          | closing hlast => rw [← hlast, hlength]
        refine (ih htwo (by rw [hlength, hlength]; omega) ?_).of_concat.of_concat
        rw [hlength, hlength]
        congr 1
        omega
    | pausing turn _ | closing turn _ =>
      have hone := h.turn (by simp only [outcome?, phase?, hr, Option.map_some])
      have hsettle : settle ask n (fuel + 1) (r, w) =
          settle ask n fuel (r.advance n (answers ask source held world (asked n turns)), w) := by
        simp only [settle, hr, advance, phase?, Option.map_some]
      rw [hsettle]
      refine (ih hone (by rw [hlength]; omega) ?_).of_concat
      rw [hw, hlength]
      congr 1
      omega
    | ended turn outcome =>
      have hended : settle ask n (fuel + 1) (r, w) = (r, w) := by simp only [settle, hr]
      rw [hended]
      refine ⟨[], by rw [List.append_nil]; exact h, hfollows.ended_iff.2.2 turn, ?_⟩
      rw [hw, Nat.min_eq_left (by omega)]

/-- A refresh that begins is run to its end. -/
theorem settle_ends (hf : start.refreshes[n]? = some ⟨bridge, source, policy, .created⟩)
    (hheld : start.store.refreshToken? bridge = held) :
    Settled ask source held world n start policy []
      (settle ask n (2 * policy.lastAttempt + 2) (start, world)) := by
  have hbounds := policy.calls_bounds (answers ask source held world)
  have hbegin : settle ask n (2 * policy.lastAttempt + 2) (start, world) =
      settle ask n (2 * policy.lastAttempt + 1) (start.begin n, world) := by
    simp only [settle, hf]
  rw [hbegin]
  refine Settled.of_concat (settle_course hf hheld rfl _ .begun ?_ ?_)
  · rw [List.length_singleton]
    omega
  · have hnone : min (policy.calls (answers ask source held world)) (1 / 2) = 0 := Nat.min_zero _
    rw [List.length_singleton, hnone]
    rfl

/-- Who starts a refresh gets its outcome. -/
theorem outcome?_obtain {now : Instant} {r' : Refresher σ}
    (hcall : r.call bridge now = (.awaits n, r'))
    (hf : r'.refreshes[n]? = some ⟨bridge, source, policy, .created⟩) :
    (obtain ask bridge now r world).2.1.outcome? n = some (obtain ask bridge now r world).1 := by
  have hsettled : Settled ask source (r'.store.refreshToken? bridge) world n r' policy []
      (settle ask n (2 * policy.lastAttempt + 2) (r', world)) := settle_ends hf rfl
  obtain ⟨-, -, hended, -⟩ := hsettled
  obtain ⟨result, hresult⟩ := Option.isSome_iff_exists.1 hended
  simp only [Refresher.obtain, hcall, hf, Option.map_some, Option.getD_some, hresult]

end Refresher

end DeviceHub
