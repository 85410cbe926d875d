import DeviceHub.Proofs.Credential.Course

/-!
# The attempts of a refresh

A refresh asks its source, and after a transient failure it pauses and asks again, as often as its
policy allows. `RefreshPolicy.calls` is the number of its last call. What a refresh waits for, and what
each of its turns does to the store, follows from how many turns it has taken.

* `calls_eq_min`, `calls_eq_lastAttempt`: the last call.
* `Stage.wait?`: what a refresh waits for at each stage.
* `Course.follows`: a refresh after any number of turns.
* `Course.finish`: it comes to its end.
* `refresh_attempts`: a refresh from its first turn to its last.
-/
namespace DeviceHub

variable {σ : Type}

/-! ## The last call -/

namespace RefreshPolicy

/-- The number of the last call of a refresh: that of the first answer which is no transient failure,
if there is an attempt left for it. The answers are numbered from 1. -/
def calls (p : RefreshPolicy) (results : Nat → Except RequestError Credential) : Nat :=
  ((List.range' 1 p.lastAttempt).find? fun j => !Refresh.transient (results j)).getD p.lastAttempt

variable (p : RefreshPolicy) (results : Nat → Except RequestError Credential)

theorem lastAttempt_pos : 1 ≤ p.lastAttempt := Nat.le_max_left 1 p.attempts

theorem calls_bounds : 1 ≤ p.calls results ∧ p.calls results ≤ p.lastAttempt := by
  unfold calls
  cases h : (List.range' 1 p.lastAttempt).find? fun j => !Refresh.transient (results j) with
  | none => exact ⟨p.lastAttempt_pos, Nat.le_refl _⟩
  | some k =>
    have hk := List.mem_range'_1.1 (List.mem_of_find?_eq_some h)
    exact ⟨hk.1, by simp only [Option.getD_some]; omega⟩

theorem transient_of_lt_calls {j : Nat} (hpos : 1 ≤ j) (hj : j < p.calls results) :
    Refresh.transient (results j) = true := by
  unfold calls at hj
  cases h : (List.range' 1 p.lastAttempt).find? fun j => !Refresh.transient (results j) with
  | none =>
    rw [h, Option.getD_none] at hj
    simpa using List.find?_eq_none.1 h j (List.mem_range'_1.2 ⟨hpos, by omega⟩)
  | some k =>
    rw [h, Option.getD_some] at hj
    simpa using (List.find?_range'_eq_some.1 h).2.2 j hpos hj

/-- The last call is not followed by another. -/
theorem not_again : ¬(Refresh.transient (results (p.calls results)) = true ∧
    p.calls results < p.lastAttempt) := by
  rintro ⟨htransient, hlt⟩
  unfold calls at htransient hlt
  cases h : (List.range' 1 p.lastAttempt).find? fun j => !Refresh.transient (results j) with
  | none =>
    rw [h] at hlt
    exact Nat.lt_irrefl _ hlt
  | some k =>
    rw [h, Option.getD_some] at htransient
    have hfinal := List.find?_some h
    simp only [htransient] at hfinal
    cases hfinal

theorem calls_eq_min {first : Nat} (hpos : 1 ≤ first)
    (hfinal : Refresh.transient (results first) = false)
    (hbefore : ∀ j, 1 ≤ j → j < first → Refresh.transient (results j) = true) :
    p.calls results = min p.lastAttempt first := by
  have hbounds := p.calls_bounds results
  have hle : p.calls results ≤ first := by
    refine Nat.le_of_not_lt fun hlt => ?_
    rw [p.transient_of_lt_calls results hpos hlt] at hfinal
    cases hfinal
  rcases Nat.lt_or_ge (p.calls results) p.lastAttempt with hlast | hlast
  · have hge : first ≤ p.calls results := Nat.le_of_not_lt fun hlt =>
      p.not_again results ⟨hbefore _ hbounds.1 hlt, hlast⟩
    omega
  · omega

theorem calls_eq_lastAttempt (h : ∀ j, 1 ≤ j → Refresh.transient (results j) = true) :
    p.calls results = p.lastAttempt := by
  have hbounds := p.calls_bounds results
  refine Nat.le_antisymm hbounds.2 (Nat.le_of_not_lt fun hlt => ?_)
  exact p.not_again results ⟨h _ hbounds.1, hlt⟩

end RefreshPolicy

/-! ## What a refresh waits for -/

namespace Refresh

variable {k millis : Nat} {held : Option String}

/-- What a refresh of a number of calls waits for from its beginning to its end. -/
def waitsOf (calls : Nat) (shown : Option String) (millis : Nat) : List Wait :=
  (List.replicate calls (.answer shown)).intersperse (.pause millis)

/-- The phase after `i` turns of a refresh that has `k` calls in all. -/
inductive Stage (k : Nat) (held : Option String) (i : Nat) : Phase → Prop where
  | created (turn : i = 0) : Stage k held i .created
  | asking {j : Nat} (turn : i + 1 = 2 * j) (le : j ≤ k) : Stage k held i (.asking j held)
  | pausing {j : Nat} (turn : i = 2 * j) (lt : j < k) : Stage k held i (.pausing j held)
  | closing (turn : i = 2 * k) (outcome : Except String Credential) :
      Stage k held i (.closing outcome)
  | ended (turn : i = 2 * k + 1) (outcome : Except String Credential) :
      Stage k held i (.ended outcome)

theorem getElem?_waitsOf_call {j : Nat} (h : j < k) :
    (waitsOf k held millis)[2 * j]? = some (.answer held) := by
  rw [waitsOf, List.getElem?_intersperse_two_mul, List.getElem?_replicate_of_lt h]

theorem getElem?_waitsOf_pause {j : Nat} (h : j + 1 < k) :
    (waitsOf k held millis)[2 * j + 1]? = some (.pause millis) :=
  List.getElem?_intersperse_two_mul_add_one (by rw [List.length_replicate]; exact h)

theorem length_waitsOf : (waitsOf k held millis).length = 2 * k - 1 := by
  rw [waitsOf, List.length_intersperse, List.length_replicate]

theorem Stage.wait? {i : Nat} {f : Refresh σ} (h : Stage k held (i + 1) f.phase) (hk : 1 ≤ k) :
    f.wait? = (waitsOf k held f.policy.retryDelay)[i]? := by
  obtain ⟨bridge, source, policy, phase⟩ := f
  cases h with
  | created turn => cases turn
  | @asking j turn le =>
    obtain rfl : i = 2 * (j - 1) := by omega
    exact (getElem?_waitsOf_call (by omega)).symm
  | @pausing j turn lt =>
    obtain rfl : i = 2 * (j - 1) + 1 := by omega
    exact (getElem?_waitsOf_pause (by omega)).symm
  | closing turn | ended turn =>
    rw [List.getElem?_eq_none (by rw [length_waitsOf]; omega)]
    rfl

/-- Calls and pauses take turns, and a call comes first. -/
theorem countP_take_waitsOf (i : Nat) :
    ((waitsOf k held millis).take i).countP Wait.isAnswer = min k ((i + 1) / 2) := by
  induction i with
  | zero => simp
  | succ i ih =>
    rw [List.take_add_one, List.countP_append, ih]
    rcases Nat.lt_or_ge i (2 * k - 1) with hi | hi
    · rcases Nat.mod_two_eq_zero_or_one i with hparity | hparity
      · obtain ⟨j, rfl⟩ : ∃ j, i = 2 * j := ⟨i / 2, by omega⟩
        rw [getElem?_waitsOf_call (by omega)]
        simp only [Option.toList_some, List.countP_singleton, Wait.isAnswer, if_true]
        omega
      · obtain ⟨j, rfl⟩ : ∃ j, i = 2 * j + 1 := ⟨i / 2, by omega⟩
        rw [getElem?_waitsOf_pause (by omega)]
        simp only [Option.toList_some, List.countP_singleton, Wait.isAnswer, Bool.false_eq_true,
          if_false]
        omega
    · rw [List.getElem?_eq_none (by rw [length_waitsOf]; exact hi)]
      simp only [Option.toList_none, List.countP_nil]
      omega

end Refresh

/-! ## The course of a refresh -/

namespace Refresher

variable {n : Nat} {results : Nat → Except RequestError Credential} {start : Refresher σ}
  {bridge : String} {source : σ} {policy : RefreshPolicy} {turns : List (Change σ)}
  {r r' : Refresher σ}

/-- What is known of a refresh that has taken some turns. -/
structure Follows (n : Nat) (results : Nat → Except RequestError Credential) (start : Refresher σ)
    (bridge : String) (source : σ) (policy : RefreshPolicy) (turns : List (Change σ))
    (r : Refresher σ) : Prop where
  found : ∃ phase, r.refreshes[n]? = some ⟨bridge, source, policy, phase⟩ ∧
    Refresh.Stage (policy.calls results) (start.store.refreshToken? bridge) turns.length phase ∧
    ∀ outcome, phase.outcome? = some outcome → ∃ t, turns[2 * policy.calls results - 1]? = some t ∧
      outcome = (Refresh.conclude bridge t.before.store (results (policy.calls results))).1
  waits : waits n turns = (Refresh.waitsOf (policy.calls results)
    (start.store.refreshToken? bridge) policy.retryDelay).take turns.length
  store : ∀ i t, turns[i]? = some t → t.after.store =
    if i + 1 = 2 * policy.calls results then
      (Refresh.conclude bridge t.before.store (results (policy.calls results))).2
    else t.before.store

theorem follows_nil (hf : start.refreshes[n]? = some ⟨bridge, source, policy, .created⟩) :
    Follows n results start bridge source policy [] start where
  found := ⟨.created, hf, .created rfl, fun _ ho => by cases ho⟩
  waits := by rw [List.length_nil, List.take_zero]; rfl
  store := fun i t ht => by rw [List.getElem?_nil] at ht; cases ht

/-- One more turn, if it leads to the phase that is due. -/
theorem Follows.concat (h : Follows n results start bridge source policy turns r)
    {phase : Refresh.Phase} (hf : r'.refreshes[n]? = some ⟨bridge, source, policy, phase⟩)
    (hstage : Refresh.Stage (policy.calls results) (start.store.refreshToken? bridge)
      (turns.length + 1) phase)
    (hstore : r'.store = if turns.length + 1 = 2 * policy.calls results then
      (Refresh.conclude bridge r.store (results (policy.calls results))).2 else r.store)
    (houtcome : ∀ outcome, phase.outcome? = some outcome →
      ∃ t, (turns ++ [⟨r, r'⟩])[2 * policy.calls results - 1]? = some t ∧
        outcome = (Refresh.conclude bridge t.before.store (results (policy.calls results))).1) :
    Follows n results start bridge source policy (turns ++ [⟨r, r'⟩]) r' where
  found := ⟨phase, hf, by rw [List.length_append]; exact hstage, houtcome⟩
  waits := by
    have hwait := hstage.wait? (f := ⟨bridge, source, policy, phase⟩) (policy.calls_bounds results).1
    have hwaits : Refresher.waits n (turns ++ [⟨r, r'⟩]) = Refresher.waits n turns ++
        ((⟨bridge, source, policy, phase⟩ : Refresh σ).wait?).toList := by
      rw [Refresher.waits, List.filterMap_append, ← Refresher.waits]
      simp only [List.filterMap_cons, List.filterMap_nil, hf, Option.bind_some]
      cases Refresh.wait? (⟨bridge, source, policy, phase⟩ : Refresh σ) <;> rfl
    rw [hwaits, h.waits, hwait, List.length_append, List.length_singleton, List.take_add_one]
  store := by
    intro i t ht
    rw [getElem?_concat] at ht
    split at ht
    · next hi =>
      cases ht
      rw [hi]
      exact hstore
    · exact h.store i t ht

theorem getElem?_withPhase_self {phase : Refresh.Phase} {f : Refresh σ}
    (hf : r.refreshes[n]? = some f) :
    (r.withPhase n phase).refreshes[n]? = some { f with phase := phase } := by
  rw [getElem?_withPhase, hf]
  simp only [Option.map_some, if_true]

theorem Follows.elsewhere (h : Follows n results start bridge source policy turns r)
    (same : r'.refreshes[n]? = r.refreshes[n]?) :
    Follows n results start bridge source policy turns r' where
  found := by rw [same]; exact h.found
  waits := h.waits
  store := h.store

theorem Follows.asked (h : Follows n results start bridge source policy turns r) :
    asked n turns = min (policy.calls results) ((turns.length + 1) / 2) := by
  rw [Refresher.asked, h.waits, Refresh.countP_take_waitsOf]

/-- The turn that a refresh takes after it has begun. -/
theorem Follows.turn (h : Follows n results start bridge source policy turns r)
    (hpos : 1 ≤ turns.length) (going : r.outcome? n = none) :
    Follows n results start bridge source policy
      (turns ++ [⟨r, r.advance n (results (Refresher.asked n turns))⟩])
      (r.advance n (results (Refresher.asked n turns))) := by
  obtain ⟨phase, hf, hstage, houtcome⟩ := h.found
  have hbounds := policy.calls_bounds results
  cases hstage with
  | created turn => omega
  | @asking j turn le =>
    have hasked : Refresher.asked n turns = j := by rw [h.asked]; omega
    rw [hasked]
    -- Only the turn after the last call writes to the store, and there the outcome is decided.
    rcases Nat.lt_or_eq_of_le le with hlt | rfl
    · have hagain : Refresh.transient (results j) = true ∧ j < policy.lastAttempt :=
        ⟨policy.transient_of_lt_calls results (by omega) hlt, by omega⟩
      rw [advance_asking hf hagain]
      refine h.concat (getElem?_withPhase_self hf) (.pausing turn hlt) ?_ fun _ ho => by cases ho
      rw [if_neg (by omega)]
      rfl
    · rw [advance_last hf (policy.not_again results)]
      refine h.concat (getElem?_withPhase_self hf) (.closing turn _) ?_ fun outcome ho => ?_
      · rw [if_pos turn]
        rfl
      · cases ho
        exact ⟨_, by rw [getElem?_concat, if_pos (by omega)], rfl⟩
  | @pausing j turn lt =>
    rw [advance_pausing hf]
    refine h.concat (getElem?_withPhase_self hf) (.asking (by omega) lt) ?_ fun _ ho => by cases ho
    rw [if_neg (by omega)]
    rfl
  | closing turn outcome =>
    rw [advance_closing hf]
    have hended : (r.close n).refreshes[n]? = some ⟨bridge, source, policy, .ended outcome⟩ := by
      rw [getElem?_close hf rfl, hf]
      simp only [Option.map_some, if_true]
    refine h.concat hended (.ended (by omega) outcome) ?_ fun _ ho => ?_
    · rw [if_neg (by omega), close_eq hf rfl]
      rfl
    · obtain ⟨t, ht, heq⟩ := houtcome _ ho
      exact ⟨t, by rw [getElem?_concat, if_neg (by omega), ht], heq⟩
  | ended turn outcome =>
    rw [outcome?_eq_some.2 ⟨_, outcome, hf, rfl, rfl⟩] at going
    cases going

theorem Course.follows (h : Course n results start turns r)
    (hf : start.refreshes[n]? = some ⟨bridge, source, policy, .created⟩) :
    Follows n results start bridge source policy turns r := by
  induction h with
  | begun =>
    have hbounds := policy.calls_bounds results
    have hbegin : start.begin n =
        start.withPhase n (.asking 1 (start.store.refreshToken? bridge)) := by
      simp only [begin, hf]
    rw [hbegin]
    refine (follows_nil hf).concat (getElem?_withPhase_self hf) (.asking rfl hbounds.1) ?_
      fun _ ho => by cases ho
    rw [if_neg (by simp only [List.length_nil]; omega)]
    rfl
  | elsewhere _ same ih => exact ih.elsewhere same
  | turn hcourse going ih => exact ih.turn hcourse.length_pos going

/-- The turns that a refresh takes are limited, and those who wait for it get their answer after the
last. -/
theorem Follows.ended_iff (h : Follows n results start bridge source policy turns r) :
    turns.length ≤ 2 * policy.calls results + 1 ∧
      ((r.outcome? n).isSome = true ↔ turns.length = 2 * policy.calls results + 1) := by
  obtain ⟨phase, hf, hstage, -⟩ := h.found
  have hbounds := policy.calls_bounds results
  simp only [outcome?, phase?, hf, Option.map_some]
  cases hstage with
  | created turn | asking turn le | pausing turn lt | closing turn outcome =>
    simp only [Option.isSome_none, Bool.false_eq_true, false_iff]
    omega
  | ended turn outcome =>
    refine ⟨Nat.le_of_eq turn, ?_⟩
    cases outcome <;> simp only [Option.isSome_some, turn]

/-- A count of attempts goes no further than the policy, of whatever width it is. -/
theorem Follows.attempt_le (h : Follows n results start bridge source policy turns r) {attempt : Nat}
    {held : Option String} (hphase : r.phase? n = some (.asking attempt held)) :
    attempt ≤ policy.lastAttempt := by
  obtain ⟨phase, hf, hstage, -⟩ := h.found
  obtain ⟨f, hr, hasking⟩ := phase?_eq_some hphase
  rw [hf] at hr
  cases hr
  obtain rfl : phase = .asking attempt held := hasking
  cases hstage with
  | asking turn le => exact Nat.le_trans le (policy.calls_bounds results).2

/-- A refresh can always be brought to its end. -/
theorem Course.finish (h : Course n results start turns r)
    (hf : start.refreshes[n]? = some ⟨bridge, source, policy, .created⟩) :
    ∃ more r', Course n results start (turns ++ more) r' ∧ (r'.outcome? n).isSome = true := by
  generalize hleft : 2 * policy.calls results + 1 - turns.length = left
  induction left generalizing turns r with
  | zero =>
    obtain ⟨hle, hended⟩ := (h.follows hf).ended_iff
    exact ⟨[], r, by rw [List.append_nil]; exact h, hended.2 (by omega)⟩
  | succ left ih =>
    have hgoing : r.outcome? n = none := by
      cases hr : r.outcome? n with
      | none => rfl
      | some result =>
        have hlength := (h.follows hf).ended_iff.2.1 (by rw [hr]; rfl)
        omega
    obtain ⟨more, r', hcourse, hended⟩ := ih (h.turn hgoing)
      (by rw [List.length_append, List.length_singleton]; omega)
    exact ⟨_ :: more, r', by rw [List.append_cons]; exact hcourse, hended⟩

/-- What a refresh has done in the turns that it took. -/
structure Attempted (n : Nat) (results : Nat → Except RequestError Credential) (start : Refresher σ)
    (bridge : String) (policy : RefreshPolicy) (turns : List (Change σ)) (r : Refresher σ) :
    Prop where
  /-- It ends after its last turn and not before. -/
  bounded : turns.length ≤ 2 * policy.calls results + 1 ∧
    ((r.outcome? n).isSome = true ↔ turns.length = 2 * policy.calls results + 1)
  /-- Its count of attempts goes no further than its policy. -/
  counted : ∀ attempt held, r.phase? n = some (.asking attempt held) →
    attempt ≤ max 1 policy.attempts
  /-- It calls its source with the refresh token of its beginning, and pauses between two calls. -/
  waits : waits n turns = (Refresh.waitsOf (policy.calls results)
    (start.store.refreshToken? bridge) policy.retryDelay).take turns.length
  /-- When it has ended it has made all its calls. -/
  complete : (r.outcome? n).isSome = true → Refresher.waits n turns =
    Refresh.waitsOf (policy.calls results) (start.store.refreshToken? bridge) policy.retryDelay
  /-- It writes to the store in the turn in which it gets its last answer, if that is a credential. -/
  store : ∀ i t, turns[i]? = some t → t.after.store =
    if i + 1 = 2 * policy.calls results then
      (Refresh.conclude bridge t.before.store (results (policy.calls results))).2
    else t.before.store
  /-- Its outcome is its last answer, as it was stored in that turn. -/
  outcome : ∀ result, r.outcome? n = some result →
    ∃ t, turns[2 * policy.calls results - 1]? = some t ∧ result =
      (Refresh.conclude bridge t.before.store (results (policy.calls results))).1.mapError
        .authentication

theorem Follows.attempted (h : Follows n results start bridge source policy turns r) :
    Attempted n results start bridge policy turns r where
  bounded := h.ended_iff
  counted := fun _ _ => h.attempt_le
  waits := h.waits
  complete := by
    intro hended
    rw [h.waits, h.ended_iff.2.1 hended, List.take_of_length_le]
    rw [Refresh.length_waitsOf]
    omega
  store := h.store
  outcome := by
    intro result hresult
    obtain ⟨phase, hphase, -, houtcome⟩ := h.found
    obtain ⟨f, o, hf, hended, rfl⟩ := outcome?_eq_some.1 hresult
    rw [hphase] at hf
    cases hf
    obtain rfl : phase = .ended o := hended
    obtain ⟨t, ht, rfl⟩ := houtcome o rfl
    exact ⟨t, ht, rfl⟩

/-- A refresh calls its source until it gets an answer that is no transient failure, or until its
attempts run out, and that answer is its outcome. Whatever its policy is and whatever happens
meanwhile, it comes to its end. -/
theorem refresh_attempts (n : Nat) (results : Nat → Except RequestError Credential)
    (start : Refresher σ) (bridge : String) (source : σ) (policy : RefreshPolicy)
    (hcreated : start.refreshes[n]? = some ⟨bridge, source, policy, .created⟩) :
    (∀ first, 1 ≤ first → Refresh.transient (results first) = false →
      (∀ j, 1 ≤ j → j < first → Refresh.transient (results j) = true) →
        policy.calls results = min (max 1 policy.attempts) first) ∧
    ((∀ j, 1 ≤ j → Refresh.transient (results j) = true) →
      policy.calls results = max 1 policy.attempts) ∧
    ∀ turns r, Course n results start turns r →
      Attempted n results start bridge policy turns r ∧
      ∃ more r', Course n results start (turns ++ more) r' ∧ (r'.outcome? n).isSome = true := by
  refine ⟨fun first => policy.calls_eq_min results, policy.calls_eq_lastAttempt results, ?_⟩
  exact fun turns r h => ⟨(h.follows hcreated).attempted, h.finish hcreated⟩

/-- A source that fails once is asked twice, with the refresh token that was stored. -/
theorem refresh_attempts_second_answer :
    let results := fun j => if j = 2 then .error .sessionExpired else .error (.timeout 30)
    let start : Refresher Unit :=
      ⟨[("b", ⟨none, none, some "r", none⟩)], [], [⟨"b", (), ⟨60, 3, 2000⟩, .created⟩]⟩
    start.refreshes[0]? = some ⟨"b", (), ⟨60, 3, 2000⟩, .created⟩ ∧
      ∃ turns r, Course 0 results start turns r ∧
        waits 0 turns = [.answer (some "r"), .pause 2000, .answer (some "r")] ∧
        r.outcome? 0 = some (.error (.authentication RequestError.sessionExpired.message)) := by
  intro results start
  refine ⟨rfl, ?_⟩
  obtain ⟨hmin, -, hcourse⟩ := refresh_attempts 0 results start "b" () ⟨60, 3, 2000⟩ rfl
  have hfirst : ∀ j, 1 ≤ j → j < 2 → Refresh.transient (results j) = true := by
    intro j hpos hlt
    obtain rfl : j = 1 := by omega
    rfl
  have hcalls := hmin 2 (by decide) rfl hfirst
  obtain ⟨more, r, hmore, hended⟩ := (hcourse _ _ .begun).2
  have hattempted := (hcourse _ r hmore).1
  obtain ⟨result, hresult⟩ := Option.isSome_iff_exists.1 hended
  refine ⟨_, r, hmore, ?_, ?_⟩
  · rw [hattempted.complete hended, hcalls]
    rfl
  · obtain ⟨t, -, rfl⟩ := hattempted.outcome result hresult
    rw [hresult, hcalls]
    rfl

end Refresher

end DeviceHub
