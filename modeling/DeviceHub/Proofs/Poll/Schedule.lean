import DeviceHub.Proofs.Poll.Stages

/-!
# The schedule of a poll task

Polling at a fixed delay, for every interval, every length and verdict of the cycles, and calls at any
time: the first cycle starts with the task, and the next one when the delay is over or a refresh is
asked for. Nothing starts a cycle after a suspension or a cancellation.

* `FixedDelay`: the schedule of one task.
* `run_fixedDelay`: every run keeps to it.
-/
namespace DeviceHub.Polling

/-- What has happened to a task, its time and what it shows keep to a fixed delay. -/
structure FixedDelay (interval spawned : Nat) (s : Polling) : Prop where
  /-- The first cycle starts with the task. -/
  first : ∀ {later t earlier}, s.history = later ++ .begun t :: earlier →
    (∀ u, .begun u ∉ earlier) → t = spawned
  /-- Until it does or the task is cancelled the clock stands still, and its turn starts it. -/
  firstIsDue : (∀ u, .begun u ∉ s.history) → (∀ c, .cancelled c ∉ s.history) →
    s.now = spawned ∧ s.poller.state = .scheduled ∧
      (s.step .turn).history = .begun spawned :: s.history
  /-- Cycles do not overlap. -/
  apart : ∀ {later t since u earlier},
    s.history = later ++ .begun t :: (since ++ .begun u :: earlier) → ∃ e v, .ended e v ∈ since
  /-- The next cycle after one that ended is the earlier of the end of the delay and the first call
  for a refresh since. -/
  next : ∀ {rest t since e earlier},
    s.history = rest ++ .begun t :: (since ++ .ended e .goOn :: earlier) → (∀ u, .begun u ∉ since) →
      due interval e (firstAsked (rest ++ .begun t :: since)) = some t
  /-- It is not missed. -/
  nextIsDue : ∀ {since e earlier t},
    s.history = since ++ .ended e .goOn :: earlier → (∀ u, .begun u ∉ since) →
      (∀ c, .cancelled c ∉ s.history) → due interval e (firstAsked since) = some t →
      s.now ≤ t ∧ (s.now = t → (s.step .turn).history = .begun t :: s.history)
  /-- A refresh that is asked for during a cycle changes nothing of what happens afterwards. -/
  ignored : isUnderWay s.history = true → ∀ acts, ∃ poller now added,
    s.run acts = ⟨poller, now, added ++ s.history⟩ ∧
      (s.step .refresh).run acts =
        ⟨poller, now, added ++ .asked s.now .skippedRunning :: s.history⟩
  /-- No cycle starts after one that has ended in suspension, -/
  suspends : ∀ {later e earlier t},
    s.history = later ++ .ended e .suspend :: earlier → .begun t ∉ later
  /-- nor once the task is cancelled. -/
  cancels : ∀ {later c earlier t}, s.history = later ++ .cancelled c :: earlier → .begun t ∉ later
  /-- A cycle under way runs to its end whatever else happens. -/
  completes : isUnderWay s.history = true →
    (∀ v, (s.step (.finish v)).history = .ended s.now v :: s.history) ∧
      ∀ a, (∀ v, a ≠ .finish v) → isUnderWay (s.step a).history = true
  running : s.poller.state = .running ↔ isUnderWay s.history = true
  /-- What the task shows between two cycles. -/
  rests : ∀ {since e earlier},
    s.history = since ++ .ended e .goOn :: earlier → (∀ u, .begun u ∉ since) →
      (∀ c, .cancelled c ∉ s.history) →
      s.poller.state = if interval = 0 then .idle else .scheduled
  isSuspended : s.poller.state = .suspended ↔ ∃ later e earlier,
    s.history = later ++ .ended e .suspend :: earlier ∧ ∀ c, .cancelled c ∉ earlier
  /-- Only a cancelled task stops. -/
  isStopped : s.poller.state = .stopped → ∃ c, .cancelled c ∈ s.history
  /-- A cancelled task stops with the cycle under way, -/
  stopsAfter : ∀ {later e v earlier c},
    s.history = later ++ .ended e v :: earlier → .cancelled c ∈ earlier → s.poller.state = .stopped
  /-- or, between two cycles, in its next turn, before the clock moves. -/
  stops : ∀ {c}, .cancelled c ∈ s.history → isUnderWay s.history = false →
    s.poller.state = .suspended ∨ s.poller.state = .stopped ∨
      c = s.now ∧ (s.step .turn).poller.state = .stopped
  final : s.poller.state = .suspended ∨ s.poller.state = .stopped →
    ∀ acts, (s.run acts).poller.state = s.poller.state

variable {interval spawned : Nat} {s : Polling}

/-! ## What the task shows -/

/-- Where a task can be. -/
inductive Situation (s : Polling) : Prop where
  | waiting {phase : Poller.Phase} {state : PollState} (waits : Waits s phase state)
      (turns : phase ≠ .cycling ∧ phase ≠ .ended) (shows : state = .scheduled ∨ state = .idle)
      (idle : isUnderWay s.history = false)
  | underWay (phase : s.poller.phase = .cycling) (state : s.poller.state = .running)
      (underWay : isUnderWay s.history = true)
  | stopped (stopped : HasStopped s) (idle : isUnderWay s.history = false)
  | suspended (phase : s.poller.phase = .ended) (state : s.poller.state = .suspended)
      (closed : stage s.history = .closed .suspended) (idle : isUnderWay s.history = false)

theorem Tracks.situation (h : Tracks interval spawned s) : Situation s := by
  have hstage := h.stage
  have hway : isUnderWay s.history = true ↔ Polling.stage s.history = .underWay := isUnderWay_iff
  cases hst : Polling.stage s.history with
  | unbegun =>
    have hidle : isUnderWay s.history = false := by simpa [hst] using hway
    rw [hst] at hstage
    rcases hstage with ⟨hw, -⟩ | hstopped
    · exact .waiting hw (by simp) (.inl rfl) hidle
    · exact .stopped hstopped hidle
  | underWay =>
    rw [hst] at hstage
    exact .underWay hstage.1 hstage.2 (hway.2 hst)
  | between ended asked =>
    have hidle : isUnderWay s.history = false := by simpa [hst] using hway
    rw [hst] at hstage
    rcases hstage with hw | hstopped
    · refine .waiting hw.toWaits (by simp) ?_ hidle
      unfold resting
      split
      · exact .inr rfl
      · exact .inl rfl
    · exact .stopped hstopped hidle
  | closed state =>
    have hidle : isUnderWay s.history = false := by simpa [hst] using hway
    rw [hst] at hstage
    obtain ⟨later, e, v, earlier, hl, hclosed⟩ := exists_of_stage_closed hst
    split at hclosed
    · next hc =>
      obtain ⟨c, hcancel⟩ := isCancelled_eq_true.1 hc
      have hcancelled : isCancelled s.history = true :=
        isCancelled_eq_true.2 ⟨c, by simp [hl, hcancel]⟩
      exact .stopped ⟨hcancelled, hstage.1, hstage.2.trans hclosed⟩ hidle
    · obtain ⟨-, rfl⟩ := hclosed
      exact .suspended hstage.1 hstage.2 hst hidle

theorem Tracks.running_iff (h : Tracks interval spawned s) :
    s.poller.state = .running ↔ isUnderWay s.history = true := by
  cases h.situation with
  | waiting waits _ shows idle =>
    rw [waits.state, idle]
    rcases shows with rfl | rfl <;> simp
  | underWay _ state underWay => simp [state, underWay]
  | stopped stopped idle => simp [stopped.state, idle]
  | suspended _ state _ idle => simp [state, idle]

theorem Tracks.suspended_iff (h : Tracks interval spawned s) :
    s.poller.state = .suspended ↔ ∃ later e earlier,
      s.history = later ++ .ended e .suspend :: earlier ∧ ∀ c, .cancelled c ∉ earlier := by
  constructor
  · intro hstate
    cases h.situation with
    | waiting waits _ shows _ =>
      rw [waits.state] at hstate
      rcases shows with rfl | rfl <;> cases hstate
    | underWay _ state _ => cases hstate.symm.trans state
    | stopped stopped _ => cases hstate.symm.trans stopped.state
    | suspended _ _ closed _ =>
      obtain ⟨later, e, v, earlier, hl, hclosed⟩ := exists_of_stage_closed closed
      split at hclosed
      · cases hclosed
      · next hc =>
        obtain ⟨rfl, -⟩ := hclosed
        rw [Bool.not_eq_true, isCancelled_eq_false] at hc
        exact ⟨later, e, earlier, hl, hc⟩
  · rintro ⟨later, e, earlier, hl, hc⟩
    have hclosed : Polling.stage (.ended e .suspend :: earlier) = .closed .suspended := by
      simp [Polling.stage, isCancelled_eq_false.2 hc, Stage.ended]
    obtain ⟨-, hst⟩ := stage_since_closed (hl ▸ h.fits) hclosed
    have hstage := h.stage
    rw [hl, hst] at hstage
    exact hstage.2

theorem Tracks.cancelled_of_stopped (h : Tracks interval spawned s)
    (hstate : s.poller.state = .stopped) : ∃ c, .cancelled c ∈ s.history := by
  cases h.situation with
  | waiting waits _ shows _ =>
    rw [waits.state] at hstate
    rcases shows with rfl | rfl <;> cases hstate
  | underWay _ state _ => cases hstate.symm.trans state
  | stopped stopped _ => exact isCancelled_eq_true.1 stopped.cancelled
  | suspended _ state _ _ => cases hstate.symm.trans state

/-- A task that shows that it has ended has. -/
theorem Tracks.phase_ended (h : Tracks interval spawned s)
    (hstate : s.poller.state = .suspended ∨ s.poller.state = .stopped) :
    s.poller.phase = .ended := by
  cases h.situation with
  | waiting waits _ shows _ =>
    rw [waits.state] at hstate
    rcases shows with rfl | rfl <;> simp at hstate
  | underWay _ state _ => simp [state] at hstate
  | stopped stopped _ => exact stopped.phase
  | suspended phase _ _ _ => exact phase

theorem step_of_ended (hp : s.poller.phase = .ended) (a : Act) :
    (s.step a).poller.phase = .ended ∧ (s.step a).poller.state = s.poller.state := by
  cases a with
  | tick =>
    have htick : (s.step .tick).poller = s.poller := by simp [Polling.step, Poller.isReady, hp]
    rw [htick]
    exact ⟨hp, rfl⟩
  | turn =>
    have hturn : s.step .turn = s := by simp [Polling.step, Poller.wake, hp]
    rw [hturn]
    exact ⟨hp, rfl⟩
  | finish verdict =>
    have hfinish : s.step (.finish verdict) = s := by simp [Polling.step, hp]
    rw [hfinish]
    exact ⟨hp, rfl⟩
  | refresh => exact ⟨s.poller.refresh_phase.trans hp, s.poller.refresh_state⟩
  | cancel => exact ⟨hp, rfl⟩

theorem run_of_ended (hp : s.poller.phase = .ended) (acts : List Act) :
    (s.run acts).poller.state = s.poller.state := by
  induction acts generalizing s with
  | nil => rfl
  | cons a acts ih =>
    obtain ⟨hphase, hstate⟩ := step_of_ended hp a
    exact (ih hphase).trans hstate

/-- A cancelled task that waits stops in its next turn. -/
theorem Waits.step_turn {phase : Poller.Phase} {state : PollState} (hw : Waits s phase state)
    (hturns : phase ≠ .cycling ∧ phase ≠ .ended) (hc : s.poller.isCancelled = true) :
    (s.step .turn).poller.state = .stopped := by
  obtain ⟨hcycling, hended⟩ := hturns
  cases phase with
  | fresh => simp [Polling.step, Poller.wake, hw.phase, hc, Poller.stop]
  | waiting => simp [Polling.step, Poller.wake, hw.phase, hc, Poller.stop]
  | cycling => exact absurd rfl hcycling
  | ended => exact absurd rfl hended

theorem Tracks.stopped_of_cancelled (h : Tracks interval spawned s) {c : Nat}
    (hcancel : .cancelled c ∈ s.history) (hidle : isUnderWay s.history = false) :
    s.poller.state = .suspended ∨ s.poller.state = .stopped ∨
      c = s.now ∧ (s.step .turn).poller.state = .stopped := by
  have hc : s.poller.isCancelled = true := h.cancelled.trans (isCancelled_eq_true.2 ⟨c, hcancel⟩)
  cases h.situation with
  | waiting waits turns _ _ =>
    exact .inr (.inr ⟨waits.cancelled c hcancel, waits.step_turn turns hc⟩)
  | underWay _ _ underWay => cases hidle.symm.trans underWay
  | stopped stopped _ => exact .inr (.inl stopped.state)
  | suspended _ state _ _ => exact .inl state

/-- The cycle that was under way when the task was cancelled is its last. -/
theorem Tracks.stopped_of_ended (h : Tracks interval spawned s) {later earlier : List Note}
    {e c : Nat} {v : Verdict} (hl : s.history = later ++ .ended e v :: earlier)
    (hcancel : .cancelled c ∈ earlier) : s.poller.state = .stopped := by
  have hclosed : Polling.stage (.ended e v :: earlier) = .closed .stopped := by
    simp [Polling.stage, isCancelled_eq_true.2 ⟨c, hcancel⟩, Stage.ended]
  obtain ⟨-, hst⟩ := stage_since_closed (hl ▸ h.fits) hclosed
  have hstage := h.stage
  rw [hl, hst] at hstage
  exact hstage.2

/-! ## When cycles start -/

/-- The first cycle starts in the first turn. -/
theorem Tracks.begins_first (h : Tracks interval spawned s) (hb : ∀ u, .begun u ∉ s.history)
    (hc : ∀ c, .cancelled c ∉ s.history) :
    s.now = spawned ∧ s.poller.state = .scheduled ∧
      (s.step .turn).history = .begun spawned :: s.history := by
  have hnot : s.poller.isCancelled = false := h.cancelled.trans (isCancelled_eq_false.2 hc)
  have hstage := h.stage
  rw [stage_of_unbegun h.fits hb] at hstage
  rcases hstage with ⟨hw, hnow⟩ | hstopped
  · refine ⟨hnow, hw.state, ?_⟩
    simp [Polling.step, Poller.wake, hw.phase, hnot, note, hnow]
  · obtain ⟨c, hcancel⟩ := isCancelled_eq_true.1 hstopped.cancelled
    exact absurd hcancel (hc c)

/-- What a task is at since a cycle ended in polling going on. -/
theorem Tracks.waitsBetween (h : Tracks interval spawned s) {since earlier : List Note} {e : Nat}
    (hl : s.history = since ++ .ended e .goOn :: earlier) (hb : ∀ u, .begun u ∉ since)
    (hc : ∀ c, .cancelled c ∉ s.history) :
    WaitsBetween interval s e (firstAsked since) := by
  have hnot := isCancelled_eq_false.2 hc
  have hstage := h.stage
  rw [hl] at hnot hstage
  rw [stage_since_ended (hl ▸ h.fits) hb hnot] at hstage
  rcases hstage with hw | hstopped
  · exact hw
  · obtain ⟨c, hcancel⟩ := isCancelled_eq_true.1 hstopped.cancelled
    exact absurd hcancel (hc c)

/-- A cycle that is due starts in the next turn. -/
theorem WaitsBetween.step_turn {e : Nat} {asked : Option Nat}
    (hw : WaitsBetween interval s e asked) (hnot : s.poller.isCancelled = false)
    (hdue : due interval e asked = some s.now) :
    (s.step .turn).history = .begun s.now :: s.history := by
  cases asked with
  | some t =>
    have htriggered : s.poller.isTriggered = true := hw.triggered
    simp [Polling.step, Poller.wake, hw.phase, hnot, htriggered, note]
  | none =>
    have htriggered : s.poller.isTriggered = false := hw.triggered
    have htimer : timer interval e = some s.now := by simpa [due] using hdue
    simp [Polling.step, Poller.wake, hw.phase, hnot, htriggered, htimer, note]

/-- Calls after the start of a cycle are not earlier than it. -/
theorem due_append {rest since : List Note} {e t : Nat}
    (hdue : due interval e (firstAsked since) = some t)
    (hlater : ∀ u a, .asked u a ∈ rest → t ≤ u) :
    due interval e (firstAsked (rest ++ .begun t :: since)) = some t := by
  rw [firstAsked_append, firstAsked]
  cases hfirst : firstAsked since with
  | some u =>
    rw [hfirst] at hdue
    exact hdue
  | none =>
    rw [hfirst] at hdue
    have htimer : timer interval e = some t := by simpa [due] using hdue
    rw [Option.none_or]
    cases hrest : firstAsked rest with
    | none => simp [due, htimer]
    | some u =>
      obtain ⟨a, ha⟩ := mem_of_firstAsked hrest
      have htu : t ≤ u := hlater u a ha
      simp [due, htimer, Option.merge, htu]

/-- Between the end of a cycle and the start of the next nobody has cancelled the task. -/
theorem Tracks.due_of_begun (h : Tracks interval spawned s) {rest since earlier : List Note}
    {t e : Nat} (hl : s.history = rest ++ .begun t :: (since ++ .ended e .goOn :: earlier))
    (hb : ∀ u, .begun u ∉ since) :
    due interval e (firstAsked (rest ++ .begun t :: since)) = some t := by
  have hfits := h.fits
  rw [hl] at hfits
  obtain ⟨hbefore, hc, hmay⟩ := hfits.of_append
  rw [stage_since_ended hbefore hb hc] at hmay
  refine due_append hmay fun u a ha => ?_
  have hordered := (List.pairwise_cons.1 h.ordered).2
  rw [hl, List.map_append, List.pairwise_append] at hordered
  exact hordered.2.2 u (List.mem_map.2 ⟨_, ha, rfl⟩) t (by simp [Note.time])

theorem Tracks.ended_between (h : Tracks interval spawned s) {later since earlier : List Note}
    {t u : Nat} (hl : s.history = later ++ .begun t :: (since ++ .begun u :: earlier)) :
    ∃ e v, .ended e v ∈ since := by
  refine Classical.byContradiction fun hnone => ?_
  have hends : ∀ e v, .ended e v ∉ since := fun e v hev => hnone ⟨e, v, hev⟩
  have hfits := h.fits
  rw [hl] at hfits
  obtain ⟨-, -, hmay⟩ := hfits.of_append
  rw [stage_since_begun hends] at hmay
  exact hmay

/-- A call during a cycle is noted and leaves no trace in the task. -/
theorem step_refresh_of_running (hstate : s.poller.state = .running) :
    s.step .refresh = ⟨s.poller, s.now, .asked s.now .skippedRunning :: s.history⟩ := by
  simp [Polling.step, Poller.refresh, hstate, note]

theorem Tracks.run_refresh (h : Tracks interval spawned s) (hway : isUnderWay s.history = true)
    (acts : List Act) : ∃ poller now added,
      s.run acts = ⟨poller, now, added ++ s.history⟩ ∧
        (s.step .refresh).run acts =
          ⟨poller, now, added ++ .asked s.now .skippedRunning :: s.history⟩ := by
  obtain ⟨poller, now, added, hrun⟩ := run_extends s.poller s.now acts
  refine ⟨poller, now, added, hrun s.history, ?_⟩
  rw [step_refresh_of_running (h.running_iff.2 hway)]
  exact hrun _

theorem Tracks.completes (h : Tracks interval spawned s) (hway : isUnderWay s.history = true) :
    (∀ v, (s.step (.finish v)).history = .ended s.now v :: s.history) ∧
      ∀ a, (∀ v, a ≠ .finish v) → isUnderWay (s.step a).history = true := by
  have hp : s.poller.phase = .cycling := by
    have hstage := h.stage
    rw [isUnderWay_iff.1 hway] at hstage
    exact hstage.1
  refine ⟨fun v => by simp [Polling.step, hp, note], fun a ha => ?_⟩
  cases a with
  | tick => simpa [Polling.step, Poller.isReady, hp] using hway
  | turn => simpa [Polling.step, Poller.wake, hp] using hway
  | finish v => exact absurd rfl (ha v)
  | refresh => exact hway
  | cancel => exact hway

/-- Every run of a poll task keeps to a fixed delay, however long its cycles take and end, whenever
somebody asks for a refresh or cancels it, and in whatever order things happen at one time. -/
theorem run_fixedDelay (interval spawned : Nat) (acts : List Act) :
    FixedDelay interval spawned ((start interval spawned).run acts) := by
  have h := tracks_run interval spawned acts
  generalize (start interval spawned).run acts = s at h ⊢
  exact
    { first := by
        intro later t earlier hl hb
        have hfits := h.fits
        rw [hl] at hfits
        obtain ⟨hbefore, -, hmay⟩ := hfits.of_append
        rw [stage_of_unbegun hbefore hb] at hmay
        exact hmay
      firstIsDue := h.begins_first
      apart := h.ended_between
      next := h.due_of_begun
      nextIsDue := by
        intro since e earlier t hl hb hc hdue
        have hw := h.waitsBetween hl hb hc
        refine ⟨hw.le_due t hdue, ?_⟩
        rintro rfl
        exact hw.step_turn (h.cancelled.trans (isCancelled_eq_false.2 hc)) hdue
      ignored := h.run_refresh
      suspends := by
        intro later e earlier t hl
        obtain ⟨state, hclosed⟩ : ∃ state, stage (.ended e .suspend :: earlier) = .closed state := by
          cases hc : isCancelled earlier <;> simp [stage, hc, Stage.ended]
        exact (stage_since_closed (hl ▸ h.fits) hclosed).1 t
      cancels := by
        intro later c earlier t hl
        have hfits := h.fits
        rw [hl] at hfits
        exact hfits.begun_notMem t
      completes := h.completes
      running := h.running_iff
      rests := by
        intro since e earlier hl hb hc
        exact (h.waitsBetween hl hb hc).state
      isSuspended := h.suspended_iff
      isStopped := h.cancelled_of_stopped
      stopsAfter := h.stopped_of_ended
      stops := h.stopped_of_cancelled
      final := fun hstate => run_of_ended (h.phase_ended hstate) }

/-- A refresh that is asked for between two cycles starts the next one before its timer. One that is asked
for during a cycle does not; nothing starts after a suspension, and a task that is cancelled during a cycle
stops with it. -/
theorem run_fixedDelay_refreshed :
    let asked := (start 3 0).run [.turn, .tick, .finish .goOn, .tick, .refresh]
    let during := (start 3 0).run [.turn]
    let suspended := (start 3 0).run [.turn, .finish .suspend]
    let stopped := (start 3 0).run [.turn, .cancel, .tick, .finish .goOn, .refresh]
    asked.history = [.asked 2 .accepted, .ended 1 .goOn, .begun 0] ∧ asked.poller.state = .scheduled ∧
    (asked.step .turn).history = .begun 2 :: asked.history ∧
    due 3 1 (firstAsked [.begun 2, .asked 2 .accepted]) = some 2 ∧
    (∀ acts, ∃ poller now added, during.run acts = ⟨poller, now, added ++ [.begun 0]⟩ ∧
      (during.step .refresh).run acts =
        ⟨poller, now, added ++ [.asked 0 .skippedRunning, .begun 0]⟩) ∧
    (∀ acts, (suspended.run acts).poller.state = .suspended) ∧
    stopped.history = [.asked 1 .inactive, .ended 1 .goOn, .cancelled 0, .begun 0] ∧
    stopped.poller.state = .stopped := by
  intro asked during suspended stopped
  have hasked : asked.history = [.asked 2 .accepted] ++ .ended 1 .goOn :: [.begun 0] := by decide
  have hbegun : (asked.step .turn).history =
      [] ++ .begun 2 :: ([.asked 2 .accepted] ++ .ended 1 .goOn :: [.begun 0]) := by decide
  have hstopped : stopped.history =
      [.asked 1 .inactive] ++ .ended 1 .goOn :: [.cancelled 0, .begun 0] := by decide
  have hdelay : FixedDelay 3 0 asked := run_fixedDelay 3 0 _
  have hnext : FixedDelay 3 0 (asked.step .turn) :=
    run_fixedDelay 3 0 [.turn, .tick, .finish .goOn, .tick, .refresh, .turn]
  refine ⟨hasked, hdelay.rests hasked (by simp) (by simp [hasked]), ?_, hnext.next hbegun (by simp),
    (run_fixedDelay 3 0 [.turn]).ignored rfl, ?_, hstopped, ?_⟩
  · exact (hdelay.nextIsDue hasked (by simp) (by simp [hasked]) (by decide)).2 rfl
  · exact (run_fixedDelay 3 0 [.turn, .finish .suspend]).final (.inl rfl)
  · exact (run_fixedDelay 3 0 _).stopsAfter hstopped List.mem_cons_self

end DeviceHub.Polling
