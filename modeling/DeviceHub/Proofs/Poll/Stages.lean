import DeviceHub.Proofs.Poll.Run

/-!
# What a poll task is at in a run

Every act preserves `Tracks`: the task is in the stage that its history has come to, and the clock has
not gone past the time at which the next cycle is due.

* `tracks_start`, `Tracks.step`, `tracks_run`: the invariant.
* `WaitsBetween.due_eq`: where the task may start a cycle, one is due now.
-/
namespace DeviceHub.Polling

variable {interval spawned : Nat} {s : Polling}

/-! ## What a task keeps to -/

/-- The task stopped since it was cancelled. -/
structure HasStopped (s : Polling) : Prop where
  cancelled : isCancelled s.history = true
  phase : s.poller.phase = .ended
  state : s.poller.state = .stopped

/-- The task waits for its next turn. If it is cancelled, it was cancelled at this very time. -/
structure Waits (s : Polling) (phase : Poller.Phase) (state : PollState) : Prop where
  phase : s.poller.phase = phase
  state : s.poller.state = state
  cancelled : ∀ c, .cancelled c ∈ s.history → c = s.now

/-- The task waits after a cycle, and its next one is not overdue. -/
structure WaitsBetween (interval : Nat) (s : Polling) (ended : Nat) (asked : Option Nat) : Prop
    extends Waits s (.waiting (timer interval ended)) (resting interval) where
  triggered : s.poller.isTriggered = asked.isSome
  asked_le : ∀ t, asked = some t → t ≤ s.now
  le_due : ∀ t, due interval ended asked = some t → s.now ≤ t

/-- The task is where its history has come to. -/
def InStage (interval spawned : Nat) (s : Polling) : Stage → Prop
  | .unbegun => Waits s .fresh .scheduled ∧ s.now = spawned ∨ HasStopped s
  | .underWay => s.poller.phase = .cycling ∧ s.poller.state = .running
  | .between ended asked => WaitsBetween interval s ended asked ∨ HasStopped s
  | .closed state => s.poller.phase = .ended ∧ s.poller.state = state

/-- What every act preserves. -/
structure Tracks (interval spawned : Nat) (s : Polling) : Prop where
  keeps : s.poller.interval = interval
  cancelled : s.poller.isCancelled = isCancelled s.history
  fits : Fits interval spawned s.history
  /-- No event is later than the present, and none is later than one that came after it. -/
  ordered : (s.now :: s.history.map Note.time).Pairwise (· ≥ ·)
  stage : InStage interval spawned s (stage s.history)

theorem tracks_start (interval spawned : Nat) : Tracks interval spawned (start interval spawned) := by
  refine ⟨rfl, rfl, trivial, List.pairwise_singleton _ _, .inl ⟨⟨rfl, rfl, ?_⟩, rfl⟩⟩
  intro c hc
  cases hc

theorem Tracks.ordered_note (h : Tracks interval spawned s) {n : Note} (hn : n.time = s.now) :
    (s.now :: (n :: s.history).map Note.time).Pairwise (· ≥ ·) := by
  refine List.pairwise_cons.2 ⟨fun t ht => ?_, ?_⟩
  · rw [List.map_cons, hn] at ht
    rcases List.mem_cons.1 ht with rfl | ht
    · exact Nat.le_refl _
    · exact (List.pairwise_cons.1 h.ordered).1 t ht
  · rw [List.map_cons, hn]
    exact h.ordered

/-! ## When the next cycle is due -/

theorem due_le {ended t : Nat} {asked : Option Nat}
    (h : timer interval ended = some t ∨ asked = some t) :
    ∃ m, due interval ended asked = some m ∧ m ≤ t := by
  unfold due
  rcases h with h | h
  · rw [h]
    cases asked with
    | none => exact ⟨t, rfl, Nat.le_refl _⟩
    | some u => exact ⟨min t u, rfl, Nat.min_le_left _ _⟩
  · rw [h]
    cases timer interval ended with
    | none => exact ⟨t, rfl, Nat.le_refl _⟩
    | some d => exact ⟨min d t, rfl, Nat.min_le_right _ _⟩

/-- A cycle that could have started earlier would have. -/
theorem WaitsBetween.due_eq {ended t : Nat} {asked : Option Nat}
    (hw : WaitsBetween interval s ended asked)
    (h : timer interval ended = some t ∨ asked = some t) (ht : t ≤ s.now) :
    due interval ended asked = some s.now := by
  obtain ⟨m, hm, hmt⟩ := due_le h
  have hle := hw.le_due m hm
  rw [hm]
  congr 1
  omega

/-- Nobody has cancelled a task that has nothing to do, nobody has asked it for a refresh, and its
timer is not due. -/
theorem WaitsBetween.of_isReady_false {ended : Nat} {asked : Option Nat}
    (hw : WaitsBetween interval s ended asked) (hidle : s.poller.isReady s.now = false) :
    s.poller.isCancelled = false ∧ asked = none ∧
      ∀ t, timer interval ended = some t → s.now < t := by
  simp only [Poller.isReady, hw.phase, Bool.or_eq_false_iff, hw.triggered] at hidle
  obtain ⟨⟨hc, hasked⟩, htimer⟩ := hidle
  refine ⟨hc, by simpa using hasked, fun t ht => ?_⟩
  rw [ht] at htimer
  simpa using htimer

/-! ## Every act -/

theorem Tracks.tick (h : Tracks interval spawned s) : Tracks interval spawned (s.step .tick) := by
  simp only [Polling.step]
  split
  · exact h
  · next hidle =>
    refine ⟨h.keeps, h.cancelled, h.fits, ?_, ?_⟩
    · obtain ⟨hle, hrest⟩ := List.pairwise_cons.1 h.ordered
      exact List.pairwise_cons.2 ⟨fun t ht => Nat.le_succ_of_le (hle t ht), hrest⟩
    · have hstage := h.stage
      cases hst : Polling.stage s.history with
      | unbegun =>
        rw [hst] at hstage
        rcases hstage with ⟨hw, -⟩ | hstopped
        · exact absurd (by simp [Poller.isReady, hw.phase]) hidle
        · exact .inr ⟨hstopped.cancelled, hstopped.phase, hstopped.state⟩
      | underWay => rwa [hst] at hstage
      | closed => rwa [hst] at hstage
      | between ended asked =>
        rw [hst] at hstage
        rcases hstage with hw | hstopped
        · obtain ⟨hc, hnone, htimer⟩ := hw.of_isReady_false (by simpa using hidle)
          have hlt : ∀ t, due interval ended asked = some t → s.now + 1 ≤ t := by
            intro t ht
            rw [hnone] at ht
            exact htimer t (by simpa [due] using ht)
          refine .inl ⟨⟨hw.phase, hw.state, fun c hcancel => ?_⟩, hw.triggered, fun t ht => ?_, hlt⟩
          · rw [h.cancelled, isCancelled_eq_false] at hc
            exact absurd hcancel (hc c)
          · rw [hnone] at ht
            cases ht
        · exact .inr ⟨hstopped.cancelled, hstopped.phase, hstopped.state⟩

/-- A cycle starts. -/
theorem Tracks.begun (h : Tracks interval spawned s) (hc : isCancelled s.history = false)
    (hmay : (Polling.stage s.history).mayBegin interval spawned s.now) {p : Poller}
    (hi : p.interval = s.poller.interval) (hp : p.isCancelled = s.poller.isCancelled) :
    Tracks interval spawned ({ s with poller := p.beginCycle }.note (.begun s.now)) := by
  refine ⟨hi.trans h.keeps, hp.trans h.cancelled, ⟨h.fits, hc, hmay⟩, h.ordered_note rfl, ?_⟩
  exact ⟨rfl, rfl⟩

/-- A cancelled task stops. -/
theorem Tracks.stop (h : Tracks interval spawned s) (hc : s.poller.isCancelled = true)
    (hwaits : ∀ state, Polling.stage s.history ≠ .closed state)
    (hidle : Polling.stage s.history ≠ .underWay) :
    Tracks interval spawned { s with poller := s.poller.stop } := by
  refine ⟨h.keeps, h.cancelled, h.fits, h.ordered, ?_⟩
  have hstopped : HasStopped { s with poller := s.poller.stop } := ⟨h.cancelled ▸ hc, rfl, rfl⟩
  cases hst : Polling.stage s.history with
  | unbegun => exact .inr hstopped
  | underWay => exact absurd hst hidle
  | between => exact .inr hstopped
  | closed state => exact absurd hst (hwaits state)

theorem Tracks.turn (h : Tracks interval spawned s) : Tracks interval spawned (s.step .turn) := by
  have hstage := h.stage
  cases hst : Polling.stage s.history with
  | unbegun =>
    rw [hst] at hstage
    rcases hstage with ⟨hw, hnow⟩ | hstopped
    · cases hc : s.poller.isCancelled with
      | true =>
        simp only [Polling.step, Poller.wake, hw.phase, hc, if_true, Bool.false_eq_true, if_false]
        exact h.stop hc (by simp [hst]) (by simp [hst])
      | false =>
        simp only [Polling.step, Poller.wake, hw.phase, hc, Bool.false_eq_true, if_false, if_true]
        exact h.begun (h.cancelled ▸ hc) (by rw [hst]; exact hnow) rfl rfl
    · simp only [Polling.step, Poller.wake, hstopped.phase, Bool.false_eq_true, if_false]
      exact h
  | underWay =>
    rw [hst] at hstage
    simp only [Polling.step, Poller.wake, hstage.1, Bool.false_eq_true, if_false]
    exact h
  | closed =>
    rw [hst] at hstage
    simp only [Polling.step, Poller.wake, hstage.1, Bool.false_eq_true, if_false]
    exact h
  | between ended asked =>
    rw [hst] at hstage
    rcases hstage with hw | hstopped
    · cases hc : s.poller.isCancelled with
      | true =>
        have hturn : s.step .turn = { s with poller := s.poller.stop } := by
          simp [Polling.step, Poller.wake, hw.phase, hc]
        rw [hturn]
        exact h.stop hc (by simp [hst]) (by simp [hst])
      | false =>
        have hnot : isCancelled s.history = false := h.cancelled ▸ hc
        cases htriggered : s.poller.isTriggered with
        | true =>
          have hturn : s.step .turn = { s with poller :=
              { s.poller with isTriggered := false }.beginCycle }.note (.begun s.now) := by
            simp [Polling.step, Poller.wake, hw.phase, hc, htriggered]
          obtain ⟨t, rfl⟩ := Option.isSome_iff_exists.1 (hw.triggered ▸ htriggered)
          have hdue := hw.due_eq (.inr rfl) (hw.asked_le t rfl)
          rw [hturn]
          exact h.begun hnot (by rw [hst]; exact hdue) rfl rfl
        | false =>
          cases htimer : (timer interval ended).any fun d => d ≤ s.now with
          | true =>
            have hturn : s.step .turn =
                { s with poller := s.poller.beginCycle }.note (.begun s.now) := by
              simp [Polling.step, Poller.wake, hw.phase, hc, htriggered, htimer]
            obtain ⟨t, ht, hle⟩ := (Option.any_eq_true _ _).1 htimer
            have hdue := hw.due_eq (.inl ht) (by simpa using hle)
            rw [hturn]
            exact h.begun hnot (by rw [hst]; exact hdue) rfl rfl
          | false =>
            have hturn : s.step .turn = s := by
              simp [Polling.step, Poller.wake, hw.phase, hc, htriggered, htimer]
            rw [hturn]
            exact h
    · have hturn : s.step .turn = s := by simp [Polling.step, Poller.wake, hstopped.phase]
      rw [hturn]
      exact h

/-- Where the phase of a task shows a cycle, its history does. -/
theorem Tracks.stage_of_cycling (h : Tracks interval spawned s) (hp : s.poller.phase = .cycling) :
    Polling.stage s.history = .underWay := by
  have hstage := h.stage
  cases hst : Polling.stage s.history with
  | underWay => rfl
  | unbegun =>
    rw [hst] at hstage
    rcases hstage with ⟨hw, -⟩ | hstopped
    · cases hp.symm.trans hw.phase
    · cases hp.symm.trans hstopped.phase
  | between ended asked =>
    rw [hst] at hstage
    rcases hstage with hw | hstopped
    · cases hp.symm.trans hw.phase
    · cases hp.symm.trans hstopped.phase
  | closed state =>
    rw [hst] at hstage
    cases hp.symm.trans hstage.1

theorem Tracks.finish (h : Tracks interval spawned s) (verdict : Verdict) :
    Tracks interval spawned (s.step (.finish verdict)) := by
  by_cases hp : s.poller.phase = .cycling
  · have hfinish : s.step (.finish verdict) =
        { s with poller := s.poller.finish s.now verdict }.note (.ended s.now verdict) := by
      simp [Polling.step, hp]
    rw [hfinish]
    refine ⟨?_, ?_, ⟨h.fits, h.stage_of_cycling hp⟩, h.ordered_note rfl, ?_⟩
    · rw [← h.keeps]
      exact s.poller.finish_interval s.now verdict
    · exact (s.poller.finish_isCancelled s.now verdict).trans h.cancelled
    · change InStage interval spawned _ (.ended (isCancelled s.history) s.now verdict)
      cases hc : isCancelled s.history with
      | true => simp [Stage.ended, InStage, note, Poller.finish, h.cancelled, hc, Poller.stop]
      | false =>
        cases verdict with
        | suspend => simp [Stage.ended, InStage, note, Poller.finish, h.cancelled, hc]
        | goOn =>
          have hrests : s.poller.finish s.now .goOn =
              { s.poller with isTriggered := false, state := resting interval,
                              phase := .waiting (timer interval s.now) } := by
            by_cases hi : interval = 0
            · simp [Poller.finish, h.cancelled, hc, h.keeps, resting, timer, hi]
            · simp [Poller.finish, h.cancelled, hc, h.keeps, resting, timer, hi]
          rw [hrests]
          refine .inl ⟨⟨rfl, rfl, fun c hcancel => ?_⟩, rfl, fun t ht => ?_, fun t ht => ?_⟩
          · rcases List.mem_cons.1 hcancel with hcancel | hcancel
            · cases hcancel
            · exact absurd hcancel (isCancelled_eq_false.1 hc c)
          · cases ht
          · simp only [due, timer] at ht
            show s.now ≤ t
            split at ht
            · cases ht
            · cases ht
              exact Nat.le_add_right _ _
  · have hfinish : s.step (.finish verdict) = s := by simp [Polling.step, hp]
    rw [hfinish]
    exact h

theorem HasStopped.refresh (h : HasStopped s) : HasStopped (s.step .refresh) :=
  ⟨h.cancelled, s.poller.refresh_phase.trans h.phase, s.poller.refresh_state.trans h.state⟩

theorem Waits.refresh {phase : Poller.Phase} {state : PollState} (h : Waits s phase state) :
    Waits (s.step .refresh) phase state := by
  refine ⟨s.poller.refresh_phase.trans h.phase, s.poller.refresh_state.trans h.state, ?_⟩
  intro c hcancel
  exact h.cancelled c (by simpa [Polling.step, note] using hcancel)

/-- The first call counts. -/
theorem WaitsBetween.refresh {ended : Nat} {asked : Option Nat}
    (h : WaitsBetween interval s ended asked) :
    WaitsBetween interval (s.step .refresh) ended (asked.or (some s.now)) := by
  refine ⟨h.toWaits.refresh, ?_, ?_, ?_⟩
  · have hstate := h.state
    have htriggered : s.poller.refresh.2.isTriggered = true := by
      unfold resting at hstate
      split at hstate <;> simp [Poller.refresh, hstate]
    cases asked <;> exact htriggered
  · intro t ht
    show t ≤ s.now
    cases asked with
    | none =>
      cases ht
      exact Nat.le_refl _
    | some u => exact h.asked_le t ht
  · intro t ht
    show s.now ≤ t
    cases asked with
    | none =>
      have hle := h.le_due
      cases htimer : timer interval ended with
      | none =>
        simp only [due, htimer] at ht
        cases ht
        exact Nat.le_refl _
      | some d =>
        have hd := hle d (by simp [due, htimer])
        simp only [due, htimer] at ht
        cases ht
        exact Nat.le_min.2 ⟨hd, Nat.le_refl _⟩
    | some u => exact h.le_due t ht

theorem Tracks.refresh (h : Tracks interval spawned s) :
    Tracks interval spawned (s.step .refresh) := by
  refine ⟨s.poller.refresh_interval.trans h.keeps, s.poller.refresh_isCancelled.trans h.cancelled,
    h.fits, h.ordered_note rfl, ?_⟩
  have hstage := h.stage
  change InStage interval spawned _ ((Polling.stage s.history).asked s.now)
  cases hst : Polling.stage s.history with
  | unbegun =>
    rw [hst] at hstage
    exact hstage.imp (fun hw => ⟨hw.1.refresh, hw.2⟩) HasStopped.refresh
  | underWay =>
    rw [hst] at hstage
    exact ⟨s.poller.refresh_phase.trans hstage.1, s.poller.refresh_state.trans hstage.2⟩
  | between ended asked =>
    rw [hst] at hstage
    have hnext := hstage.imp WaitsBetween.refresh HasStopped.refresh
    cases asked <;> exact hnext
  | closed state =>
    rw [hst] at hstage
    exact ⟨s.poller.refresh_phase.trans hstage.1, s.poller.refresh_state.trans hstage.2⟩

theorem HasStopped.cancel (h : HasStopped s) : HasStopped (s.step .cancel) :=
  ⟨rfl, h.phase, h.state⟩

theorem Waits.cancel {phase : Poller.Phase} {state : PollState} (h : Waits s phase state) :
    Waits (s.step .cancel) phase state := by
  refine ⟨h.phase, h.state, fun c hcancel => ?_⟩
  rcases List.mem_cons.1 hcancel with hcancel | hcancel
  · cases hcancel
    rfl
  · exact h.cancelled c hcancel

theorem Tracks.cancel (h : Tracks interval spawned s) :
    Tracks interval spawned (s.step .cancel) := by
  refine ⟨h.keeps, rfl, h.fits, h.ordered_note rfl, ?_⟩
  have hstage := h.stage
  change InStage interval spawned _ (Polling.stage s.history)
  cases hst : Polling.stage s.history with
  | unbegun =>
    rw [hst] at hstage
    exact hstage.imp (fun hw => ⟨hw.1.cancel, hw.2⟩) HasStopped.cancel
  | between ended asked =>
    rw [hst] at hstage
    exact hstage.imp
      (fun hw => ⟨hw.toWaits.cancel, hw.triggered, hw.asked_le, hw.le_due⟩) HasStopped.cancel
  | underWay => rwa [hst] at hstage
  | closed => rwa [hst] at hstage

theorem Tracks.step (h : Tracks interval spawned s) (a : Act) :
    Tracks interval spawned (s.step a) := by
  cases a with
  | tick => exact h.tick
  | turn => exact h.turn
  | finish verdict => exact h.finish verdict
  | refresh => exact h.refresh
  | cancel => exact h.cancel

theorem Tracks.run (h : Tracks interval spawned s) (acts : List Act) :
    Tracks interval spawned (s.run acts) := by
  induction acts generalizing s with
  | nil => exact h
  | cons a acts ih => exact ih (h.step a)

theorem tracks_run (interval spawned : Nat) (acts : List Act) :
    Tracks interval spawned ((Polling.start interval spawned).run acts) :=
  (tracks_start interval spawned).run acts

end DeviceHub.Polling
