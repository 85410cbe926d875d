import DeviceHub.Proofs.Poll.Schedule
import Mathlib.Data.List.Induction

/-!
# What a call for a refresh is answered

A call is accepted while the task waits, skipped while a cycle is under way, and has no effect once the
task has ended. Each answer says what becomes of the call. An accepted call starts a cycle before the
clock moves on, unless the task is cancelled first, and it starts that one only. A call that is not
accepted changes nothing.

* `exists_of_history`: every note in a history was made by an act.
* `Pending.run`: what becomes of an accepted call.
* `run_truthful`: every answer of every run is true.
-/
namespace DeviceHub.Polling

/-- Nothing but calls that were accepted at a time. -/
def OnlyAccepted (t : Nat) (l : List Note) : Prop := ∀ n ∈ l, n = .asked t .accepted

/-- What has happened since a call was accepted at a time: a cycle started at that time, or the task was
cancelled then, and before that there were more calls at most; or there has been nothing else yet, it is
still that time, and a cycle starts in the next turn. -/
inductive Served (t : Nat) (s : Polling) : List Note → Prop where
  | begun {after before : List Note} (only : OnlyAccepted t before) :
      Served t s (after ++ .begun t :: before)
  | cancelled {after before : List Note} (only : OnlyAccepted t before) :
      Served t s (after ++ .cancelled t :: before)
  | due {later : List Note} (only : OnlyAccepted t later) (now : s.now = t)
      (starts : (s.step .turn).history = .begun t :: s.history) : Served t s later

/-- The answers in the history of a task are true. -/
structure Truthful (interval spawned : Nat) (s : Polling) : Prop where
  /-- A task that was not cancelled serves a call that it accepted at that very time. -/
  accepted : ∀ {later t earlier}, s.history = later ++ .asked t .accepted :: earlier →
    (∀ c, .cancelled c ∉ earlier) → Served t s later
  /-- All calls that were accepted since the last cycle are served by the next one. -/
  together : ∀ {rest t since earlier}, s.history = rest ++ .begun t :: (since ++ earlier) →
    (∀ u, .begun u ∉ since) → ∀ u, .asked u .accepted ∈ since → u = t
  /-- They are served by that one only: a later cycle has its timer, or calls of its own. -/
  once : ∀ {rest t earlier}, s.history = rest ++ .begun t :: earlier →
    (t = spawned ∧ ∀ u, .begun u ∉ earlier) ∨
      ∃ since e before, earlier = since ++ .ended e .goOn :: before ∧ (∀ u, .begun u ∉ since) ∧
        (timer interval e = some t ∨ .asked t .accepted ∈ since)
  /-- A call is skipped only while a cycle is under way. -/
  skipped : ∀ {later t earlier}, s.history = later ++ .asked t .skippedRunning :: earlier →
    isUnderWay earlier = true
  /-- After a call without effect no cycle is under way, and none ever starts. -/
  inactive : ∀ {later t earlier}, s.history = later ++ .asked t .inactive :: earlier →
    isUnderWay earlier = false ∧ ∀ u, .begun u ∉ later
  /-- A call that is not accepted changes nothing of what happens afterwards. -/
  unnoticed : s.poller.refresh.1 ≠ .accepted → ∀ acts, ∃ poller now added,
    s.run acts = ⟨poller, now, added ++ s.history⟩ ∧
      (s.step .refresh).run acts =
        ⟨poller, now, added ++ .asked s.now s.poller.refresh.1 :: s.history⟩

variable {interval spawned : Nat} {s : Polling}

theorem onlyAccepted_nil (t : Nat) : OnlyAccepted t [] := nofun

theorem OnlyAccepted.concat {t : Nat} {l : List Note} (h : OnlyAccepted t l) :
    OnlyAccepted t (l ++ [.asked t .accepted]) := by
  intro n hn
  rcases List.mem_append.1 hn with hn | hn
  · exact h n hn
  · exact List.mem_singleton.1 hn

/-- One more call in front makes no difference. -/
theorem Served.asked {t : Nat} {later : List Note} (h : Served t s later) :
    Served t s (later ++ [.asked t .accepted]) := by
  cases h with
  | begun only =>
    rw [List.append_assoc, List.cons_append]
    exact .begun only.concat
  | cancelled only =>
    rw [List.append_assoc, List.cons_append]
    exact .cancelled only.concat
  | due only now starts => exact .due only.concat now starts

/-! ## Notes and the acts that made them -/

theorem step_history (s : Polling) (a : Act) :
    (s.step a).history = s.history ∨ ∃ n, (s.step a).history = n :: s.history := by
  cases a with
  | tick =>
    simp only [Polling.step]
    split <;> exact .inl rfl
  | turn =>
    simp only [Polling.step]
    split
    · exact .inr ⟨_, rfl⟩
    · exact .inl rfl
  | finish =>
    simp only [Polling.step]
    split
    · exact .inr ⟨_, rfl⟩
    · exact .inl rfl
  | refresh | cancel => exact .inr ⟨_, rfl⟩

theorem exists_history_run (s : Polling) (acts : List Act) :
    ∃ added, (s.run acts).history = added ++ s.history := by
  obtain ⟨poller, now, added, hrun⟩ := run_extends s.poller s.now acts
  exact ⟨added, congrArg Polling.history (hrun s.history)⟩

theorem run_concat (s : Polling) (acts : List Act) (a : Act) :
    s.run (acts ++ [a]) = (s.run acts).step a := by
  simp [run]

theorem run_append (s : Polling) (front back : List Act) :
    s.run (front ++ back) = (s.run front).run back := List.foldl_append

/-- A note in the history of a run was made by some act. -/
theorem exists_of_history {acts : List Act} {later earlier : List Note} {n : Note}
    (hs : s.history = []) (h : (s.run acts).history = later ++ n :: earlier) :
    ∃ front a back, acts = front ++ a :: back ∧ (s.run front).history = earlier ∧
      ((s.run front).step a).history = n :: earlier := by
  induction acts using List.reverseRecOn generalizing later with
  | nil =>
    rw [show (s.run []).history = [] from hs] at h
    cases later <;> cases h
  | append_singleton acts a ih =>
    rw [run_concat] at h
    have hbefore : ∀ {later}, (s.run acts).history = later ++ n :: earlier →
        ∃ front b back, acts ++ [a] = front ++ b :: back ∧ (s.run front).history = earlier ∧
          ((s.run front).step b).history = n :: earlier := by
      intro later hlater
      obtain ⟨front, b, back, rfl, hfront, hmade⟩ := ih hlater
      exact ⟨front, b, back ++ [a], by simp, hfront, hmade⟩
    rcases step_history (s.run acts) a with hsame | ⟨m, hadded⟩
    · exact hbefore (hsame ▸ h)
    · cases later with
      | nil =>
        rw [hadded, List.nil_append, List.cons.injEq] at h
        obtain ⟨rfl, hearlier⟩ := h
        exact ⟨acts, a, [], rfl, hearlier, hearlier ▸ hadded⟩
      | cons k later =>
        rw [hadded, List.cons_append, List.cons.injEq] at h
        exact hbefore h.2

/-- An answer in the history of a run was given by the task of an earlier part of it. -/
theorem exists_of_asked {acts : List Act} {later earlier : List Note} {t : Nat} {a : RefreshAnswer}
    (hs : s.history = []) (h : (s.run acts).history = later ++ .asked t a :: earlier) :
    ∃ front back, acts = front ++ .refresh :: back ∧ (s.run front).history = earlier ∧
      (s.run front).now = t ∧ (s.run front).poller.refresh.1 = a := by
  obtain ⟨front, b, back, hacts, hfront, hmade⟩ := exists_of_history hs h
  rw [← hfront] at hmade
  cases b with
  | tick =>
    simp only [Polling.step] at hmade
    split at hmade <;> exact absurd hmade.symm (List.cons_ne_self _ _)
  | turn =>
    simp only [Polling.step] at hmade
    split at hmade
    · cases hmade
    · exact absurd hmade.symm (List.cons_ne_self _ _)
  | finish =>
    simp only [Polling.step] at hmade
    split at hmade
    · cases hmade
    · exact absurd hmade.symm (List.cons_ne_self _ _)
  | refresh =>
    simp only [Polling.step, note, List.cons.injEq, Note.asked.injEq] at hmade
    exact ⟨front, back, hacts, hfront, hmade.1.1, hmade.1.2⟩
  | cancel => cases hmade

/-! ## Accepted calls -/

/-- A call for a refresh is pending since a time. -/
structure Pending (s : Polling) (t : Nat) : Prop where
  now : s.now = t
  triggered : s.poller.isTriggered = true
  cancelled : s.poller.isCancelled = false
  state : s.poller.state = .scheduled ∨ s.poller.state = .idle
  phase : s.poller.phase = .fresh ∨ ∃ due, s.poller.phase = .waiting due

variable {t : Nat}

theorem refresh_eq_accepted {p : Poller} :
    p.refresh.1 = .accepted ↔ p.state = .scheduled ∨ p.state = .idle := by
  unfold Poller.refresh
  cases p.state <;> simp

/-- While a call is pending the clock stands still. -/
theorem Pending.step_tick (h : Pending s t) : s.step .tick = s := by
  have hready : s.poller.isReady s.now = true := by
    rcases h.phase with hp | ⟨due, hp⟩ <;> simp [Poller.isReady, hp, h.triggered]
  simp [Polling.step, hready]

theorem Pending.step_turn (h : Pending s t) : (s.step .turn).history = .begun t :: s.history := by
  have hstarts : (s.poller.wake s.now).1 = true := by
    rcases h.phase with hp | ⟨due, hp⟩ <;> simp [Poller.wake, hp, h.cancelled, h.triggered]
  simp only [Polling.step, hstarts, if_true, note]
  rw [h.now]

theorem Pending.step_finish (h : Pending s t) (verdict : Verdict) : s.step (.finish verdict) = s := by
  have hp : s.poller.phase ≠ .cycling := by
    rcases h.phase with hp | ⟨due, hp⟩ <;> simp [hp]
  simp [Polling.step, hp]

/-- One call pending is all there can be. -/
theorem Pending.step_refresh (h : Pending s t) :
    Pending (s.step .refresh) t ∧ (s.step .refresh).history = .asked t .accepted :: s.history := by
  simp only [Polling.step, Poller.refresh_of_waits h.state, note]
  exact ⟨⟨h.now, rfl, h.cancelled, h.state, h.phase⟩, by rw [h.now]⟩

/-- A call that is pending is served before anything else happens. -/
theorem Pending.run (h : Pending s t) (acts : List Act) :
    ∃ later, (s.run acts).history = later ++ s.history ∧ Served t (s.run acts) later := by
  induction acts generalizing s with
  | nil => exact ⟨[], rfl, .due (onlyAccepted_nil t) h.now h.step_turn⟩
  | cons a acts ih =>
    have hrun : s.run (a :: acts) = (s.step a).run acts := rfl
    rw [hrun]
    obtain ⟨after, hafter⟩ := exists_history_run (s.step a) acts
    cases a with
    | tick =>
      rw [h.step_tick]
      exact ih h
    | finish verdict =>
      rw [h.step_finish]
      exact ih h
    | turn =>
      rw [h.step_turn] at hafter
      exact ⟨after ++ [.begun t], by simpa using hafter, .begun (onlyAccepted_nil t)⟩
    | cancel =>
      have hcancelled : (s.step .cancel).history = .cancelled t :: s.history := by
        rw [← h.now]
        rfl
      rw [hcancelled] at hafter
      exact ⟨after ++ [.cancelled t], by simpa using hafter, .cancelled (onlyAccepted_nil t)⟩
    | refresh =>
      obtain ⟨hpending, hasked⟩ := h.step_refresh
      obtain ⟨later, hlater, hserved⟩ := ih hpending
      rw [hasked] at hlater
      exact ⟨later ++ [.asked t .accepted], by simpa using hlater, hserved.asked⟩

theorem step_refresh_history (s : Polling) :
    (s.step .refresh).history = .asked s.now s.poller.refresh.1 :: s.history := rfl

/-- A task that accepts a call has it pending. -/
theorem Tracks.pending (h : Tracks interval spawned s) (haccepted : s.poller.refresh.1 = .accepted)
    (hc : ∀ c, .cancelled c ∉ s.history) : Pending (s.step .refresh) s.now := by
  have hstate := refresh_eq_accepted.1 haccepted
  have hnot : s.poller.isCancelled = false := h.cancelled.trans (isCancelled_eq_false.2 hc)
  simp only [Polling.step, Poller.refresh_of_waits hstate, note]
  refine ⟨rfl, rfl, hnot, hstate, ?_⟩
  cases h.situation with
  | @waiting phase _ waits turns _ _ =>
    rw [waits.phase]
    cases phase with
    | fresh => exact .inl rfl
    | waiting due => exact .inr ⟨due, rfl⟩
    | cycling => exact absurd rfl turns.1
    | ended => exact absurd rfl turns.2
  | underWay _ state _ => simp [state] at hstate
  | stopped stopped _ => simp [stopped.state] at hstate
  | suspended _ state _ _ => simp [state] at hstate

/-! ## Calls that are not accepted -/

theorem step_refresh_of_ne_accepted (h : s.poller.refresh.1 ≠ .accepted) :
    s.step .refresh = ⟨s.poller, s.now, .asked s.now s.poller.refresh.1 :: s.history⟩ := by
  have hp : s.poller.refresh.2 = s.poller := by
    unfold Poller.refresh at h ⊢
    cases hstate : s.poller.state <;> simp [hstate] at h ⊢
  simp only [Polling.step, note, hp]

/-- A task that has ended starts no cycle. -/
theorem exists_history_of_ended (hp : s.poller.phase = .ended) (acts : List Act) :
    ∃ added, (s.run acts).history = added ++ s.history ∧ ∀ u, .begun u ∉ added := by
  induction acts generalizing s with
  | nil => exact ⟨[], rfl, by simp⟩
  | cons a acts ih =>
    obtain ⟨added, hadded, hbegun⟩ := ih (step_of_ended hp a).1
    have hrun : s.run (a :: acts) = (s.step a).run acts := rfl
    rw [hrun, hadded]
    cases a with
    | tick =>
      have htick : (s.step .tick).history = s.history := by simp [Polling.step, Poller.isReady, hp]
      exact ⟨added, by rw [htick], hbegun⟩
    | turn =>
      have hturn : s.step .turn = s := by simp [Polling.step, Poller.wake, hp]
      exact ⟨added, by rw [hturn], hbegun⟩
    | finish verdict =>
      have hfinish : s.step (.finish verdict) = s := by simp [Polling.step, hp]
      exact ⟨added, by rw [hfinish], hbegun⟩
    | refresh => exact ⟨added ++ [_], by simp [Polling.step, note]; rfl, by simpa using hbegun⟩
    | cancel => exact ⟨added ++ [_], by simp [Polling.step, note]; rfl, by simpa using hbegun⟩

theorem refresh_eq_skipped {p : Poller} : p.refresh.1 = .skippedRunning ↔ p.state = .running := by
  unfold Poller.refresh
  cases p.state <;> simp

theorem refresh_eq_inactive {p : Poller} :
    p.refresh.1 = .inactive ↔ p.state = .suspended ∨ p.state = .stopped := by
  unfold Poller.refresh
  cases p.state <;> simp

/-! ## Histories -/

theorem isUnderWay_since_ended {e : Nat} {v : Verdict} {since earlier : List Note}
    (hb : ∀ u, .begun u ∉ since) : isUnderWay (since ++ .ended e v :: earlier) = false := by
  induction since with
  | nil => rfl
  | cons n since ih =>
    have hrest : ∀ u, .begun u ∉ since := fun u hu => hb u (List.mem_cons_of_mem _ hu)
    cases n with
    | begun u => exact absurd List.mem_cons_self (hb u)
    | ended => rfl
    | asked | cancelled => exact ih hrest

theorem Stage.asked_eq_unbegun {st : Stage} (h : st.asked t = .unbegun) : st = .unbegun := by
  cases st with
  | between e asked => cases asked <;> cases h
  | _ => exact h

theorem begun_notMem_of_unbegun {l : List Note} (h : stage l = .unbegun) (u : Nat) :
    .begun u ∉ l := by
  induction l with
  | nil => simp
  | cons n l ih =>
    cases n with
    | begun => cases h
    | ended e v =>
      simp only [stage, Stage.ended] at h
      split at h
      · cases h
      · cases v <;> cases h
    | asked => simpa using ih (Stage.asked_eq_unbegun h)
    | cancelled => simpa using ih h

theorem Stage.asked_eq_between {st : Stage} {e : Nat} {asked : Option Nat}
    (h : st.asked t = .between e asked) :
    ∃ before, st = .between e before ∧ asked = before.or (some t) := by
  cases st with
  | between e' before =>
    cases before <;> cases h
    · exact ⟨none, rfl, rfl⟩
    · exact ⟨_, rfl, rfl⟩
  | _ => cases h

/-- What a cycle that went on is followed by, until the next. -/
theorem exists_of_stage_between {l : List Note} {e : Nat} {asked : Option Nat}
    (h : stage l = .between e asked) : ∃ since earlier, l = since ++ .ended e .goOn :: earlier ∧
      (∀ u, .begun u ∉ since) ∧ firstAsked since = asked := by
  induction l generalizing asked with
  | nil => cases h
  | cons n l ih =>
    cases n with
    | begun => cases h
    | ended u v =>
      simp only [stage, Stage.ended] at h
      split at h
      · cases h
      · cases v with
        | suspend => cases h
        | goOn =>
          cases h
          exact ⟨[], l, rfl, by simp, rfl⟩
    | asked u a =>
      obtain ⟨before, hstage, rfl⟩ := Stage.asked_eq_between h
      obtain ⟨since, earlier, rfl, hb, rfl⟩ := ih hstage
      exact ⟨_ :: since, earlier, rfl, by simpa using hb, rfl⟩
    | cancelled =>
      obtain ⟨since, earlier, rfl, hb, hasked⟩ := ih h
      exact ⟨_ :: since, earlier, rfl, by simpa using hb, hasked⟩

theorem eq_of_due {e : Nat} {asked : Option Nat} (h : due interval e asked = some t) :
    timer interval e = some t ∨ asked = some t := by
  unfold due at h
  cases htimer : timer interval e with
  | none =>
    rw [htimer] at h
    exact .inr (by simpa using h)
  | some d =>
    cases asked with
    | none =>
      rw [htimer] at h
      exact .inl (by simpa using h)
    | some u =>
      rw [htimer] at h
      have hmin : min d u = t := by simpa [Option.merge] using h
      rcases Nat.le_total d u with hle | hle
      · exact .inl (congrArg some (by omega))
      · exact .inr (congrArg some (by omega))

/-- The last of the starts of cycles is one. -/
theorem begun_unique {u : Nat} {after before rest since : List Note}
    (h : after ++ .begun u :: before = rest ++ .begun t :: since)
    (hbefore : ∀ v, .begun v ∉ before) (hsince : ∀ v, .begun v ∉ since) : u = t := by
  rcases List.append_eq_append_iff.1 h with ⟨between, -, h⟩ | ⟨between, -, h⟩
  · cases between with
    | nil =>
      cases h
      rfl
    | cons n between =>
      cases h
      exact absurd (by simp) (hbefore t)
  · cases between with
    | nil =>
      cases h
      rfl
    | cons n between =>
      cases h
      exact absurd (by simp) (hsince u)

/-- The cycle that serves a call is the first one behind it. -/
theorem Served.eq_of_begun {u : Nat} {later rest late earlier : List Note} (h : Served u s later)
    (hlater : later = rest ++ .begun t :: late) (hb : ∀ v, .begun v ∉ late)
    (hfits : Fits interval spawned (later ++ earlier)) : u = t := by
  have hmem : .begun t ∈ later := by simp [hlater]
  have hne : ∀ l, OnlyAccepted u l → ∀ v, .begun v ∉ l := by
    intro l only v hv
    cases only _ hv
  cases h with
  | begun only => exact begun_unique hlater (hne _ only) hb
  | cancelled only =>
    rw [List.append_assoc, List.cons_append] at hfits
    rcases List.mem_append.1 hmem with hafter | hbefore
    · exact absurd hafter (hfits.begun_notMem t)
    · rcases List.mem_cons.1 hbefore with hsame | hbefore
      · cases hsame
      · exact absurd hbefore (hne _ only t)
  | due only => exact absurd hmem (hne _ only t)

/-! ## Every run -/

section

variable {acts : List Act} {later earlier : List Note}

theorem served_of_run
    (hl : ((start interval spawned).run acts).history = later ++ .asked t .accepted :: earlier)
    (hc : ∀ c, .cancelled c ∉ earlier) : Served t ((start interval spawned).run acts) later := by
  obtain ⟨front, back, rfl, rfl, hnow, haccepted⟩ := exists_of_asked rfl hl
  have hpending := (tracks_run interval spawned front).pending haccepted hc
  obtain ⟨later', hlater', hserved⟩ := hpending.run back
  have hrun : (start interval spawned).run (front ++ .refresh :: back) =
      (((start interval spawned).run front).step .refresh).run back := run_append ..
  rw [hrun] at hl ⊢
  rw [hlater', step_refresh_history, haccepted, hnow] at hl
  rw [← List.append_cancel_right hl, ← hnow]
  exact hserved

theorem isUnderWay_of_skipped (hl : ((start interval spawned).run acts).history =
      later ++ .asked t .skippedRunning :: earlier) : isUnderWay earlier = true := by
  obtain ⟨front, back, -, rfl, -, hskipped⟩ := exists_of_asked rfl hl
  exact (tracks_run interval spawned front).running_iff.1 (refresh_eq_skipped.1 hskipped)

theorem over_of_inactive (hl : ((start interval spawned).run acts).history =
      later ++ .asked t .inactive :: earlier) :
    isUnderWay earlier = false ∧ ∀ u, .begun u ∉ later := by
  obtain ⟨front, back, rfl, rfl, hnow, hinactive⟩ := exists_of_asked rfl hl
  have h := tracks_run interval spawned front
  have hstate := refresh_eq_inactive.1 hinactive
  refine ⟨?_, ?_⟩
  · rw [← Bool.not_eq_true, ← h.running_iff]
    intro hrunning
    rw [hrunning] at hstate
    simp at hstate
  · have hp := (step_of_ended (h.phase_ended hstate) .refresh).1
    obtain ⟨added, hadded, hbegun⟩ := exists_history_of_ended hp back
    have hrun : (start interval spawned).run (front ++ .refresh :: back) =
        (((start interval spawned).run front).step .refresh).run back := run_append ..
    rw [hrun, hadded, step_refresh_history, hinactive, hnow] at hl
    rw [← List.append_cancel_right hl]
    exact hbegun

/-- Between two cycles every call is accepted. -/
theorem accepted_of_asked {rest since : List Note} {e u : Nat} {a : RefreshAnswer}
    (hl : ((start interval spawned).run acts).history =
      rest ++ .begun t :: (since ++ .ended e .goOn :: earlier))
    (hb : ∀ v, .begun v ∉ since) (ha : .asked u a ∈ since) : .asked u .accepted ∈ since := by
  obtain ⟨late, early, rfl⟩ := List.append_of_mem ha
  have hcall : ((start interval spawned).run acts).history =
      (rest ++ .begun t :: late) ++ .asked u a :: (early ++ .ended e .goOn :: earlier) := by
    simpa using hl
  cases a with
  | accepted => exact ha
  | skippedRunning =>
    have hidle : isUnderWay (early ++ .ended e .goOn :: earlier) = false :=
      isUnderWay_since_ended fun v hv => hb v (by simp [hv])
    exact absurd (isUnderWay_of_skipped hcall) (by simp [hidle])
  | inactive => exact absurd (by simp) ((over_of_inactive hcall).2 t)

end

/-- Every answer of every run is true, however long cycles take and end, whenever calls come, and in
whatever order things happen at one time. -/
theorem run_truthful (interval spawned : Nat) (acts : List Act) :
    Truthful interval spawned ((start interval spawned).run acts) := by
  have h := tracks_run interval spawned acts
  exact
    { accepted := fun hl hc => served_of_run hl hc
      together := by
        intro rest t since earlier hl hb u hu
        have hfits := h.fits
        rw [hl] at hfits
        obtain ⟨-, hc, -⟩ := hfits.of_append
        rw [isCancelled_eq_false] at hc
        obtain ⟨late, early, rfl⟩ := List.append_of_mem hu
        have hlate : ∀ v, .begun v ∉ late := fun v hv => hb v (by simp [hv])
        have hcall : ((start interval spawned).run acts).history =
            (rest ++ .begun t :: late) ++ .asked u .accepted :: (early ++ earlier) := by simpa using hl
        have hserved := served_of_run hcall
          fun c hcancelled => hc c (by simpa using .inr (List.mem_append.1 hcancelled))
        exact hserved.eq_of_begun rfl hlate (hcall ▸ h.fits)
      once := by
        intro rest t earlier hl
        have hfits := h.fits
        rw [hl] at hfits
        obtain ⟨hbefore, hc, hmay⟩ := hfits.of_append
        cases hst : stage earlier with
        | unbegun =>
          rw [hst] at hmay
          exact .inl ⟨hmay, begun_notMem_of_unbegun hst⟩
        | underWay =>
          rw [hst] at hmay
          exact hmay.elim
        | closed =>
          rw [hst] at hmay
          exact hmay.elim
        | between e asked =>
          rw [hst] at hmay
          obtain ⟨since, before, rfl, hb, rfl⟩ := exists_of_stage_between hst
          refine .inr ⟨since, e, before, rfl, hb, (eq_of_due hmay).imp_right fun hfirst => ?_⟩
          obtain ⟨a, ha⟩ := mem_of_firstAsked hfirst
          exact accepted_of_asked hl hb ha
      skipped := isUnderWay_of_skipped
      inactive := over_of_inactive
      unnoticed := by
        intro hne acts'
        rw [step_refresh_of_ne_accepted hne]
        obtain ⟨poller, now, added, hrun⟩ := run_extends _ _ acts'
        exact ⟨poller, now, added, hrun _, hrun _⟩ }

/-- Two calls at one time are served by one cycle, a call during it is skipped, and a call after a
suspension has no effect. -/
theorem run_truthful_asked :
    let s := (start 3 0).run [.turn, .finish .goOn, .tick, .refresh, .refresh, .turn, .refresh,
      .finish .suspend, .refresh]
    s.history = [.asked 1 .inactive, .ended 1 .suspend, .asked 1 .skippedRunning, .begun 1,
      .asked 1 .accepted, .asked 1 .accepted, .ended 0 .goOn, .begun 0] ∧
    Served 1 s [.asked 1 .inactive, .ended 1 .suspend, .asked 1 .skippedRunning, .begun 1,
      .asked 1 .accepted] ∧
    (∀ u, .asked u .accepted ∈ [Note.asked 1 .accepted, .asked 1 .accepted, .ended 0 .goOn] → u = 1) ∧
    isUnderWay [.begun 1, .asked 1 .accepted, .asked 1 .accepted, .ended 0 .goOn, .begun 0] = true ∧
    ∀ acts, ∃ poller now added, s.run acts = ⟨poller, now, added ++ s.history⟩ ∧
      (s.step .refresh).run acts = ⟨poller, now, added ++ .asked 1 .inactive :: s.history⟩ := by
  intro s
  have haccepted : s.history = [.asked 1 .inactive, .ended 1 .suspend, .asked 1 .skippedRunning,
      .begun 1, .asked 1 .accepted] ++ .asked 1 .accepted :: [.ended 0 .goOn, .begun 0] := by decide
  have hserves : s.history = [.asked 1 .inactive, .ended 1 .suspend, .asked 1 .skippedRunning] ++
      .begun 1 :: ([.asked 1 .accepted, .asked 1 .accepted, .ended 0 .goOn] ++ [.begun 0]) := by decide
  have hskipped : s.history = [.asked 1 .inactive, .ended 1 .suspend] ++ .asked 1 .skippedRunning ::
      [.begun 1, .asked 1 .accepted, .asked 1 .accepted, .ended 0 .goOn, .begun 0] := by decide
  have htruthful : Truthful 3 0 s := run_truthful 3 0 _
  exact ⟨haccepted, htruthful.accepted haccepted (by simp), htruthful.together hserves (by simp),
    htruthful.skipped hskipped, htruthful.unnoticed (by decide)⟩

end DeviceHub.Polling
