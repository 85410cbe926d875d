import DeviceHub.Proofs.Hub.Tasks

/-!
# Lives of devices

A device lives from the time it is taken in until it is disposed of. `Life` is what happens to it:
the configuration that it is taken in with, what becomes of that, and the results of its cycles.
`Hub.follow` says what an act adds to a life. It looks at who is registered and at the tasks that
are under way, and at nothing that the hub keeps of what the device reports.

* `committed?_eq_some`: which acts commit a result.
* `sameSetting_step`: only one act shuts a hub down, and none changes the types of devices.
* `next_follow`: what an act can make of a life.
-/
namespace DeviceHub

variable {κ : Type}

/-! ## Lives -/

/-- What happened to a device since it was taken in. -/
structure Life (κ : Type) where
  config : DeviceConfig
  /-- The poll task that it got, or why its configuration was refused. -/
  opening : Except HubError (PollTask κ)
  /-- What its cycles brought and when, the latest first. -/
  results : List (Except HubError Snapshot × Instant)

namespace Life

/-- The health of the device when it was taken in. -/
def firstHealth (l : Life κ) : DeviceHealth :=
  match l.opening with
  | .ok _ => .initial
  | .error e => (HealthOutcome.configError e.message).health .initial

/-- The health that the results have made. -/
def health (l : Life κ) : DeviceHealth :=
  l.results.foldr (fun r before => (HealthOutcome.ofResult r.2 r.1).health before) l.firstHealth

/-- The snapshot that came last. -/
def snapshot? (l : Life κ) : Option Snapshot := l.results.findSome? fun r => r.1.toOption

/-- Whether only a new configuration or a new start can help. -/
def isSuspended (l : Life κ) : Bool :=
  match l.opening, l.results with
  | .error _, _ => true
  | .ok _, [] => false
  | .ok _, r :: _ => (HealthOutcome.ofResult r.2 r.1).suspends

/-- The life with one more result. -/
def add (l : Life κ) (r : Except HubError Snapshot × Instant) : Life κ :=
  { l with results := r :: l.results }

theorem health_add (l : Life κ) (r : Except HubError Snapshot × Instant) :
    (l.add r).health = (HealthOutcome.ofResult r.2 r.1).health l.health := rfl

theorem snapshot?_add_ok (l : Life κ) (s : Snapshot) (now : Instant) :
    (l.add (.ok s, now)).snapshot? = some s := rfl

theorem snapshot?_add_error (l : Life κ) (e : HubError) (now : Instant) :
    (l.add (.error e, now)).snapshot? = l.snapshot? := rfl

theorem isSuspended_add {l : Life κ} {opened : PollTask κ} (h : l.opening = .ok opened)
    (r : Except HubError Snapshot × Instant) :
    (l.add r).isSuspended = (HealthOutcome.ofResult r.2 r.1).suspends := by
  simp [isSuspended, add, h]

end Life

namespace Hub

/-- A device that is taken in now. -/
def newLife (h : Hub κ) (d : DeviceConfig) : Life κ := ⟨d, h.prepare d, []⟩

/-- The life of a device after a configuration has been handed in: a device that has a life keeps
it, and a hub that was shut down takes no device in. -/
def enrolled (h : Hub κ) (device : String) (life : Option (Life κ)) (d : DeviceConfig) :
    Option (Life κ) :=
  if d.identity.device = device ∧ h.isShutDown = false ∧ life.isNone then some (h.newLife d)
  else life

/-- The life of a device after some device has been disposed of. -/
def unlessDisposed (device : String) (life : Option (Life κ)) (disposed : String) :
    Option (Life κ) :=
  if disposed = device then none else life

/-- The result that an act commits for a device: a cycle of the device ends, and its task has not
been cancelled. -/
def committed? (h : Hub κ) (device : String) : Act κ → Option (Except HubError Snapshot × Instant)
  | .finish n _ now answer =>
    match h.task? n with
    | some t =>
      if (h.isCycling n && answerIsFinite answer) ∧ t.poller.isCancelled = false ∧
          t.identity.device = device then
        some (readAnswer t.schema t.identity now answer, now)
      else none
    | none => none
  | _ => none

/-- The life of a device after an act. -/
def follow (h : Hub κ) (device : String) (life : Option (Life κ)) : Act κ → Option (Life κ)
  | .enroll d => h.enrolled device life d
  | .dispose disposed => unlessDisposed device life disposed
  | .restart restarted =>
    match h.devices.get? restarted with
    | some entry => h.enrolled device (unlessDisposed device life restarted) entry.config
    | none => life
  | .update d => h.enrolled device (unlessDisposed device life d.identity.device) d
  | .finish n time now answer =>
    match h.committed? device (.finish n time now answer) with
    | some r => life.map fun l => l.add r
    | none => life
  | _ => life

/-- The life of a device after some acts. -/
def followAll (device : String) : Hub κ → Option (Life κ) → List (Act κ) → Option (Life κ)
  | _, life, [] => life
  | h, life, a :: acts => followAll device (h.step a) (h.follow device life a) acts

/-- The life of a device in a hub that began empty. -/
def life? (schemas : SchemaRegistry) (acts : List (Act κ)) (device : String) : Option (Life κ) :=
  followAll device (.new schemas) none acts

/-- A result is committed by the end of a cycle that is under way, by a task that is not cancelled.
-/
theorem committed?_eq_some {h : Hub κ} {device : String} {a : Act κ}
    {r : Except HubError Snapshot × Instant} (hr : h.committed? device a = some r) :
    ∃ n t time now answer, a = .finish n time now answer ∧ h.task? n = some t ∧
      h.isCycling n = true ∧ answerIsFinite answer = true ∧ t.poller.isCancelled = false ∧
      t.identity.device = device ∧ r = (readAnswer t.schema t.identity now answer, now) := by
  cases a with
  | finish n time now answer =>
    simp only [committed?] at hr
    cases ht : h.task? n with
    | none => simp [ht] at hr
    | some t =>
      rw [ht] at hr
      simp only at hr
      split at hr
      · next hcond =>
        obtain ⟨hguard, hlive, hdevice⟩ := hcond
        obtain ⟨hcycling, ha⟩ := Bool.and_eq_true_iff.1 hguard
        cases hr
        exact ⟨n, t, time, now, answer, rfl, ht, hcycling, ha, hlive, hdevice, rfl⟩
      · cases hr
  | _ => cases hr

/-! ## What stays as it is -/

/-- The hub knows the same types of devices, and has been shut down or not as before. -/
structure SameSetting (h h' : Hub κ) : Prop where
  schemas : h'.schemas = h.schemas
  isShutDown : h'.isShutDown = h.isShutDown

theorem SameSetting.trans {h h' h'' : Hub κ} (hs : SameSetting h h') (hs' : SameSetting h' h'') :
    SameSetting h h'' := ⟨hs'.schemas.trans hs.schemas, hs'.isShutDown.trans hs.isShutDown⟩

theorem sameSetting_dispose (h : Hub κ) (disposed : String) :
    SameSetting h (h.dispose disposed).2 := by
  cases hd : h.devices.get? disposed with
  | none =>
    have hsame : (h.dispose disposed).2 = h := by simp [Hub.dispose, hd]
    rw [hsame]
    exact ⟨rfl, rfl⟩
  | some entry =>
    rw [dispose_eq hd]
    exact ⟨rfl, rfl⟩

theorem sameSetting_enroll (h : Hub κ) (d : DeviceConfig) : SameSetting h (h.enroll d).2 := by
  unfold Hub.enroll
  simp only
  split
  · exact ⟨rfl, rfl⟩
  · split
    · exact ⟨rfl, rfl⟩
    · split <;> exact ⟨rfl, rfl⟩

theorem sameSetting_refresh (h : Hub κ) (refreshed : String) :
    SameSetting h (h.refresh refreshed).2 := by
  unfold Hub.refresh
  split
  · exact ⟨rfl, rfl⟩
  · split <;> exact ⟨rfl, rfl⟩

theorem sameSetting_absorb (h : Hub κ) (device : String) (r : Except HubError Snapshot)
    (now : Instant) : SameSetting h (h.absorb device r now) := by
  refine ⟨?_, absorb_isShutDown ..⟩
  unfold Hub.absorb Hub.record
  cases r <;> simp only <;> split <;> rfl

/-- Only one act shuts a hub down, and none changes the types. -/
theorem sameSetting_step (h : Hub κ) {a : Act κ} (ha : a ≠ .beginShutdown) :
    SameSetting h (h.step a) := by
  cases a with
  | attach | renew | subscribe => exact ⟨rfl, rfl⟩
  | register fault b =>
    simp only [Hub.step, Hub.register]
    split
    · exact ⟨rfl, rfl⟩
    · split
      · exact ⟨rfl, rfl⟩
      · split <;> exact ⟨rfl, rfl⟩
  | enroll d => exact sameSetting_enroll h d
  | dispose disposed => exact sameSetting_dispose h disposed
  | restart restarted =>
    simp only [Hub.step, Hub.restart]
    split
    · exact ⟨rfl, rfl⟩
    · exact (sameSetting_dispose h restarted).trans (sameSetting_enroll _ _)
  | update d => exact (sameSetting_dispose h d.identity.device).trans (sameSetting_enroll _ _)
  | refresh refreshed => exact sameSetting_refresh h refreshed
  | commandDone commanded answer =>
    cases answer with
    | error e => exact ⟨rfl, rfl⟩
    | ok payload => exact sameSetting_refresh h commanded
  | beginShutdown => exact absurd rfl ha
  | release released =>
    simp only [Hub.step]
    split <;> exact ⟨rfl, rfl⟩
  | wake n time =>
    simp only [Hub.step, Hub.wake]
    split <;> exact ⟨rfl, rfl⟩
  | finish n time now answer =>
    simp only [Hub.step]
    split
    · cases ht : h.task? n with
      | none =>
        have hsame : h.finish n time now answer = h := by simp [Hub.finish, ht]
        rw [hsame]
        exact ⟨rfl, rfl⟩
      | some t =>
        obtain ⟨p, -, heq⟩ := finish_eq ht time now answer
        rw [heq]
        split
        · exact ⟨rfl, rfl⟩
        · obtain ⟨hschemas, hshut⟩ := sameSetting_absorb h t.identity.device
            (readAnswer t.schema t.identity now answer) now
          exact ⟨hschemas, hshut⟩
    · exact ⟨rfl, rfl⟩

theorem schemas_step (h : Hub κ) (a : Act κ) : (h.step a).schemas = h.schemas := by
  cases a with
  | beginShutdown => rfl
  | _ => exact (sameSetting_step h (by simp)).schemas

variable {h : Hub κ}

theorem isShutDown_of_step {a : Act κ} (hs : (h.step a).isShutDown = false) :
    h.isShutDown = false := by
  by_cases ha : a = .beginShutdown
  · subst ha
    cases hs
  · rw [← (sameSetting_step h ha).isShutDown, hs]

/-- A hub that is not shut down never was. -/
theorem isShutDown_of_run {acts : List (Act κ)} (hs : (h.run acts).isShutDown = false) :
    h.isShutDown = false := by
  induction acts generalizing h with
  | nil => exact hs
  | cons a acts ih => exact isShutDown_of_step (ih hs)

/-! ## Steps of a life -/

/-- What an act can make of a life. -/
inductive Next (h : Hub κ) (life : Option (Life κ)) : Option (Life κ) → Prop where
  | same : Next h life life
  | ended : Next h life none
  | begun (d : DeviceConfig) : Next h life (some (h.newLife d))
  | added (r : Except HubError Snapshot × Instant) : Next h life (life.map fun l => l.add r)

theorem Next.enrolled {life' : Option (Life κ)} (hn : Next h life life') (device : String)
    (d : DeviceConfig) : Next h life (h.enrolled device life' d) := by
  unfold Hub.enrolled
  split
  · exact .begun d
  · exact hn

theorem next_disposed (h : Hub κ) (device : String) (life : Option (Life κ)) (disposed : String) :
    Next h life (unlessDisposed device life disposed) := by
  unfold unlessDisposed
  split
  · exact .ended
  · exact .same

theorem next_follow (h : Hub κ) (device : String) (life : Option (Life κ)) (a : Act κ) :
    Next h life (h.follow device life a) := by
  cases a with
  | enroll d => exact Next.same.enrolled device d
  | dispose disposed => exact next_disposed h device life disposed
  | restart restarted =>
    simp only [follow]
    split
    · exact (next_disposed h device life restarted).enrolled device _
    · exact .same
  | update d => exact (next_disposed h device life d.identity.device).enrolled device d
  | finish n time now answer =>
    simp only [follow]
    split
    · exact .added _
    · exact .same
  | _ => exact .same

end Hub

end DeviceHub
