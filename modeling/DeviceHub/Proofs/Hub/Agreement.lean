import DeviceHub.Proofs.Hub.Tables

/-!
# The tables agree

A device is in four tables: the registered devices, their health, their snapshots and their poll
tasks. Different operations write to them. Until the hub shuts down they agree: a device has health
while it is registered, and a snapshot since the first of its cycles that succeeded. The snapshot is
one of the registered device, with the channels that its type had when the device was taken in, and
the health after a success says what the snapshot says.

* `Life.isSome_snapshot?`: a life has a snapshot when it has a success.
* `resolved_life?`: a task reads with the schema of its device's type.
* `tables_agree`: all of it, for every run.
-/
namespace DeviceHub

variable {κ : Type}

namespace Life

/-- By induction on the results: those that failed leave both as they are. -/
theorem isSome_snapshot? (l : Life κ) :
    l.snapshot?.isSome = l.health.lastSuccess.isSome := by
  have hfirst : l.firstHealth.lastSuccess = none := by
    unfold firstHealth
    split <;> rfl
  unfold snapshot? health
  induction l.results with
  | nil => simp [hfirst]
  | cons r older ih =>
    obtain ⟨result, now⟩ := r
    cases result with
    | ok s => rfl
    | error e => exact ih

/-- The task of the device reads with the schema that its type has. -/
def Resolved (schemas : SchemaRegistry) (l : Life κ) : Prop :=
  ∀ t, l.opening = .ok t → schemas.get? l.config.identity.deviceType = some t.schema

/-- After a success the health says what the snapshot says. -/
theorem health_of_success {l : Life κ} {s : Snapshot} {now : Instant}
    {older : List (Except HubError Snapshot × Instant)} (h : l.results = (.ok s, now) :: older) :
    l.snapshot? = some s ∧ l.health.failures = 0 ∧
      l.health.status = (if s.online then .online else .offline) ∧
      l.health.detail = (if s.online then none else some "device reports offline") := by
  unfold snapshot? health
  rw [h]
  exact ⟨rfl, rfl, rfl, rfl⟩

end Life

namespace Hub

theorem resolved_newLife (h : Hub κ) (d : DeviceConfig) : (h.newLife d).Resolved h.schemas := by
  intro t ht
  obtain ⟨interval, client, schema, -, hschema, rfl⟩ := prepare_eq_ok ht
  exact hschema

theorem resolved_next {h : Hub κ} {life life' : Option (Life κ)} (hn : Next h life life')
    (hl : ∀ l ∈ life, l.Resolved h.schemas) : ∀ l ∈ life', l.Resolved h.schemas := by
  intro l hlife'
  cases hn with
  | same => exact hl l hlife'
  | ended => cases hlife'
  | begun d =>
    cases hlife'
    exact resolved_newLife h d
  | added r =>
    obtain ⟨before, hbefore, rfl⟩ := Option.map_eq_some_iff.1 hlife'
    exact hl before hbefore

theorem resolved_followAll (device : String) {h : Hub κ} {life : Option (Life κ)}
    (acts : List (Act κ)) (hl : ∀ l ∈ life, l.Resolved h.schemas) :
    ∀ l ∈ followAll device h life acts, l.Resolved h.schemas := by
  induction acts generalizing h life with
  | nil => exact hl
  | cons a acts ih =>
    have hschemas := schemas_step h a
    have hnext := resolved_next (next_follow h device life a) hl
    rw [← hschemas] at hnext ⊢
    exact ih hnext

theorem resolved_life? {schemas : SchemaRegistry} {acts : List (Act κ)} {device : String}
    {l : Life κ} (hl : life? schemas acts device = some l) : l.Resolved schemas :=
  resolved_followAll device (h := .new schemas) acts (fun _ hnone => by cases hnone) l hl

/-- What is kept of a registered device fits together. -/
structure Agrees (schemas : SchemaRegistry) (h : Hub κ) (device : String) (entry : DeviceEntry)
    (l : Life κ) (health : DeviceHealth) : Prop where
  config : entry.config = l.config
  /-- There is a snapshot when a cycle has succeeded. -/
  stored : (h.store.get? device).isSome = true ↔ health.lastSuccess.isSome = true
  /-- It is a snapshot of the registered device, with the channels of its type. -/
  snapshot : ∀ s, h.store.get? device = some s →
    s.device = entry.config.identity.device ∧ s.deviceType = entry.config.identity.deviceType ∧
    ∃ opened, l.opening = .ok opened ∧ schemas.get? s.deviceType = some opened.schema ∧
      ∀ c, (s.fields.get? c).isSome = true ↔ c ∈ opened.schema.channels
  /-- When the last cycle has succeeded, the health says what its snapshot says. -/
  succeeded : ∀ s now older, l.results = (.ok s, now) :: older →
    h.store.get? device = some s ∧ health.failures = 0 ∧
    health.status = (if s.online then .online else .offline) ∧
    health.detail = (if s.online then none else some "device reports offline")

theorem Kept.agrees {schemas : SchemaRegistry} {h : Hub κ} {device : String} {l : Life κ}
    {entry : DeviceEntry} (hk : Kept device h (some l)) (hresolved : l.Resolved schemas)
    (he : h.devices.get? device = some entry) : Agrees schemas h device entry l l.health := by
  cases hk with
  | @present _ e he' config named polled health store =>
    have hsame : e = entry := Option.some.inj (he'.symm.trans he)
    subst hsame
    refine ⟨config, by rw [store, l.isSome_snapshot?], fun s hs => ?_, fun s now older hr => ?_⟩
    · rw [store] at hs
      rw [config]
      generalize e.task = task at polled
      cases polled with
      | refused opening results => simp [Life.snapshot?, results] at hs
      | @task _ t opened opening ht identity schema live goes snapshot =>
        obtain ⟨hdevice, htype, hfits⟩ := snapshot s hs
        refine ⟨hdevice, htype, opened, opening, ?_, ?_⟩
        · rw [htype]
          exact hresolved opened opening
        · rw [← schema]
          exact hfits.channels
    · obtain ⟨hsnapshot, hhealth⟩ := Life.health_of_success hr
      exact ⟨store.trans hsnapshot, hhealth⟩

/-- In every run, as long as the hub is not shut down, its tables agree about every device. -/
theorem tables_agree (schemas : SchemaRegistry) (acts : List (Act κ)) (device : String) :
    let h := run (.new schemas) acts
    h.isShutDown = false →
    ((Dict.get? h.health device).isSome = true ↔ (h.devices.get? device).isSome = true) ∧
    ((h.store.get? device).isSome = true → (h.devices.get? device).isSome = true) ∧
    ∀ entry, h.devices.get? device = some entry →
      ∃ l health, life? schemas acts device = some l ∧ Dict.get? h.health device = some health ∧
        Agrees schemas h device entry l health := by
  intro h hs
  have hk : Kept device h (life? schemas acts device) := kept_run schemas acts device hs
  have hresolved : ∀ l, life? schemas acts device = some l → l.Resolved schemas :=
    fun l hl => resolved_life? hl
  generalize life? schemas acts device = life at hk hresolved
  cases hk with
  | absent entry health store => simp [entry, health, store]
  | @present l entry he config named polled health store =>
    refine ⟨by simp [he, health], fun _ => by simp [he], fun e he' => ?_⟩
    have hk : Kept device h (some l) := .present he config named polled health store
    exact ⟨l, l.health, rfl, health, hk.agrees (hresolved l rfl) he'⟩

/-- The plug has answered, so it has a snapshot and a time of success. -/
theorem tables_agree_plug :
    let acts : List (Act Unit) := plugIsAsked ++ [.finish 0 5 .epoch (plugSays true)]
    let h := run (.new [("plug", plugSchema)]) acts
    h.isShutDown = false ∧ (h.store.get? "p1").isSome = true ∧
      ∃ health, Dict.get? h.health "p1" = some health ∧ health.lastSuccess.isSome = true := by
  intro acts h
  have hs : h.isShutDown = false := by decide +kernel
  have hstored : (h.store.get? "p1").isSome = true := by decide +kernel
  obtain ⟨-, hregistered, hagree⟩ := tables_agree [("plug", plugSchema)] acts "p1" hs
  obtain ⟨entry, hentry⟩ := Option.isSome_iff_exists.1 (hregistered hstored)
  obtain ⟨l, health, -, hhealth, hagrees⟩ := hagree entry hentry
  exact ⟨hs, hstored, health, hhealth, hagrees.stored.1 hstored⟩

end Hub

end DeviceHub
