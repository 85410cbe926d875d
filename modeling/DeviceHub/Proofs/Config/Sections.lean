import DeviceHub.Proofs.Config.Bridges
import DeviceHub.Proofs.Config.Devices
import DeviceHub.Proofs.Hub.Share

/-!
# One section among others

A configuration lists devices that have nothing to do with each other, and the hub judges each of them
by itself: one that is refused is logged, and the others are polled. Before that, devices are made of
all sections, and there one section without a usable envelope stops the command for all.

* `AgreeOn.addDevice`, `agreeOn_addDevice`: what a service has of a device and logged of it changes only
  when that device is taken in.
* `start_section`: when the outcome for a section is the same as if it stood alone.
* `start_stopped`: a section without an envelope stops a device that is in order.
-/
namespace DeviceHub

/-! ## Sections of which a device can be made -/

namespace DeviceSection

/-- Whether a device can be made of a section: nothing but its envelope can be in the way. -/
def isMade (s : DeviceSection) : Bool :=
  match s.envelope? with
  | .ok _ => true
  | .error _ => false

variable {s t : DeviceSection} {d : Defaults} {e : ConfigError}

theorem isMade_iff : s.isMade = true ↔ ∃ device, s.translate d = .ok device := by
  unfold isMade translate
  cases s.envelope? <;> simp [bind, Except.bind]

theorem isMade_of_mapM {l : List DeviceSection} {ds : List DeviceConfig}
    (h : l.mapM (·.translate d) = .ok ds) : ∀ y ∈ l, y.isMade = true :=
  (forall_mem_iff_of_mapM h (q := fun _ => True) fun _ device hdevice =>
    iff_of_true (isMade_iff.2 ⟨device, hdevice⟩) trivial).2 fun _ _ => trivial

theorem translate_eq_error (h : s.translate d = .error e) :
    s.isMade = false ∧ ∃ reason, e = .invalid (s.place ++ ".envelope") reason := by
  unfold translate at h
  cases henvelope : s.envelope? with
  | ok envelope => rw [henvelope] at h; cases h
  | error e' =>
    rw [henvelope] at h
    cases h
    refine ⟨by rw [isMade, henvelope], ?_⟩
    unfold envelope? at henvelope
    split at henvelope
    · cases henvelope
    · split at henvelope
      · cases henvelope
      · cases henvelope; exact ⟨_, rfl⟩
    · split at henvelope
      · cases henvelope; exact ⟨_, rfl⟩
      · cases henvelope

/-- Sections of different ids have different faults. -/
theorem id_eq_of_place (h : s.place ++ ".envelope" = t.place ++ ".envelope") : s.id = t.id := by
  have hplace : s.place = t.place := (String.append_left_inj ".envelope").1 h
  exact (String.append_right_inj "devices.").1 hplace

end DeviceSection

/-- The configuration with no other device. -/
def Configuration.only (c : Configuration) (s : DeviceSection) : Configuration :=
  { c with devices := [s] }

/-! ## What is logged of a device -/

/-- The device that a record is about. -/
def LogRecord.device? (r : LogRecord) : Option String := (r.fields.get? "device").bind Json.text?

theorem LogRecord.device?_ofEvent? {e : Event} {r : LogRecord} (h : ofEvent? e = some r) :
    r.device? = some e.device := by
  cases e with
  | begun => cases h
  | state | connectivity =>
    cases h
    simp [device?, info, Dict.ofList, Dict.get?_insert, Json.text?, Event.device]

namespace Command.Service

variable {τ : Type} {s s' s₁ s₂ : Service τ} {device : String} {d : DeviceConfig}

/-- What a service logged of a device. -/
def recordsOf (s : Service τ) (device : String) : List LogRecord :=
  s.log.filter fun r => r.device? = some device

/-- Two services have the same of a device and logged the same of it. -/
structure AgreeOn (device : String) (s₁ s₂ : Service τ) : Prop where
  hub : Hub.AgreeOn device s₁.run.hub s₂.run.hub
  records : s₁.recordsOf device = s₂.recordsOf device

theorem AgreeOn.symm (h : AgreeOn device s₁ s₂) : AgreeOn device s₂ s₁ :=
  ⟨h.hub.symm, h.records.symm⟩

theorem AgreeOn.trans {s₃ : Service τ} (h : AgreeOn device s₁ s₂) (h' : AgreeOn device s₂ s₃) :
    AgreeOn device s₁ s₃ := ⟨h.hub.trans h'.hub, h.records.trans h'.records⟩

theorem agreeOn_refl (device : String) (s : Service τ) : AgreeOn device s s := ⟨.refl _ _, rfl⟩

/-- The records of the answer to a device that was to be taken in. -/
def verdict (d : DeviceConfig) : Except HubError Unit → List LogRecord
  | .ok () =>
    [LogRecord.info "device initialized" [("device", .text d.identity.device),
        ("interval_secs", Json.integer d.interval)],
      LogRecord.info "polling" [("device", .text d.identity.device),
        ("schedule", .text (intervalText d.interval))]]
  | .error e => [LogRecord.warn "device not started" [("device", .text d.identity.device),
      ("error", .text e.message)]]

theorem device?_of_mem_verdict {answer : Except HubError Unit} {r : LogRecord}
    (h : r ∈ verdict d answer) : r.device? = some d.identity.device := by
  have hall : ∀ r ∈ verdict d answer, r.device? = some d.identity.device := by
    cases answer <;>
      simp [verdict, LogRecord.device?, LogRecord.info, LogRecord.warn, Dict.ofList,
        Dict.get?_insert, Json.text?]
  exact hall r h

theorem addDevice_hub (s : Service τ) (d : DeviceConfig) :
    (s.addDevice d).run.hub = (s.run.hub.enroll d).2 := by
  rcases henroll : s.run.hub.enroll d with ⟨answer, hub⟩
  cases answer <;> simp only [addDevice, HubRun.apply, henroll, noted]

/-- What is logged when a device is taken in: what happens to it, then the answer. -/
theorem addDevice_log (s : Service τ) (d : DeviceConfig) :
    ∃ events, (s.run.hub.enroll d).2.journal = events ++ s.run.hub.journal ∧
      (∀ e ∈ events, e.device = d.identity.device) ∧
      (s.addDevice d).log = s.log ++
        (((events.filter (·.isTold)).reverse.filterMap LogRecord.ofEvent?) ++
          verdict d (s.run.hub.enroll d).1) := by
  obtain ⟨events, hj, hown⟩ := Hub.enroll_journal s.run.hub d
  refine ⟨events, hj, hown, ?_⟩
  have hsince : (s.run.hub.enroll d).2.toldSince s.run.hub.journal.length =
      (events.filter (·.isTold)).reverse := by
    simp [Hub.toldSince, hj]
  rcases henroll : s.run.hub.enroll d with ⟨answer, hub⟩
  rw [henroll] at hsince
  cases answer <;>
    simp only [addDevice, HubRun.apply, henroll, noted, heard, hsince, verdict]

/-! ## One device after the other -/

/-- A device that is taken in is judged by what the hub has of it. -/
theorem AgreeOn.addDevice (h : AgreeOn d.identity.device s₁ s₂) :
    AgreeOn d.identity.device (s₁.addDevice d) (s₂.addDevice d) := by
  have hcall := h.hub.enroll
  refine ⟨by rw [addDevice_hub, addDevice_hub]; exact hcall.agree, ?_⟩
  obtain ⟨events₁, hj₁, hown₁, hlog₁⟩ := addDevice_log s₁ d
  obtain ⟨events₂, hj₂, hown₂, hlog₂⟩ := addDevice_log s₂ d
  -- all that happened is the device's, so what was told of it before is all that differs
  have htold (hub hub' : Hub Nat) (events : List Event) (hj : hub'.journal = events ++ hub.journal)
      (hown : ∀ e ∈ events, e.device = d.identity.device) :
      hub'.told d.identity.device =
        events.filter (·.isTold) ++ hub.told d.identity.device := by
    rw [Hub.told, hj, List.filter_append]
    refine congrArg (· ++ _) (List.filter_congr fun e he => ?_)
    simp [hown e he]
  have hevents : events₁.filter (·.isTold) = events₂.filter (·.isTold) := by
    have hafter := hcall.agree.told
    rw [htold _ _ _ hj₁ hown₁, htold _ _ _ hj₂ hown₂, h.hub.told] at hafter
    exact List.append_cancel_right hafter
  have hrecords := h.records
  unfold recordsOf at hrecords ⊢
  rw [hlog₁, hlog₂, hevents, hcall.answer]
  simp only [List.filter_append, hrecords]

/-- Another device that is taken in makes no difference. -/
theorem agreeOn_addDevice (hw : s.run.hub.Wired) (hne : d.identity.device ≠ device) :
    AgreeOn device s (s.addDevice d) := by
  refine ⟨addDevice_hub s d ▸ (Hub.untouched_enroll hne).agreeOn hw, ?_⟩
  obtain ⟨events, -, hown, hlog⟩ := addDevice_log s d
  have hnone : ((events.filter (·.isTold)).reverse.filterMap LogRecord.ofEvent? ++
      verdict d (s.run.hub.enroll d).1).filter (fun r => r.device? = some device) = [] := by
    rw [List.filter_eq_nil_iff]
    intro r hr
    have hdevice : r.device? = some d.identity.device := by
      rcases List.mem_append.1 hr with hr | hr
      · obtain ⟨e, he, hre⟩ := List.mem_filterMap.1 hr
        have he : e ∈ events := (List.mem_filter.1 (List.mem_reverse.1 he)).1
        rw [LogRecord.device?_ofEvent? hre, hown e he]
      · exact device?_of_mem_verdict hr
    simpa [hdevice] using hne
  unfold recordsOf
  rw [hlog, List.filter_append, hnone, List.append_nil]

theorem reachable_addDevice (hr : s.run.hub.Reachable) (d : DeviceConfig) :
    (s.addDevice d).run.hub.Reachable := by
  obtain ⟨schemas, hr⟩ := hr
  rw [addDevice_hub]
  exact ⟨schemas, hr.trans (Hub.changes_enroll _ d)⟩

theorem reachable_addDevices (hr : s.run.hub.Reachable) (ds : List DeviceConfig) :
    (ds.foldl addDevice s).run.hub.Reachable := by
  induction ds generalizing s with
  | nil => exact hr
  | cons d rest ih => exact ih (reachable_addDevice hr d)

/-- By induction on the devices. -/
theorem agreeOn_addDevices (hr : s.run.hub.Reachable) {ds : List DeviceConfig}
    (hothers : ∀ d ∈ ds, d.identity.device ≠ device) : AgreeOn device s (ds.foldl addDevice s) := by
  induction ds generalizing s with
  | nil => exact agreeOn_refl device s
  | cons d rest ih =>
    obtain ⟨hne, hrest⟩ := List.forall_mem_cons.1 hothers
    exact (agreeOn_addDevice hr.wired hne).trans (ih (reachable_addDevice hr d) hrest)

/-- Whatever devices stand around it, a device fares as it does alone. -/
theorem agreeOn_among (hr : s.run.hub.Reachable) {before after : List DeviceConfig}
    (hothers : ∀ x ∈ before ++ after, x.identity.device ≠ d.identity.device) :
    AgreeOn d.identity.device ((before ++ d :: after).foldl addDevice s) (s.addDevice d) := by
  obtain ⟨hbefore, hafter⟩ := List.forall_mem_append.1 hothers
  rw [List.foldl_append, List.foldl_cons]
  have hreached := reachable_addDevices hr before
  have hfirst := (agreeOn_addDevices hr hbefore).addDevice
  exact (hfirst.trans (agreeOn_addDevices (reachable_addDevice hreached d) hafter)).symm

/-- What is logged of bridges is about no device. -/
theorem device?_of_mem_addBridgesUpTo {fault : CertificateFault} {bs : List BridgeConfig}
    (hs : ∀ r ∈ s.log, r.device? = none) : ∀ r ∈ (addBridgesUpTo fault s bs).log, r.device? = none := by
  induction bs generalizing s with
  | nil => exact hs
  | cons b rest ih =>
    unfold addBridgesUpTo
    split
    · next s' hs' =>
      refine ih fun r hr => ?_
      rcases hregister : s.run.hub.register fault b with ⟨answer, hub⟩
      cases answer with
      | error e => simp only [addBridge, HubRun.apply, hregister] at hs'; cases hs'
      | ok u =>
        simp only [addBridge, HubRun.apply, hregister] at hs'
        cases hs'
        rcases List.mem_append.1 hr with hr | hr
        · exact hs r hr
        · rw [List.mem_singleton.1 hr]
          simp [LogRecord.device?, LogRecord.info, Dict.ofList, Dict.get?_insert, Dict.get?]
    · exact hs

theorem device?_of_mem_logOfFailure {o : Outside τ} {c : Configuration} {world : τ} {r : LogRecord}
    (h : r ∈ logOfFailure o c world) : r.device? = none := by
  unfold logOfFailure at h
  split at h
  · exact device?_of_mem_addBridgesUpTo (by simp) r h
  · cases h

theorem changes_addBridge {fault : CertificateFault} {b : BridgeConfig}
    (h : s.addBridge fault b = .ok s') : Hub.Changes s.run.hub s'.run.hub := by
  have hchange := Hub.changes_step s.run.hub (.register fault b)
  rcases hregister : s.run.hub.register fault b with ⟨answer, hub⟩
  simp only [Hub.step, hregister] at hchange
  cases answer with
  | error e => simp only [addBridge, HubRun.apply, hregister] at h; cases h
  | ok u => simp only [addBridge, HubRun.apply, hregister] at h; cases h; exact hchange

theorem changes_addBridges {fault : CertificateFault} {bs : List BridgeConfig}
    (h : bs.foldlM (addBridge fault) s = .ok s') : Hub.Changes s.run.hub s'.run.hub := by
  induction bs generalizing s with
  | nil => cases h; exact .refl
  | cons b rest ih =>
    rw [List.foldlM_cons, bind_eq_ok] at h
    obtain ⟨s₁, hs₁, h⟩ := h
    exact (changes_addBridge hs₁).trans (ih h)

/-! ## The outcome for a section -/

/-- Two starts came to the same for a device: they failed alike, or they have the same of the device and
logged the same of it. -/
inductive SameOutcome (device : String) :
    Except CommandFailure (Service τ) → Except CommandFailure (Service τ) → Prop
  | failed (e : CommandFailure) : SameOutcome device (.error e) (.error e)
  | started {s₁ s₂ : Service τ} (h : AgreeOn device s₁ s₂) : SameOutcome device (.ok s₁) (.ok s₂)

variable {o : Outside τ} {c : Configuration} {world : τ} {bs : List BridgeConfig} {s₀ : Service τ}
  {x : DeviceSection} {e : ConfigError}

/-- A section that no device can be made of fails the start with its own fault, and no other section
has that fault. -/
theorem not_sameOutcome_of_fault {default : String} {y : DeviceSection} (hne : x.id ≠ y.id)
    (he : x.translate c.defaults = .error e) {other : Except CommandFailure (Service τ)}
    (hother : ∀ failure, other = .error failure →
      ∃ e', y.translate c.defaults = .error e' ∧ failure = .ofConfig default e') :
    ¬SameOutcome device (.error (.ofConfig default e)) other := by
  intro hsame
  generalize hfailure : CommandFailure.ofConfig default e = failure at hsame
  cases hsame
  obtain ⟨e', he', hfailure'⟩ := hother _ rfl
  obtain ⟨-, reason, rfl⟩ := DeviceSection.translate_eq_error he
  obtain ⟨-, reason', rfl⟩ := DeviceSection.translate_eq_error he'
  rw [hfailure'] at hfailure
  exact hne (DeviceSection.id_eq_of_place (CommandFailure.validation.inj hfailure).1)

section

variable (default : String) (hbs : c.bridgeConfigs o.env = .ok bs)
  (hs₀ : bs.foldlM (addBridge o.certificateFault) ⟨.new o.wire world c.registry, []⟩ = .ok s₀)

include hbs hs₀

theorem start_of_error (he : c.deviceConfigs = .error e) :
    start o default c world = .error (.ofConfig default e) := by
  simp only [start, hbs, hs₀, he, bind, Except.bind]

/-- The last record of the start is about no device. -/
theorem start_of_ok {ds : List DeviceConfig} (hds : c.deviceConfigs = .ok ds) :
    ∃ s, start o default c world = .ok s ∧
      ∀ device, AgreeOn device s (ds.foldl addDevice s₀) := by
  simp only [start, hbs, hs₀, hds, bind, Except.bind]
  refine ⟨_, rfl, fun device => ⟨.refl _ _, ?_⟩⟩
  simp [recordsOf, noted, LogRecord.device?, LogRecord.info, Dict.ofList, Dict.get?_insert, Dict.get?]

/-- Alone, a section of which no device can be made fails the start with its own fault. -/
theorem start_only_of_error (he : x.translate c.defaults = .error e) :
    start o default (c.only x) world = .error (.ofConfig default e) := by
  refine start_of_error default (c := c.only x) hbs hs₀ ?_
  simp [Configuration.deviceConfigs, Configuration.only, he, bind, Except.bind]

/-- Alone, a section of which a device can be made fares as that device does. -/
theorem start_only_of_ok (hd : x.translate c.defaults = .ok d) :
    ∃ s, start o default (c.only x) world = .ok s ∧
      ∀ device, AgreeOn device s (s₀.addDevice d) := by
  have hds : (c.only x).deviceConfigs = .ok [d] := by
    simp [Configuration.deviceConfigs, Configuration.only, hd, bind, Except.bind, pure, Except.pure]
  exact start_of_ok default (c := c.only x) hbs hs₀ hds

/-- When devices can be made of all sections, a section fares as it does alone. -/
theorem sameOutcome_of_made {before after : List DeviceSection} {ds ds' : List DeviceConfig}
    (hown : ∀ y ∈ before ++ after, y.id ≠ x.id)
    (hbefore : before.mapM (·.translate c.defaults) = .ok ds)
    (hafter : after.mapM (·.translate c.defaults) = .ok ds')
    (hd : x.translate c.defaults = .ok d) (hall : c.deviceConfigs = .ok (ds ++ d :: ds')) :
    SameOutcome x.id (start o default c world) (start o default (c.only x) world) := by
  obtain ⟨s, hs, hagree⟩ := start_of_ok default hbs hs₀ hall
  obtain ⟨s', hs', hagree'⟩ := start_only_of_ok default hbs hs₀ hd
  have hid : d.identity.device = x.id := by rw [Configuration.translate_identity hd]
  have hids {l : List DeviceSection} {l' : List DeviceConfig}
      (h : l.mapM (·.translate c.defaults) = .ok l') :
      l'.map (·.identity.device) = l.map (·.id) :=
    map_eq_of_mapM h fun y z hz => by rw [Configuration.translate_identity hz]
  have hothers : ∀ z ∈ ds ++ ds', z.identity.device ≠ d.identity.device := by
    intro z hz
    have hmem : z.identity.device ∈ (before ++ after).map (·.id) := by
      rw [List.map_append, ← hids hbefore, ← hids hafter, ← List.map_append]
      exact List.mem_map_of_mem hz
    obtain ⟨y, hy, heq⟩ := List.mem_map.1 hmem
    rw [hid, ← heq]
    exact hown y hy
  have hamong := agreeOn_among (s := s₀) ⟨c.registry, changes_addBridges hs₀⟩ hothers
  rw [hs, hs']
  rw [hid] at hamong
  exact .started (((hagree x.id).trans hamong).trans (hagree' x.id).symm)

end

/-- For a configuration whose bridges can all be made and are taken in, and for a section with an id of
its own: what the start comes to for it is what it would come to without the other sections, exactly
when devices can be made of all sections before it and, if one can be made of it, of all sections after
it. It makes no difference what else is wrong with these. If there is a section of which no device can
be made, the start fails with the fault of such a section, and nothing is logged of any device. -/
theorem start_section (o : Outside τ) (default : String) (c : Configuration) (world : τ)
    (hbs : c.bridgeConfigs o.env = .ok bs)
    (hs₀ : bs.foldlM (addBridge o.certificateFault) ⟨.new o.wire world c.registry, []⟩ = .ok s₀)
    {before after : List DeviceSection}
    (hdevices : c.devices = before ++ x :: after) (hown : ∀ y ∈ before ++ after, y.id ≠ x.id) :
    (SameOutcome x.id (start o default c world) (start o default (c.only x) world) ↔
      (∀ y ∈ before, y.isMade = true) ∧ (x.isMade = true → ∀ y ∈ after, y.isMade = true)) ∧
    ((∃ y ∈ c.devices, y.isMade = false) → ∃ y ∈ c.devices, ∃ e,
      y.translate c.defaults = .error e ∧
        start o default c world = .error (.ofConfig default e) ∧
        ∀ r ∈ logOfFailure o c world, r.device? = none) := by
  have hall : c.deviceConfigs = (before ++ x :: after).mapM (·.translate c.defaults) := by
    rw [Configuration.deviceConfigs, hdevices]
  have hothers := List.forall_mem_append.1 hown
  have halone : ∀ failure, start o default (c.only x) world = .error failure →
      ∃ e, x.translate c.defaults = .error e ∧ failure = .ofConfig default e := by
    intro failure hfailure
    cases hx : x.translate c.defaults with
    | error e =>
      rw [start_only_of_error default hbs hs₀ hx] at hfailure
      exact ⟨e, rfl, (Except.error.inj hfailure).symm⟩
    | ok d =>
      obtain ⟨s, hs, -⟩ := start_only_of_ok default hbs hs₀ hx
      rw [hs] at hfailure
      cases hfailure
  refine ⟨?_, fun ⟨y, hy, hfault⟩ => ?_⟩
  · cases hbefore : before.mapM (·.translate c.defaults) with
    | error e =>
      obtain ⟨y, hy, he⟩ := exists_of_mapM_eq_error hbefore
      rw [start_of_error default hbs hs₀ (hall.trans (mapM_append_of_error hbefore _))]
      refine iff_of_false (not_sameOutcome_of_fault (hothers.1 y hy) he halone) fun hmade => ?_
      exact Bool.false_ne_true ((DeviceSection.translate_eq_error he).1.symm.trans (hmade.1 y hy))
    | ok ds =>
      have hfirst := DeviceSection.isMade_of_mapM hbefore
      rw [mapM_append_of_ok hbefore, List.mapM_cons] at hall
      cases hx : x.translate c.defaults with
      | error e =>
        -- the section itself decides, with or without others
        rw [hx] at hall
        rw [start_of_error default hbs hs₀ hall, start_only_of_error default hbs hs₀ hx]
        have hnot : ¬x.isMade = true := by simp [(DeviceSection.translate_eq_error hx).1]
        exact iff_of_true (.failed _) ⟨hfirst, fun h => absurd h hnot⟩
      | ok d =>
        have hmade : x.isMade = true := DeviceSection.isMade_iff.2 ⟨d, hx⟩
        rw [hx] at hall
        cases hafter : after.mapM (·.translate c.defaults) with
        | error e =>
          obtain ⟨y, hy, he⟩ := exists_of_mapM_eq_error hafter
          rw [hafter] at hall
          rw [start_of_error default hbs hs₀ hall]
          refine iff_of_false (not_sameOutcome_of_fault (hothers.2 y hy) he halone) fun h => ?_
          exact Bool.false_ne_true
            ((DeviceSection.translate_eq_error he).1.symm.trans (h.2 hmade y hy))
        | ok ds' =>
          rw [hafter] at hall
          exact iff_of_true (sameOutcome_of_made default hbs hs₀ hown hbefore hafter hx hall)
            ⟨hfirst, fun _ => DeviceSection.isMade_of_mapM hafter⟩
  · cases hmade : c.deviceConfigs with
    | ok ds =>
      rw [DeviceSection.isMade_of_mapM hmade y hy] at hfault
      cases hfault
    | error e =>
      obtain ⟨z, hz, he⟩ := exists_of_mapM_eq_error hmade
      exact ⟨z, hz, e, he, start_of_error default hbs hs₀ hmade,
        fun _ => device?_of_mem_logOfFailure⟩

/-! ## Two washers -/

/-- A washer that is in order and a second one. -/
def washersWith (second : DeviceSection) : Configuration :=
  { Configuration.washers "w2" with devices := [Configuration.washerSection "w1", second] }

/-- A washer without a path, which the hub refuses. -/
def pathless : DeviceSection := { Configuration.washerSection "w2" with path := "" }

/-- A washer with an envelope that there is not. -/
def misnamed : DeviceSection :=
  { Configuration.washerSection "w2" with envelope := some (.builtin "zz") }

/-- The bridge of the washers is taken in. -/
theorem washersWith_bridges (second : DeviceSection) : ∃ (bs : List BridgeConfig) (s₀ : Service Unit),
    (washersWith second).bridgeConfigs [] = .ok bs ∧
      bs.foldlM (addBridge Hub.noCertificate) ⟨.new .silent () (washersWith second).registry, []⟩ =
        .ok s₀ := by
  let b := Hub.serverBridge (.bearer "t") .system
  have hbs : (washersWith second).bridgeConfigs [] = .ok [b] := by
    have hwashers : (Configuration.washers "").bridgeConfigs [] = .ok [b] := by decide +kernel
    exact hwashers
  have hvalid : b.validate = .ok () := Hub.validate_of_fault? (by decide +kernel)
  rcases addBridges_cases Hub.noCertificate ⟨.new .silent () (washersWith second).registry, []⟩
      (List.forall_mem_singleton.2 hvalid) with ⟨-, s₀, hs₀⟩ | ⟨b', hb', e, he, -⟩
  · exact ⟨[b], s₀, hbs, hs₀⟩
  · rw [List.mem_singleton.1 hb'] at he
    cases he

/-- A washer that the hub refuses does not stop the other. -/
theorem start_section_pathless :
    SameOutcome "w1" (start (outside Hub.noCertificate) "" (washersWith pathless) ())
      (start (outside Hub.noCertificate) ""
        ((washersWith pathless).only (Configuration.washerSection "w1")) ()) := by
  obtain ⟨bs, s₀, hbs, hs₀⟩ := washersWith_bridges pathless
  have hdevices : (washersWith pathless).devices =
      [] ++ Configuration.washerSection "w1" :: [pathless] := rfl
  have hown : ∀ y ∈ [] ++ [pathless], y.id ≠ (Configuration.washerSection "w1").id := by
    simp [pathless, Configuration.washerSection]
  have hsame := (start_section (outside Hub.noCertificate) "" _ () hbs hs₀ hdevices hown).1
  exact hsame.2 ⟨by simp, fun _ => List.forall_mem_singleton.2 rfl⟩

/-- A washer with an envelope that there is not stops the other, which starts when it is alone. -/
theorem start_stopped :
    let c := washersWith misnamed
    let o := outside Hub.noCertificate
    let x := Configuration.washerSection "w1"
    (∃ bs s₀, c.bridgeConfigs o.env = .ok bs ∧
      bs.foldlM (addBridge o.certificateFault) ⟨.new o.wire () c.registry, []⟩ = .ok s₀) ∧
    c.devices = [x, misnamed] ∧ misnamed.id ≠ x.id ∧
    start o "" c () =
      .error (.validation "devices.w2.envelope" "unknown envelope 'zz'") ∧
    (∃ s, start o "" (c.only x) () = .ok s ∧ (s.run.hub.ownTask? x.id).isSome = true) ∧
    ¬SameOutcome x.id (start o "" c ()) (start o "" (c.only x) ()) := by
  intro c o x
  obtain ⟨bs, s₀, hbs, hs₀⟩ := washersWith_bridges misnamed
  have hstopped : start o "" c () =
      .error (.validation "devices.w2.envelope" "unknown envelope 'zz'") :=
    start_of_error "" (c := c) (o := o) hbs hs₀ rfl
  have halone : ((start o "" (c.only x) ()).toOption.bind fun s =>
      s.run.hub.ownTask? x.id).isSome = true := by decide +kernel
  cases hs : start o "" (c.only x) () with
  | error e => rw [hs] at halone; cases halone
  | ok s =>
    rw [hs] at halone
    refine ⟨⟨bs, s₀, hbs, hs₀⟩, rfl, by decide, hstopped, ⟨s, rfl, halone⟩, ?_⟩
    rw [hstopped]
    nofun

end Command.Service

end DeviceHub
