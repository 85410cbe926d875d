import DeviceHub.Proofs.Config.Checked
import DeviceHub.Proofs.Hub.History
import DeviceHub.Proofs.Hub.Registration

/-!
# Checked devices and devices taken in

A check of a configuration and a hub judge the same devices apart from each other. The check looks at
the whole configuration and stops at the first fault. The hub gets one device after the other, goes on
after a refusal, and has to go by what it already has: an id is taken when a device before it has it.

* `registerAll_eq_ok`: what a hub is after bridges were taken in.
* `enrollAll_eq_ok`: which devices a hub takes in one after the other.
* `begun_enrollAll`: devices that were all taken in have a poll task and a clean health.
* `check_iff_enrolled`: a configuration is in order exactly when the hub takes all its devices in.
-/
namespace DeviceHub

namespace Hub

variable {κ : Type}

/-! ## Bridges -/

/-- Takes bridges in, until one is refused. -/
def registerAll (fault : CertificateFault) (h : Hub κ) :
    List BridgeConfig → Except HubError (Hub κ)
  | [] => .ok h
  | b :: rest =>
    match h.register fault b with
    | (.ok (), h) => h.registerAll fault rest
    | (.error e, _) => .error e

variable {fault : CertificateFault} {h h' : Hub κ} {b : BridgeConfig}

/-- A bridge that was taken in is in order and has a client now, and devices are as they were. -/
theorem contains_clients_of_register (hregister : h.register fault b = (.ok (), h')) :
    b.validate = .ok () ∧ h'.devices = h.devices ∧ h'.schemas = h.schemas ∧
      h'.isShutDown = h.isShutDown ∧
      ∀ name, h'.clients.contains name = true ↔ name = b.id ∨ h.clients.contains name = true := by
  obtain ⟨hvalid, hafter⟩ := register_eq_ok (congrArg Prod.fst hregister)
  obtain rfl := (congrArg Prod.snd hregister).symm.trans hafter
  refine ⟨hvalid, rfl, rfl, rfl, fun name => ?_⟩
  simp only [attach, withSource, Dict.contains, Dict.get?_insert]
  by_cases hname : b.id = name
  · simp [hname]
  · simp [hname, Ne.symm hname]

/-- By induction on the bridges. -/
theorem registerAll_eq_ok {bs : List BridgeConfig} (hall : h.registerAll fault bs = .ok h') :
    (∀ b ∈ bs, b.validate = .ok ()) ∧ h'.devices = h.devices ∧ h'.schemas = h.schemas ∧
      h'.isShutDown = h.isShutDown ∧ ∀ name, h'.clients.contains name = true ↔
        name ∈ bs.map (·.id) ∨ h.clients.contains name = true := by
  induction bs generalizing h with
  | nil =>
    cases hall
    simp
  | cons b rest ih =>
    unfold registerAll at hall
    split at hall
    · next h₁ hregister =>
      obtain ⟨hb, hdevices, hschemas, hshut, hclients⟩ :=
        contains_clients_of_register hregister
      obtain ⟨hrest, hdevices', hschemas', hshut', hclients'⟩ := ih hall
      refine ⟨List.forall_mem_cons.2 ⟨hb, hrest⟩, hdevices'.trans hdevices,
        hschemas'.trans hschemas, hshut'.trans hshut, fun name => ?_⟩
      rw [hclients', hclients, List.map_cons, List.mem_cons]
      tauto
    · cases hall

/-! ## Devices -/

/-- Takes devices in, whatever becomes of those before; the answers, and the hub after all. -/
def enrollAll (h : Hub κ) : List DeviceConfig → List (Except HubError Unit) × Hub κ
  | [] => ([], h)
  | d :: rest =>
    let (answer, h) := h.enroll d
    let (answers, h) := h.enrollAll rest
    (answer :: answers, h)

/-- A device's configuration is in order when the device is, and its bridge and its type are there. -/
theorem exists_prepare_eq_ok {d : DeviceConfig} :
    (∃ t, h.prepare d = .ok t) ↔ (∃ seconds, d.validate = .ok seconds) ∧
      h.clients.contains d.identity.bridge = true ∧
      h.schemas.contains d.identity.deviceType = true := by
  simp only [prepare, resolve, bind_eq_ok, Dict.contains]
  cases h.clients.get? d.identity.bridge with
  | none => simp
  | some client => cases h.schemas.get? d.identity.deviceType <;> simp

/-- A device is taken in when its id is new and its configuration in order. -/
theorem enroll_eq_ok (hrunning : h.isShutDown = false) {d : DeviceConfig} :
    (h.enroll d).1 = .ok () ↔
      h.devices.contains d.identity.device = false ∧ ∃ t, h.prepare d = .ok t := by
  unfold enroll
  cases hdevice : h.devices.contains d.identity.device with
  | true => simp [hrunning, hdevice]
  | false => cases hprepare : h.prepare d <;> simp [hrunning, hdevice]

theorem enroll_eq_accept (hrunning : h.isShutDown = false) {d : DeviceConfig} {t : PollTask κ}
    (hdevice : h.devices.contains d.identity.device = false) (ht : h.prepare d = .ok t) :
    h.enroll d = (.ok (), h.accept d t) := by
  simp only [enroll, hrunning, hdevice, ht, Bool.false_eq_true, if_false]

theorem enrollAll_cons {d : DeviceConfig} {ds : List DeviceConfig} :
    (∀ r ∈ (h.enrollAll (d :: ds)).1, r = .ok ()) ↔
      (h.enroll d).1 = .ok () ∧ ∀ r ∈ ((h.enroll d).2.enrollAll ds).1, r = .ok () := by
  simp only [enrollAll, List.forall_mem_cons]

theorem contains_accept {d : DeviceConfig} {t : PollTask κ} {device : String} :
    (h.accept d t).devices.contains device = true ↔
      d.identity.device = device ∨ h.devices.contains device = true := by
  rw [Dict.contains, get?_devices_accept]
  by_cases hdevice : d.identity.device = device <;> simp [hdevice, Dict.contains]

/-- By induction on the devices: one that is taken in leaves bridges and types as they are, and makes
its own id known. -/
theorem enrollAll_eq_ok (hrunning : h.isShutDown = false) {ds : List DeviceConfig} :
    (∀ r ∈ (h.enrollAll ds).1, r = .ok ()) ↔
      (∀ d ∈ ds, h.devices.contains d.identity.device = false) ∧
        (ds.map (·.identity.device)).Nodup ∧ ∀ d ∈ ds, ∃ t, h.prepare d = .ok t := by
  induction ds generalizing h with
  | nil => simp [enrollAll]
  | cons d rest ih =>
    rw [enrollAll_cons, enroll_eq_ok hrunning, List.forall_mem_cons, List.forall_mem_cons,
      List.map_cons, List.nodup_cons, List.mem_map]
    constructor
    · rintro ⟨⟨hdevice, t, ht⟩, hall⟩
      rw [enroll_eq_accept hrunning hdevice ht] at hall
      obtain ⟨hnew, hnodup, hprepared⟩ := (ih (h := h.accept d t) hrunning).1 hall
      have hother : ∀ x ∈ rest,
          d.identity.device ≠ x.identity.device ∧ h.devices.contains x.identity.device = false := by
        intro x hx
        simpa [← Bool.not_eq_true, contains_accept] using hnew x hx
      refine ⟨⟨hdevice, fun x hx => (hother x hx).2⟩, ⟨?_, hnodup⟩, ⟨t, ht⟩, hprepared⟩
      rintro ⟨x, hx, heq⟩
      exact (hother x hx).1 heq.symm
    · rintro ⟨⟨hdevice, hnew⟩, ⟨hother, hnodup⟩, ⟨t, ht⟩, hprepared⟩
      refine ⟨⟨hdevice, t, ht⟩, ?_⟩
      rw [enroll_eq_accept hrunning hdevice ht]
      refine (ih (h := h.accept d t) hrunning).2 ⟨fun x hx => ?_, hnodup, hprepared⟩
      have hne : d.identity.device ≠ x.identity.device := fun heq => hother ⟨x, hx, heq.symm⟩
      simp [← Bool.not_eq_true, contains_accept, hne, hnew x hx]

/-- A device that has a poll task and was never polled. -/
def Begun (h : Hub κ) (device : String) : Prop :=
  Dict.get? h.health device = some .initial ∧
    ∃ n t, h.taskOf? device = some (n, t) ∧ t.identity.device = device

theorem begun_accept {d : DeviceConfig} {t : PollTask κ} (ht : h.prepare d = .ok t) :
    (h.accept d t).Begun d.identity.device := by
  obtain ⟨interval, client, schema, -, -, rfl⟩ := prepare_eq_ok ht
  refine ⟨(h.health.get?_reset _ _).trans (if_pos rfl), h.tasks.length,
    ⟨d.identity, d.request, client, schema, .start interval⟩, ?_, rfl⟩
  simp only [taskOf?, get?_devices_accept, if_pos, Option.bind_eq_bind, Option.bind_some,
    task?_accept]

theorem Begun.accept {device : String} (hbegun : h.Begun device) {d : DeviceConfig}
    (hne : d.identity.device ≠ device) (t : PollTask κ) : (h.accept d t).Begun device := by
  obtain ⟨hhealth, n, u, hu, hdevice⟩ := hbegun
  refine ⟨((h.health.get?_reset _ _).trans (if_neg hne)).trans hhealth, n, u, ?_, hdevice⟩
  unfold taskOf? at hu ⊢
  simp only [Option.bind_eq_bind, Option.bind_eq_some_iff] at hu ⊢
  obtain ⟨entry, hentry, m, hm, v, hv, hvu⟩ := hu
  refine ⟨entry, by rw [get?_devices_accept, if_neg hne, hentry], m, hm, v, ?_, hvu⟩
  rw [task?_accept, if_neg (Nat.ne_of_lt (task?_lt hv)), hv]

/-- By induction on the devices: no other device is taken in under the id of one that has begun. -/
theorem begun_enrollAll (hrunning : h.isShutDown = false) {ds : List DeviceConfig}
    (hall : ∀ r ∈ (h.enrollAll ds).1, r = .ok ()) {device : String}
    (hdevice : h.devices.contains device = true ∧ h.Begun device ∨
      device ∈ ds.map (·.identity.device)) : (h.enrollAll ds).2.Begun device := by
  induction ds generalizing h with
  | nil =>
    rcases hdevice with ⟨-, hbegun⟩ | hmem
    · exact hbegun
    · cases hmem
  | cons d rest ih =>
    obtain ⟨hnew, -, hprepared⟩ := (enrollAll_eq_ok hrunning).1 hall
    obtain ⟨t, ht⟩ := hprepared d List.mem_cons_self
    have hd := hnew d List.mem_cons_self
    have henroll := enroll_eq_accept hrunning hd ht
    have hrest : ∀ r ∈ ((h.accept d t).enrollAll rest).1, r = .ok () := by
      simpa only [henroll] using (enrollAll_cons.1 hall).2
    have hafter : (h.enrollAll (d :: rest)).2 = ((h.accept d t).enrollAll rest).2 := by
      simp only [enrollAll, henroll]
    rw [hafter]
    refine ih hrunning hrest ?_
    rcases hdevice with ⟨hknown, hbegun⟩ | hmem
    · have hne : d.identity.device ≠ device := by
        rintro rfl
        rw [hd] at hknown
        cases hknown
      exact .inl ⟨contains_accept.2 (.inr hknown), hbegun.accept hne t⟩
    · rcases List.mem_cons.1 hmem with rfl | hmem
      · exact .inl ⟨contains_accept.2 (.inl rfl), begun_accept ht⟩
      · exact .inr hmem

end Hub

/-! ## Configurations -/

namespace Configuration

variable {c : Configuration} {env : Environment}

theorem translate_id {s : BridgeSection} {d : Defaults} {name : String} {b : BridgeConfig}
    (h : s.translate d name env = .ok b) : b.id = name := by
  unfold BridgeSection.translate at h
  simp only [bind_eq_ok, Except.ok.injEq] at h
  obtain ⟨_, _, _, _, rfl⟩ := h
  rfl

theorem translate_identity {s : DeviceSection} {d : Defaults} {device : DeviceConfig}
    (h : s.translate d = .ok device) : device.identity = ⟨s.bridge, s.id, s.deviceType⟩ := by
  unfold DeviceSection.translate at h
  simp only [bind_eq_ok, Except.ok.injEq] at h
  obtain ⟨_, _, rfl⟩ := h
  rfl

/-- The bridges have the names under which they stand. -/
theorem bridgeConfigs_ids {bs : List BridgeConfig} (hbs : c.bridgeConfigs env = .ok bs) :
    bs.map (·.id) = c.bridges.keys :=
  map_eq_of_mapM hbs fun _ _ hb => translate_id hb

theorem deviceConfigs_ids {ds : List DeviceConfig} (hds : c.deviceConfigs = .ok ds) :
    ds.map (·.identity.device) = c.devices.map (·.id) :=
  map_eq_of_mapM hds fun s d hd => by rw [translate_identity hd]

/-- Bridges that a hub takes in are in order. -/
theorem checkBridge_of_valid {bs : List BridgeConfig} (hbs : c.bridgeConfigs env = .ok bs)
    (hvalid : ∀ b ∈ bs, b.validate = .ok ()) :
    ∀ e ∈ c.bridges, c.checkBridge env e.1 e.2 = .ok () :=
  (forall_mem_iff_of_mapM hbs fun e b hb => by simp [checkBridge_eq_ok, hb]).2 hvalid

/-- Devices are in order exactly when a hub with the same bridges and types can prepare them. -/
theorem checkDevice_iff_prepare {κ : Type} {h : Hub κ} {ds : List DeviceConfig}
    (hds : c.deviceConfigs = .ok ds) (hschemas : h.schemas = c.registry)
    (hclients : ∀ name, h.clients.contains name = true ↔ c.bridges.contains name = true) :
    (∀ s ∈ c.devices, c.checkDevice s = .ok ()) ↔ ∀ d ∈ ds, ∃ t, h.prepare d = .ok t := by
  refine forall_mem_iff_of_mapM hds fun s d hd => ?_
  rw [checkDevice_eq_ok, Hub.exists_prepare_eq_ok, hclients, hschemas, translate_identity hd, hd]
  simp only [Except.ok.injEq, exists_eq_left']
  tauto

/-- For a configuration whose bridges a new hub takes in, and whose device types have fields: it is in
order exactly when its devices can be made and the hub takes them in one after the other. Each of them
then has a poll task, and no fault is noted in its health. -/
theorem check_iff_enrolled {κ : Type} (c : Configuration) (env : Environment)
    (fault : CertificateFault) {bs : List BridgeConfig} {h : Hub κ}
    (hbs : c.bridgeConfigs env = .ok bs)
    (hregistered : (Hub.new c.registry).registerAll fault bs = .ok h)
    (htypes : ∀ e ∈ c.deviceTypes, e.2.fields ≠ []) :
    (c.check env = .ok () ↔
      ∃ ds, c.deviceConfigs = .ok ds ∧ ∀ r ∈ (h.enrollAll ds).1, r = .ok ()) ∧
    ∀ ds, c.deviceConfigs = .ok ds → (∀ r ∈ (h.enrollAll ds).1, r = .ok ()) →
      ∀ s ∈ c.devices, (h.enrollAll ds).2.Begun s.id := by
  obtain ⟨hvalid, hdevices, hschemas, hshut, hclients⟩ := Hub.registerAll_eq_ok hregistered
  have hrunning : h.isShutDown = false := hshut
  have hknown : ∀ name, h.clients.contains name = true ↔ c.bridges.contains name = true := by
    intro name
    rw [hclients, bridgeConfigs_ids hbs, ← Dict.contains_iff_mem_keys]
    simp [Hub.new, Dict.contains, Dict.get?]
  have hnone : ∀ device, h.devices.contains device = false := fun device => by rw [hdevices]; rfl
  -- what the check asks beyond bridges and types is what the hub asks
  have hagree : ∀ ds, c.deviceConfigs = .ok ds → ((∀ r ∈ (h.enrollAll ds).1, r = .ok ()) ↔
      (c.devices.map (·.id)).Nodup ∧ ∀ s ∈ c.devices, c.checkDevice s = .ok ()) := by
    intro ds hds
    rw [Hub.enrollAll_eq_ok hrunning, deviceConfigs_ids hds,
      checkDevice_iff_prepare hds hschemas hknown]
    simp [hnone]
  refine ⟨?_, fun ds hds hall s hs => ?_⟩
  · rw [check_eq_ok]
    constructor
    · rintro ⟨-, -, hnodup, hchecked⟩
      have hmade : ∀ s ∈ c.devices, ∃ d, s.translate c.defaults = .ok d := by
        intro s hs
        obtain ⟨-, -, d, hd, -⟩ := checkDevice_eq_ok.1 (hchecked s hs)
        exact ⟨d, hd⟩
      obtain ⟨ds, hds⟩ := exists_mapM_eq_ok hmade
      exact ⟨ds, hds, (hagree ds hds).2 ⟨hnodup, hchecked⟩⟩
    · rintro ⟨ds, hds, hall⟩
      exact ⟨checkBridge_of_valid hbs hvalid, htypes, (hagree ds hds).1 hall⟩
  · refine Hub.begun_enrollAll hrunning hall (.inr ?_)
    rw [deviceConfigs_ids hds]
    exact List.mem_map.2 ⟨s, hs, rfl⟩

/-- A washer on a bridge, polled as often as usual. -/
def washerSection (id : String) : DeviceSection :=
  ⟨id, "hub", "washer", none, "devices/\x7bdevice\x7d", .get, none, .json, none⟩

/-- Two washers. -/
def washers (second : String) : Configuration :=
  { Configuration.empty with
    bridges := [("hub", tokenSection none)]
    devices := [washerSection "w1", washerSection second] }

theorem washers_registered (second : String) : ∃ (bs : List BridgeConfig) (h : Hub Empty),
    (washers second).bridgeConfigs [] = .ok bs ∧
      (Hub.new (washers second).registry).registerAll Hub.noCertificate bs = .ok h := by
  let b := Hub.serverBridge (.bearer "t") .system
  have hbs : (washers "").bridgeConfigs [] = .ok [b] := by decide +kernel
  have hvalid : b.validate = .ok () := Hub.validate_of_fault? (by decide +kernel)
  have hcheck : b.transport.check Hub.noCertificate = .ok () := rfl
  refine ⟨[b], ((Hub.new (washers second).registry).register Hub.noCertificate b).2, hbs, ?_⟩
  simp only [Hub.registerAll, Hub.register, hvalid, hcheck, ite_self]

/-- Washers of different names are in order, and a hub takes both in. Those of one name are not, and it
refuses one. -/
theorem check_iff_enrolled_washers :
    (∃ (h : Hub Empty) (ds : List DeviceConfig),
      (washers "w2").check [] = .ok () ∧ (washers "w2").deviceConfigs = .ok ds ∧
        (∀ r ∈ (h.enrollAll ds).1, r = .ok ()) ∧
        (h.enrollAll ds).2.Begun "w1" ∧ (h.enrollAll ds).2.Begun "w2") ∧
    ∃ (h : Hub Empty) (ds : List DeviceConfig),
      (washers "w1").check [] ≠ .ok () ∧ (washers "w1").deviceConfigs = .ok ds ∧
        ¬∀ r ∈ (h.enrollAll ds).1, r = .ok () := by
  constructor
  · obtain ⟨bs, h, hbs, hregistered⟩ := washers_registered "w2"
    obtain ⟨hiff, hbegun⟩ :=
      check_iff_enrolled (washers "w2") [] _ hbs hregistered (by simp [washers, empty])
    have hcheck : (washers "w2").check [] = .ok () := by decide +kernel
    obtain ⟨ds, hds, hall⟩ := hiff.1 hcheck
    exact ⟨h, ds, hcheck, hds, hall, hbegun ds hds hall (washerSection "w1") (by simp [washers]),
      hbegun ds hds hall (washerSection "w2") (by simp [washers])⟩
  · obtain ⟨bs, h, hbs, hregistered⟩ := washers_registered "w1"
    obtain ⟨hiff, -⟩ :=
      check_iff_enrolled (washers "w1") [] _ hbs hregistered (by simp [washers, empty])
    have hcheck : (washers "w1").check [] ≠ .ok () := by decide +kernel
    have hds : (washers "w1").deviceConfigs = .ok _ := rfl
    exact ⟨h, _, hcheck, hds, fun hall => hcheck (hiff.2 ⟨_, hds, hall⟩)⟩

end Configuration

end DeviceHub
