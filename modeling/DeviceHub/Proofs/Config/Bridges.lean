import DeviceHub.Command.Run
import DeviceHub.Proofs.Config.Checked
import DeviceHub.Proofs.Hub.Registration

/-!
# Starting with a checked configuration

A configuration in order has everything that polling needs, except what only the file system can tell:
a check does not open the files of certificates. Taking a bridge in does, and a bridge that is refused
ends the command.

* `register_of_valid`: what a hub answers to a bridge in order.
* `addBridges_cases`: all bridges are taken in, or one is refused for its certificate.
* `start_of_check`: a checked configuration starts exactly when all certificates can be read.
* `start_without_certificate`: a checked configuration that does not start.
-/
namespace DeviceHub

/-! ## Taking bridges in -/

/-- A hub takes a bridge in order in, unless connections to it cannot be made. -/
theorem Hub.register_of_valid {κ : Type} (h : Hub κ) (fault : CertificateFault) {b : BridgeConfig}
    (hvalid : b.validate = .ok ()) :
    (h.register fault b).1 = (b.transport.check fault).mapError HubError.request := by
  cases hcheck : b.transport.check fault with
  | ok u => simp only [register, hvalid, hcheck, ite_self, Except.mapError]
  | error e => simp only [register_of_check hvalid hcheck, Except.mapError]

namespace Command.Service

variable {τ : Type} {fault : CertificateFault} {s : Service τ} {b : BridgeConfig}

theorem addBridge_of_ok (h : (s.run.hub.register fault b).1 = .ok ()) :
    ∃ s', s.addBridge fault b = .ok s' := by
  rcases hregister : s.run.hub.register fault b with ⟨answer, hub⟩
  rw [hregister] at h
  cases h
  simp only [addBridge, HubRun.apply, hregister]
  exact ⟨_, rfl⟩

theorem addBridge_of_error {e : HubError} (h : (s.run.hub.register fault b).1 = .error e) :
    s.addBridge fault b = .error (.ofHub e) := by
  rcases hregister : s.run.hub.register fault b with ⟨answer, hub⟩
  rw [hregister] at h
  cases h
  simp only [addBridge, HubRun.apply, hregister]

/-- By induction on the bridges: those before the first that is refused have been taken in, which
makes no difference to it. -/
theorem addBridges_cases (fault : CertificateFault) (s : Service τ) {bs : List BridgeConfig}
    (hvalid : ∀ b ∈ bs, b.validate = .ok ()) :
    ((∀ b ∈ bs, b.transport.check fault = .ok ()) ∧ ∃ s', bs.foldlM (addBridge fault) s = .ok s') ∨
      ∃ b ∈ bs, ∃ e, b.transport.check fault = .error e ∧
        bs.foldlM (addBridge fault) s = .error (.ofHub (.request e)) := by
  induction bs generalizing s with
  | nil => exact .inl ⟨by simp, s, rfl⟩
  | cons b rest ih =>
    have hregister := s.run.hub.register_of_valid fault (hvalid b List.mem_cons_self)
    rw [List.foldlM_cons]
    cases hcheck : b.transport.check fault with
    | error e =>
      rw [hcheck] at hregister
      refine .inr ⟨b, List.mem_cons_self, e, hcheck, ?_⟩
      rw [addBridge_of_error hregister]
      rfl
    | ok u =>
      rw [hcheck] at hregister
      obtain ⟨s', hs'⟩ := addBridge_of_ok hregister
      have hstep : (s.addBridge fault b >>= fun s => rest.foldlM (addBridge fault) s) =
          rest.foldlM (addBridge fault) s' := by
        rw [hs']
        rfl
      rw [hstep]
      rcases ih s' (fun b hb => hvalid b (List.mem_cons_of_mem _ hb)) with
        ⟨hall, hok⟩ | ⟨b', hb', e, he, herror⟩
      · exact .inl ⟨List.forall_mem_cons.2 ⟨hcheck, hall⟩, hok⟩
      · exact .inr ⟨b', List.mem_cons_of_mem _ hb', e, he, herror⟩

end Command.Service

/-! ## What a check promises -/

namespace Configuration

variable {c : Configuration} {env : Environment}

/-- The bridges of a checked configuration can be made and are in order. -/
theorem bridgeConfigs_of_check (hcheck : c.check env = .ok ()) :
    ∃ bs, c.bridgeConfigs env = .ok bs ∧ ∀ b ∈ bs, b.validate = .ok () := by
  obtain ⟨hbridges, -⟩ := check_eq_ok.1 hcheck
  have hmade : ∀ e ∈ c.bridges, ∃ b, e.2.translate c.defaults e.1 env = .ok b :=
    fun e he => (checkBridge_eq_ok.1 (hbridges e he)).imp fun b hb => hb.1
  obtain ⟨bs, hbs⟩ := exists_mapM_eq_ok hmade
  refine ⟨bs, hbs, (forall_mem_iff_of_mapM hbs fun e b hmake => ?_).1 hbridges⟩
  rw [checkBridge_eq_ok]
  constructor
  · rintro ⟨b', hmake', hvalid⟩
    rw [hmake] at hmake'
    cases hmake'
    exact hvalid
  · exact fun hvalid => ⟨b, hmake, hvalid⟩

/-- So can its devices. -/
theorem deviceConfigs_of_check (hcheck : c.check env = .ok ()) :
    ∃ ds, c.deviceConfigs = .ok ds := by
  obtain ⟨-, -, -, hdevices⟩ := check_eq_ok.1 hcheck
  refine exists_mapM_eq_ok fun s hs => ?_
  obtain ⟨-, -, d, hd, -⟩ := checkDevice_eq_ok.1 (hdevices s hs)
  exact ⟨d, hd⟩

end Configuration

namespace Command

variable {τ : Type} {o : Outside τ} {c : Configuration} {bs : List BridgeConfig}

/-- Once bridges and devices can be made, only the bridges decide whether the command starts. -/
theorem Service.start_cases (default : String) (world : τ) {ds : List DeviceConfig}
    (hbs : c.bridgeConfigs o.env = .ok bs) (hds : c.deviceConfigs = .ok ds)
    (hvalid : ∀ b ∈ bs, b.validate = .ok ()) :
    ((∀ b ∈ bs, b.transport.check o.certificateFault = .ok ()) ∧
        ∃ s, start o default c world = .ok s) ∨
      ∃ b ∈ bs, ∃ e, b.transport.check o.certificateFault = .error e ∧
        start o default c world = .error (.ofHub (.request e)) := by
  rcases addBridges_cases o.certificateFault ⟨.new o.wire world c.registry, []⟩ hvalid with
    ⟨hall, s, hs⟩ | ⟨b, hb, e, he, herror⟩
  · refine .inl ⟨hall, ?_⟩
    simp only [start, hbs, hds, hs, bind, Except.bind]
    exact ⟨_, rfl⟩
  · refine .inr ⟨b, hb, e, he, ?_⟩
    simp only [start, hbs, herror, bind, Except.bind]

/-- The bridges of a configuration in order can be made, and a hub refuses one of them, whatever it has
already, only for the certificate. So the command starts exactly when all certificates can be read;
else it ends with what is wrong with one of them. -/
theorem start_of_check (o : Outside τ) (default : String) (c : Configuration) (world : τ)
    (hcheck : c.check o.env = .ok ()) :
    ∃ bs, c.bridgeConfigs o.env = .ok bs ∧
      (∀ b ∈ bs, ∀ (κ : Type) (h : Hub κ), (h.register o.certificateFault b).1 =
        (b.transport.check o.certificateFault).mapError HubError.request) ∧
      ((∃ s, Service.start o default c world = .ok s) ↔
        ∀ b ∈ bs, b.transport.check o.certificateFault = .ok ()) ∧
      ∀ failure, Service.start o default c world = .error failure →
        ∃ b ∈ bs, ∃ e, b.transport.check o.certificateFault = .error e ∧
          failure = .ofHub (.request e) := by
  obtain ⟨bs, hbs, hvalid⟩ := Configuration.bridgeConfigs_of_check hcheck
  obtain ⟨ds, hds⟩ := Configuration.deviceConfigs_of_check hcheck
  refine ⟨bs, hbs, fun b hb κ h => h.register_of_valid _ (hvalid b hb), ?_, ?_⟩
  · rcases Service.start_cases default world hbs hds hvalid with
      ⟨hall, hstarts⟩ | ⟨b, hb, e, he, herror⟩
    · exact ⟨fun _ => hall, fun _ => hstarts⟩
    · constructor
      · rintro ⟨s, hs⟩
        rw [herror] at hs
        cases hs
      · intro hall
        rw [hall b hb] at he
        cases he
  · intro failure hfailure
    rcases Service.start_cases default world hbs hds hvalid with
      ⟨-, s, hs⟩ | ⟨b, hb, e, he, herror⟩
    · rw [hs] at hfailure
      cases hfailure
    · rw [herror] at hfailure
      cases hfailure
      exact ⟨b, hb, e, he, rfl⟩

/-! ## A certificate that is not there -/

/-- A configuration with one bridge and the certificate of an authority. -/
def certified : Configuration :=
  { Configuration.empty with
    bridges := [("hub", Configuration.tokenSection (some "/nonexistent/ca.pem"))] }

/-- A world without environment variables in which certificates are as said. -/
def outside (fault : CertificateFault) : Outside Unit :=
  ⟨[], fun _ => none, fault, .silent, .epoch⟩

/-- With a certificate that can be read the command starts. -/
theorem start_of_check_certified :
    certified.check [] = .ok () ∧
      ∃ s, Service.start (outside fun _ => none) "" certified () = .ok s := by
  have hcheck : certified.check [] = .ok () := by decide +kernel
  refine ⟨hcheck, ?_⟩
  obtain ⟨bs, -, -, hstarts, -⟩ := start_of_check (outside fun _ => none) "" certified () hcheck
  refine hstarts.2 fun b _ => ?_
  unfold Transport.check
  split <;> rfl

/-- The same configuration is in order when the certificate is not there, but the bridge is refused and
the command does not start. -/
theorem start_without_certificate :
    let b := Hub.serverBridge (.bearer "t") (.authority "/nonexistent/ca.pem")
    certified.check [] = .ok () ∧ certified.bridgeConfigs [] = .ok [b] ∧
      ((Hub.new certified.registry : Hub Empty).register Hub.noCertificate b).1 =
        .error (.request (.tls "failed to read CA cert")) ∧
      ∃ failure, Service.start (outside Hub.noCertificate) "" certified () = .error failure := by
  intro b
  have hbs : certified.bridgeConfigs [] = .ok [b] := by decide +kernel
  have hvalid : b.validate = .ok () := Hub.validate_of_fault? (by decide +kernel)
  refine ⟨by decide +kernel, hbs, Hub.register_of_valid _ _ hvalid, ?_⟩
  rcases Service.start_cases (o := outside Hub.noCertificate) (c := certified) "" () hbs rfl
      (List.forall_mem_singleton.2 hvalid) with ⟨hall, -⟩ | ⟨_, _, _, _, herror⟩
  · cases hall b List.mem_cons_self
  · exact ⟨_, herror⟩

end Command

end DeviceHub
