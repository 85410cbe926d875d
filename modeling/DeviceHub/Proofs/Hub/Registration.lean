import DeviceHub.Hub.Basic

/-!
# Bridges that cannot be taken in

Taking a bridge in has four parts: the bridge is checked, a client for its token endpoint is made if
it has one, its source of credentials takes the place of the one before, and its own client is made.
Both clients are made with the same settings, so a certificate that cannot be loaded is noticed before
anything changes if there is a token endpoint, and only after the source has been replaced if there is
none. The file of a certificate is taken to stay as it is while a bridge is taken in.

* `register_eq_error`: where a registration fails, and what has happened until then.
* `register_eq_ok`: what a bridge has when it was taken in.
* `register_failed`: when a failed registration has changed nothing.
* `register_failed_forgets`: a failed registration that has replaced a source and dropped a credential.
-/
namespace DeviceHub

namespace Hub

variable {κ : Type} {fault : CertificateFault} {h : Hub κ} {b : BridgeConfig} {e : HubError}

/-- The hub with the source of a bridge replaced, and no client for it yet. -/
def withSource (h : Hub κ) (b : BridgeConfig) : Hub κ :=
  { h with refresher := h.refresher.register b.id (b.auth.source b.transport) b.refresh }

theorem validate_of_fault? (hb : b.fault? = none) : b.validate = .ok () := by
  simp only [BridgeConfig.validate, hb]

/-- Without its certificate a bridge that is in order is refused, too late if it has no token
endpoint. -/
theorem register_of_check {cause : RequestError} (hvalid : b.validate = .ok ())
    (hcheck : b.transport.check fault = .error cause) : h.register fault b =
      (.error (.request cause), if b.auth.connects = true then h else h.withSource b) := by
  cases hconnects : b.auth.connects <;> simp [register, hvalid, hcheck, hconnects, withSource]

/-- A registration fails at the check of the bridge, at the client for its token endpoint, or at its
own client; only before the last of these has its source been replaced. -/
theorem register_eq_error (he : (h.register fault b).1 = .error e) :
    (h.register fault b).2 = h ∧ (b.validate ≠ .ok () ∨ b.auth.connects = true) ∨
      (h.register fault b).2 = h.withSource b ∧ b.validate = .ok () ∧ b.auth.connects = false := by
  cases hvalid : b.validate with
  | error e' =>
    have hregister : h.register fault b = (.error e', h) := by simp only [register, hvalid]
    exact .inl ⟨congrArg Prod.snd hregister, .inl fun hok => by cases hok⟩
  | ok u =>
    cases hcheck : b.transport.check fault with
    | ok u' =>
      -- both clients can be made, and nothing else can fail
      simp only [register, hvalid, hcheck, ite_self] at he
      cases he
    | error cause =>
      have hregister := register_of_check (h := h) hvalid hcheck
      cases hconnects : b.auth.connects with
      | true =>
        rw [hconnects, if_pos rfl] at hregister
        exact .inl ⟨congrArg Prod.snd hregister, .inr rfl⟩
      | false =>
        rw [hconnects, if_neg Bool.false_ne_true] at hregister
        exact .inr ⟨congrArg Prod.snd hregister, rfl, rfl⟩

/-- A bridge that is taken in is in order, and it has its source and its client then. -/
theorem register_eq_ok (hok : (h.register fault b).1 = .ok ()) :
    b.validate = .ok () ∧ (h.register fault b).2 =
      (h.withSource b).attach b.id (.http ⟨b.id, b.baseUrl, b.transport.timeoutSeconds⟩) := by
  unfold register at hok ⊢
  split at hok
  · cases hok
  · next hvalid =>
    split at hok
    · cases hok
    · simp only at hok
      split at hok
      · cases hok
      · exact ⟨hvalid, rfl⟩

theorem withSource_eq_self_iff :
    h.withSource b = h ↔
      h.refresher.register b.id (b.auth.source b.transport) b.refresh = h.refresher := by
  constructor
  · intro heq
    exact congrArg Hub.refresher heq
  · intro heq
    simp only [withSource, heq]

/-- A failed registration has changed nothing, unless the bridge is in order, has no token endpoint, and
has another source of credentials than it had or something stored. Then the source has been replaced
and what was stored is forgotten. Clients, and the sources and credentials of other bridges, are as
they were in any case. -/
theorem register_failed (fault : CertificateFault) (h : Hub κ) (b : BridgeConfig) {e : HubError}
    (he : (h.register fault b).1 = .error e) :
    let after := (h.register fault b).2
    (after = h ↔ b.validate ≠ .ok () ∨ b.auth.connects = true ∨
      h.refresher.register b.id (b.auth.source b.transport) b.refresh = h.refresher) ∧
    after.clients = h.clients ∧
    ∀ other, other ≠ b.id →
      after.refresher.bridges.get? other = h.refresher.bridges.get? other ∧
        after.refresher.store.slot other = h.refresher.store.slot other := by
  intro after
  rcases register_eq_error he with ⟨hafter, hkept⟩ | ⟨hafter, hvalid, hconnects⟩
  · rw [show after = h from hafter]
    refine ⟨⟨fun _ => ?_, fun _ => rfl⟩, rfl, fun other _ => ⟨rfl, rfl⟩⟩
    rcases hkept with hinvalid | hconnects
    · exact .inl hinvalid
    · exact .inr (.inl hconnects)
  · rw [show after = h.withSource b from hafter, withSource_eq_self_iff]
    refine ⟨⟨fun hsame => .inr (.inr hsame), ?_⟩, rfl, fun other hother => ⟨?_, ?_⟩⟩
    · rintro (hinvalid | htrue | hsame)
      · exact absurd hvalid hinvalid
      · rw [hconnects] at htrue
        cases htrue
      · exact hsame
    · exact (Refresher.get?_bridges_register ..).trans (if_neg (Ne.symm hother))
    · exact (Refresher.slot_register ..).trans (if_neg (Ne.symm hother))

/-! ## A certificate that is not there -/

/-- No file has a certificate. -/
def noCertificate : CertificateFault := fun _ => some "failed to read CA cert"

def server : Url := ⟨"http", some ⟨"", none, .domain "server", none⟩, .segments [""], none, none⟩

/-- A bridge to the server. -/
def serverBridge (auth : BridgeAuth) (tls : TlsMode) : BridgeConfig :=
  ⟨"hub", server, auth, ⟨tls, 30000⟩, .usual⟩

/-- A hub with a bridge whose credential is in the store. -/
def connected : Hub Unit :=
  let h := ((new []).register noCertificate (serverBridge (.bearer "t") .system)).2
  { h with refresher := (h.refresher.obtain (TokenSource.ask .silent .epoch) "hub" .epoch ()).2.1 }

/-- With a token endpoint the bridge keeps its source and its credential. -/
theorem register_failed_account :
    let auth := BridgeAuth.account server "id" none "user" "secret" none
    let h := (connected.register noCertificate (serverBridge auth (.authority "ca.pem"))).2
    (connected.register noCertificate (serverBridge auth (.authority "ca.pem"))).1 =
        .error (.request (.tls "failed to read CA cert")) ∧
      h = connected ∧ h.refresher.store.current? "hub" = some (.bearer "t") := by
  intro auth h
  have he : (connected.register noCertificate (serverBridge auth (.authority "ca.pem"))).1 =
      .error (.request (.tls "failed to read CA cert")) :=
    congrArg Prod.fst (register_of_check (validate_of_fault? (by decide +kernel)) rfl)
  obtain ⟨hiff, -⟩ := register_failed noCertificate connected _ he
  have hafter : h = connected := hiff.2 (.inr (.inl rfl))
  refine ⟨he, hafter, ?_⟩
  rw [hafter]
  decide +kernel

/-- Without one the registration fails as well, but the bridge has another source from now on, and its
credential is gone. -/
theorem register_failed_forgets :
    let b := serverBridge (.bearer "other") (.authority "ca.pem")
    let h := (connected.register noCertificate b).2
    (connected.register noCertificate b).1 = .error (.request (.tls "failed to read CA cert")) ∧
      (connected.refresher.bridges.get? "hub").map (·.source) = some (.fixed (.bearer "t")) ∧
      (h.refresher.bridges.get? "hub").map (·.source) = some (.fixed (.bearer "other")) ∧
      connected.refresher.store.current? "hub" = some (.bearer "t") ∧
      h.refresher.store.current? "hub" = none := by
  intro b h
  have hregister : connected.register noCertificate b =
      (.error (.request (.tls "failed to read CA cert")), connected.withSource b) :=
    register_of_check (validate_of_fault? (by decide +kernel)) rfl
  exact ⟨congrArg Prod.fst hregister, by decide +kernel, by decide +kernel, by decide +kernel,
    by decide +kernel⟩

end Hub

end DeviceHub
