import DeviceHub.Proofs.Http.Origin
import DeviceHub.Proofs.Hub.Registration

/-!
# Bridges that can be used

A bridge is usable if it has a name, a base URL of the web with a host, and the credentials of its way
to authenticate. The check of bridges asks for all of that but the web: it takes the URL of any scheme
that has a host, although its message speaks of http and https. A bridge of another scheme that passes
it is of no use. Unless the path of a request leads somewhere else, nothing is ever sent over it, and
every request ends in a permanent failure.

* `validate_eq_ok_iff`: what the check asks for.
* `attempt_of_not_isWeb`: what becomes of requests over a bridge that is not of the web.
* `accepted_usable`: on the web exactly the usable bridges are accepted.
-/
namespace DeviceHub

namespace Text

/-- Whether a text has a character that is not blank. -/
def Shown (s : String) : Prop := ∃ c ∈ s.toList, isBlank c = false

theorem allBlank_eq_false_iff {s : String} : allBlank s = false ↔ Shown s := by
  simp [allBlank, Shown]

end Text

/-- Whether nothing is missing in the credentials. -/
def BridgeAuth.Complete : BridgeAuth → Prop
  | .account _ clientId _ username password _ =>
    Text.Shown clientId ∧ Text.Shown username ∧ password ≠ ""
  | .basic username password => Text.Shown username ∧ password ≠ ""
  | .bearer token => token ≠ ""

/-- Whether a bridge can be used. -/
structure BridgeConfig.Usable (b : BridgeConfig) : Prop where
  named : Text.Shown b.id
  web : b.baseUrl.IsWeb
  host : b.baseUrl.host? ≠ none
  credentials : b.auth.Complete

theorem BridgeAuth.fault?_eq_none_iff (auth : BridgeAuth) : auth.fault? = none ↔ auth.Complete := by
  cases auth with
  | account _ clientId _ username password _ =>
    simp only [fault?, Complete, ← Text.allBlank_eq_false_iff]
    grind
  | basic username password =>
    simp only [fault?, Complete, ← Text.allBlank_eq_false_iff]
    grind
  | bearer token =>
    simp only [fault?, Complete]
    grind

namespace BridgeConfig

/-- A bridge is accepted if it has a name, its URL has a host, and its credentials are complete. -/
theorem validate_eq_ok_iff (b : BridgeConfig) :
    b.validate = .ok () ↔ Text.Shown b.id ∧ b.baseUrl.host? ≠ none ∧ b.auth.Complete := by
  have hfault : b.validate = .ok () ↔ b.fault? = none := by
    unfold validate
    cases b.fault? <;> simp
  rw [hfault, ← BridgeAuth.fault?_eq_none_iff, ← Text.allBlank_eq_false_iff, fault?]
  grind

end BridgeConfig

/-! ## Bridges of other schemes -/

theorem HttpRequest.kind_of_fault? {m : HttpRequest} {fault : TransportFault}
    (h : m.fault? = some fault) : fault.kind = .permanent := by
  unfold fault? at h
  simp only at h
  split at h
  · cases h
    rfl
  · split at h
    · cases h
      rfl
    · split at h
      · cases h
        rfl
      · cases h

namespace HttpClient

variable {client : HttpClient} {device : String} {request : DeviceRequest} {c : Credential}

/-- What cannot be sent now can never be sent. -/
theorem prepared_error_kind {e : RequestError} (h : client.prepared device request c = .error e) :
    e.kind = .permanent := by
  unfold prepared message at h
  split at h
  · next hmessage =>
    cases h
    split at hmessage
    · cases hmessage
      rfl
    · cases hmessage
  · split at h
    · next hfault =>
      cases h
      exact HttpRequest.kind_of_fault? hfault
    · cases h

/-- Over a client whose URL is not of the web nothing is sent and the failure is permanent, unless the
path names a server. -/
theorem attempt_of_not_isWeb (hweb : ¬client.baseUrl.IsWeb)
    (hnames : client.baseUrl.namesServer (request.pathFor device) = false) (c : Credential) :
    ∃ e : RequestError, e.kind = .permanent ∧ ∀ {τ : Type} (wire : Wire τ) (world : τ),
      client.attempt wire device request c world = (.error e, world) := by
  cases h : client.prepared device request c with
  | error e => exact ⟨e, prepared_error_kind h, fun wire world => by rw [attempt_eq, h]⟩
  | ok m =>
    have horigin : m.url.origin = client.baseUrl.origin := (prepared_addressed h).stays hnames
    have hscheme : m.url.scheme = client.baseUrl.scheme := congrArg Prod.fst horigin
    have hsent : m.url.IsWeb := (HttpRequest.fault?_eq_none_iff.1 (prepared_eq_ok h).2.2).2.2
    exact absurd (hsent.imp hscheme.symm.trans hscheme.symm.trans) hweb

end HttpClient

namespace BridgeConfig

/-- On the web the bridges that are accepted are the usable ones. Off the web the check asks for name,
host and credentials just the same, but nothing is sent over a bridge that it accepts: every request
whose path does not lead elsewhere fails for good. -/
theorem accepted_usable (b : BridgeConfig) :
    (b.baseUrl.IsWeb → (b.validate = .ok () ↔ b.Usable)) ∧
    (b.validate = .ok () ↔ Text.Shown b.id ∧ b.baseUrl.host? ≠ none ∧ b.auth.Complete) ∧
    (¬b.baseUrl.IsWeb → ∀ (device : String) (request : DeviceRequest) (c : Credential) (seconds : Nat),
      b.baseUrl.namesServer (request.pathFor device) = false →
      ∃ e : RequestError, e.kind = .permanent ∧ ∀ {τ : Type} (wire : Wire τ) (world : τ),
        (⟨b.id, b.baseUrl, seconds⟩ : HttpClient).attempt wire device request c world =
          (.error e, world)) := by
  refine ⟨fun hweb => ?_, b.validate_eq_ok_iff, fun hweb device request c seconds hnames =>
    HttpClient.attempt_of_not_isWeb hweb hnames c⟩
  rw [validate_eq_ok_iff]
  constructor
  · rintro ⟨hnamed, hhost, hcredentials⟩
    exact ⟨hnamed, hweb, hhost, hcredentials⟩
  · rintro ⟨hnamed, -, hhost, hcredentials⟩
    exact ⟨hnamed, hhost, hcredentials⟩

/-- A bridge to `wss://h/x`, to which no request can be sent, is accepted. -/
theorem accepted_unusable :
    let b : BridgeConfig :=
      ⟨"hub", ⟨"wss", some ⟨"", none, .domain "h", none⟩, .segments ["x"], none, none⟩,
        .basic "admin" "pw", .usual, .usual⟩
    (Url.parse "wss://h/x").toOption = some b.baseUrl ∧ b.validate = .ok () ∧ ¬b.Usable := by
  intro b
  have hvalid : b.validate = .ok () := Hub.validate_of_fault? (by decide +kernel)
  have hweb : ¬b.baseUrl.IsWeb := by
    unfold Url.IsWeb
    decide +kernel
  exact ⟨by decide +kernel, hvalid, fun husable => hweb husable.web⟩

end BridgeConfig

end DeviceHub
