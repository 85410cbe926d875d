import DeviceHub.Proofs.Http.Meaning

/-!
# What comes of a request

What an attempt to ask a vendor about a device amounts to: a message that cannot be sent, or one that
is exchanged, and what becomes of that.

* `attempt_eq`: an attempt prepares a message, sends it and reads what comes of it.
* `outcome_eq_iff`: what comes of a message is what its reply means.
* `prepared_of_join`: what can be sent.
* `prepared_of_prepared`: what can be sent with one credential can be sent with another.
-/
namespace DeviceHub

/-- Whether a URL is one of the web. -/
def Url.IsWeb (u : Url) : Prop := u.scheme = "http" ∨ u.scheme = "https"

/-- A request can be sent if it has a host, its credential makes a header, and it is for the web. -/
theorem HttpRequest.fault?_eq_none_iff {m : HttpRequest} : m.fault? = none ↔
    m.url.host? ≠ none ∧ (m.authorization.any fun a => !isHeaderValue a) = false ∧ m.url.IsWeb := by
  unfold fault?
  simp only
  split
  · next hhost => simp [hhost]
  · next hhost =>
    split
    · next hheader => simp [hheader]
    · next hheader =>
      have hscheme : ¬(m.url.scheme ≠ "http" ∧ m.url.scheme ≠ "https") ↔ m.url.IsWeb :=
        Decidable.or_iff_not_not_and_not.symm
      simp [hhost, hheader, ← hscheme]

namespace HttpClient

variable {client : HttpClient} {device : String} {request : DeviceRequest}

/-- The message that asks for a device, if it can be sent. -/
def prepared (client : HttpClient) (device : String) (request : DeviceRequest) (c : Credential) :
    Except RequestError HttpRequest :=
  match client.message device request c with
  | .error e => .error e
  | .ok m =>
    match m.fault? with
    | some fault => .error (.transport fault)
    | none => .ok m

/-- What comes of a message and what happened to it. -/
def outcome (client : HttpClient) (device : String) (request : DeviceRequest) (m : HttpRequest)
    (reply : Reply) : Except RequestError Payload :=
  match m.failure? client.timeoutSeconds reply with
  | .error e => .error e
  | .ok r => client.read device request r

theorem attempt_eq {ω : Type} (wire : Wire ω) (c : Credential) (world : ω) :
    client.attempt wire device request c world =
      match client.prepared device request c with
      | .error e => (.error e, world)
      | .ok m => (client.outcome device request m (wire m world).1, (wire m world).2) := by
  unfold attempt prepared
  cases client.message device request c with
  | error e => rfl
  | ok m =>
    simp only [Wire.response, outcome]
    cases m.fault? with
    | some fault => rfl
    | none =>
      simp only
      cases m.failure? client.timeoutSeconds (wire m world).1 <;> rfl

theorem outcome_eq_iff {m : HttpRequest} {reply : Reply} {result : Except RequestError Payload} :
    client.outcome device request m reply = result ↔ reply.Means client device request m result := by
  cases reply with
  | response r =>
    have hread : client.outcome device request m (.response r) = client.read device request r := rfl
    rw [hread, read_eq_iff]
    constructor
    · exact .response
    · rintro (h | _ | _)
      exact h
  | noAnswer =>
    constructor
    · rintro rfl
      exact .noAnswer
    · rintro ⟨⟩
      rfl
  | late =>
    constructor
    · rintro rfl
      exact .late
    · rintro ⟨⟩
      rfl

theorem outcome_eq_expired {m : HttpRequest} {reply : Reply} :
    client.outcome device request m reply = .error .sessionExpired ↔
      ∃ r, reply = .response r ∧ r.Rejects request := by
  rw [outcome_eq_iff]
  constructor
  · rintro (h | _ | _)
    exact ⟨_, rfl, HttpResponse.means_expired_iff.1 h⟩
  · rintro ⟨r, rfl, hr⟩
    exact .response (HttpResponse.means_expired_iff.2 hr)

theorem outcome_eq_ok {m : HttpRequest} {reply : Reply} {payload : Payload}
    (h : client.outcome device request m reply = .ok payload) :
    ∃ r, reply = .response r ∧ r.Means client.timeoutSeconds device request (.ok payload) := by
  cases outcome_eq_iff.1 h with
  | response h => exact ⟨_, rfl, h⟩

theorem prepared_eq_ok {c : Credential} {m : HttpRequest}
    (h : client.prepared device request c = .ok m) :
    client.message device request c = .ok m ∧ m.authorization = some c.authorization ∧
      m.fault? = none := by
  unfold prepared at h
  cases hmessage : client.message device request c with
  | error e => simp [hmessage] at h
  | ok made =>
    cases hfault : made.fault? with
    | some fault => simp [hmessage, hfault] at h
    | none =>
      simp only [hmessage, hfault, Except.ok.injEq] at h
      subst h
      refine ⟨rfl, ?_, hfault⟩
      unfold message at hmessage
      split at hmessage
      · cases hmessage
      · cases hmessage
        rfl

theorem prepared_ne_expired (c : Credential) :
    client.prepared device request c ≠ .error .sessionExpired := by
  intro h
  unfold prepared message at h
  split at h
  · next hmessage =>
    cases h
    split at hmessage <;> cases hmessage
  · split at h <;> cases h

/-- A message goes to where its path leads from the base URL. -/
theorem join_of_prepared {c : Credential} {m : HttpRequest}
    (h : client.prepared device request c = .ok m) :
    client.baseUrl.join (request.pathFor device) = .ok m.url := by
  have hmessage := (prepared_eq_ok h).1
  unfold message at hmessage
  split at hmessage
  · cases hmessage
  · next hjoin =>
    cases hmessage
    exact hjoin

/-- Where the path can be read, the credential makes a header and the web can be asked, the request can
be sent. -/
theorem prepared_of_join {c : Credential} {url : Url}
    (hjoin : client.baseUrl.join (request.pathFor device) = .ok url)
    (hheader : HttpRequest.isHeaderValue c.authorization = true) (hhost : url.host? ≠ none)
    (hweb : url.IsWeb) :
    ∃ m, client.prepared device request c = .ok m ∧ m.url = url ∧
      m.authorization = some c.authorization := by
  have hsent : ∀ body,
      (HttpRequest.mk request.method url (some c.authorization) body).fault? = none := fun body =>
    HttpRequest.fault?_eq_none_iff.2 ⟨hhost, by simp [hheader], hweb⟩
  simp only [prepared, message, hjoin, hsent]
  exact ⟨_, rfl, rfl, rfl⟩

/-- Where one credential can be sent, so can another: it is only a header that differs. -/
theorem prepared_of_prepared {c other : Credential} {m : HttpRequest}
    (h : client.prepared device request c = .ok m)
    (hother : HttpRequest.isHeaderValue other.authorization = true) :
    ∃ m', client.prepared device request other = .ok m' := by
  obtain ⟨hhost, -, hweb⟩ := HttpRequest.fault?_eq_none_iff.1 (prepared_eq_ok h).2.2
  obtain ⟨m', hm', -⟩ := prepared_of_join (join_of_prepared h) hother hhost hweb
  exact ⟨m', hm'⟩

end HttpClient

end DeviceHub
