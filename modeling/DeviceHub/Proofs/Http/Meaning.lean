import DeviceHub.Http.Client
import DeviceHub.Proofs.Json.Lookups

/-!
# What a response means

Rules for what a response means for a request, said of its status and of its body as it came: the
payload that the body is in the format of the request, the code that stands in the payload, and what
the envelope of the request makes of the code. Reading a response keeps to these rules.

The rules are those of the documentation of `ResultEnvelope`, and `read` is the reading in
`HttpDeviceClient.attempt`.

* `Carries`, `Garbled`: the payload of a body, or why it has none (`decode_eq_ok`, `decode_eq_error`).
* `HasCode`, `Judges`: the code of a payload and what it stands for (`check_eq_iff`).
* `Means`: what a response means (`read_eq_iff`), and what a reply of any kind does.
* `Rejects`: which responses reject the credential (`means_expired_iff`).
-/
namespace DeviceHub

/-- The format that a payload was decoded from. -/
def Payload.format : Payload → PayloadFormat
  | .json _ => .json
  | .keyValue _ => .keyValue
  | .binary .. => .binary

/-- The code that stands at a key of a payload: a text or a number where the key leads in a JSON value,
or the entry of that very key. -/
inductive Payload.HasCode : Payload → String → String → Prop
  | text {v : Json} {key code : String} (h : Json.Stands v key (.text code)) :
      HasCode (.json v) key code
  | number {v : Json} {key : String} {n : Json.Number} (h : Json.Stands v key (.number n)) :
      HasCode (.json v) key n.text
  | entry {entries : Dict String} {key code : String} (h : entries.get? key = some code) :
      HasCode (.keyValue entries) key code

namespace Envelope

variable {e : Envelope} {device : String} {payload : Payload}

theorem code?_eq_some {key code : String} :
    code? payload key = some code ↔ payload.HasCode key code := by
  cases payload with
  | json v =>
    simp only [code?, Option.bind_eq_some_iff, find_eq_some]
    constructor
    · rintro ⟨found, hstands, htext⟩
      cases found <;> cases htext
      · exact .number hstands
      · exact .text hstands
    · rintro (h | h)
      · exact ⟨_, h, rfl⟩
      · exact ⟨_, h, rfl⟩
  | keyValue entries =>
    constructor
    · exact .entry
    · rintro ⟨⟩
      assumption
  | binary mediaType data =>
    constructor
    · rintro ⟨⟩
    · rintro ⟨⟩

theorem code?_eq_none {key : String} :
    code? payload key = none ↔ ∀ code, ¬payload.HasCode key code := by
  simp only [Option.eq_none_iff_forall_ne_some, ne_eq, code?_eq_some]

/-! ## Codes -/

/-- What an envelope makes of a payload about a device. Bytes have no code and are a success; a code of
success is one, whatever else it stands for. -/
inductive Judges (e : Envelope) (device : String) (payload : Payload) :
    Except RequestError Unit → Prop
  | bytes (hformat : payload.format = .binary) : Judges e device payload (.ok ())
  | success {code : String} (hcode : payload.HasCode e.field code) (hok : code ∈ e.okCodes) :
      Judges e device payload (.ok ())
  | missing (hformat : payload.format ≠ .binary) (hcode : ∀ code, ¬payload.HasCode e.field code) :
      Judges e device payload
        (.error (.deserialization ("result code field '" ++ e.field ++ "' missing") ""))
  | rejected {code : String} (hcode : payload.HasCode e.field code) (hok : code ∉ e.okCodes)
      (hauth : code ∈ e.authCodes) : Judges e device payload (.error .sessionExpired)
  | offline {code : String} (hcode : payload.HasCode e.field code) (hok : code ∉ e.okCodes)
      (hauth : code ∉ e.authCodes)
      (hoffline : code ∈ e.offlineCodes ∨
        ∃ s, e.offlineState = some s ∧ payload.HasCode s.field s.value) :
      Judges e device payload (.error (.deviceOffline device code))
  | failed {code message : String} (hcode : payload.HasCode e.field code) (hok : code ∉ e.okCodes)
      (hauth : code ∉ e.authCodes) (hoffline : code ∉ e.offlineCodes)
      (hstate : ∀ s, e.offlineState = some s → ¬payload.HasCode s.field s.value)
      (hmessage : (∃ field, e.messageField = some field ∧ payload.HasCode field message) ∨
        (∀ field, e.messageField = some field → ∀ text, ¬payload.HasCode field text) ∧
          message = "") :
      Judges e device payload (.error (.vendor code message))

theorem holds_iff {s : StateMatch} : s.holds payload = true ↔ payload.HasCode s.field s.value := by
  simp only [StateMatch.holds, decide_eq_true_eq, code?_eq_some]

theorem any_holds_iff : (e.offlineState.any fun s => s.holds payload) = true ↔
    ∃ s, e.offlineState = some s ∧ payload.HasCode s.field s.value := by
  simp only [Option.any_eq_true, holds_iff]

/-- A vendor's own text about a failure, or none. -/
theorem message_eq_iff {message : String} :
    (e.messageField.bind (code? payload)).getD "" = message ↔
      (∃ field, e.messageField = some field ∧ payload.HasCode field message) ∨
        (∀ field, e.messageField = some field → ∀ text, ¬payload.HasCode field text) ∧
          message = "" := by
  cases hfield : e.messageField with
  | none => simp [eq_comm]
  | some field =>
    cases hcode : code? payload field with
    | none =>
      have hnone := code?_eq_none.1 hcode
      simp [hcode, hnone, eq_comm]
    | some text =>
      have htext := code?_eq_some.1 hcode
      have hown (other : String) : payload.HasCode field other ↔ text = other := by
        rw [← code?_eq_some, hcode, Option.some_inj]
      simp [hcode, hown]

/-- A code that is found means what the rules say. -/
theorem judges_of_failure? {code : String} (hcode : payload.HasCode e.field code) :
    e.Judges device payload
      (match e.failure? device payload code with
      | some failure => .error failure
      | none => .ok ()) := by
  unfold failure?
  by_cases hok : code ∈ e.okCodes
  · rw [if_pos hok]
    exact .success hcode hok
  by_cases hauth : code ∈ e.authCodes
  · rw [if_neg hok, if_pos hauth]
    exact .rejected hcode hok hauth
  rw [if_neg hok, if_neg hauth]
  by_cases hoffline : code ∈ e.offlineCodes ∨ e.offlineState.any fun s => s.holds payload
  · rw [if_pos hoffline]
    exact .offline hcode hok hauth (hoffline.imp_right any_holds_iff.1)
  · rw [if_neg hoffline]
    obtain ⟨hcodes, hstate⟩ := not_or.1 hoffline
    exact .failed hcode hok hauth hcodes (fun s hs hcode => hstate (any_holds_iff.2 ⟨s, hs, hcode⟩))
      (message_eq_iff.1 rfl)

/-- Any payload but bytes is checked by its code. -/
theorem check_of_format (hformat : payload.format ≠ .binary) : e.check device payload =
    match code? payload e.field with
    | none => .error (.deserialization ("result code field '" ++ e.field ++ "' missing") "")
    | some code =>
      match e.failure? device payload code with
      | some failure => .error failure
      | none => .ok () := by
  cases payload with
  | json | keyValue => rfl
  | binary => exact absurd rfl hformat

theorem judges_check (e : Envelope) (device : String) (payload : Payload) :
    e.Judges device payload (e.check device payload) := by
  by_cases hformat : payload.format = .binary
  · cases payload with
    | json | keyValue => cases hformat
    | binary => exact .bytes rfl
  · rw [check_of_format hformat]
    cases hcode : code? payload e.field with
    | none => exact .missing hformat (code?_eq_none.1 hcode)
    | some code => exact judges_of_failure? (code?_eq_some.1 hcode)

/-- A payload with a code is not bytes. -/
theorem format_of_hasCode {key code : String} (hcode : payload.HasCode key code) :
    payload.format ≠ .binary := by
  cases hcode <;> simp [Payload.format]

theorem Judges.check_eq {verdict : Except RequestError Unit} (h : e.Judges device payload verdict) :
    e.check device payload = verdict := by
  cases h with
  | bytes hformat =>
    cases payload with
    | json | keyValue => cases hformat
    | binary => rfl
  | missing hformat hcode => rw [check_of_format hformat, code?_eq_none.2 hcode]
  | success hcode hok =>
    rw [check_of_format (format_of_hasCode hcode), code?_eq_some.2 hcode]
    simp only [failure?, if_pos hok]
  | rejected hcode hok hauth =>
    rw [check_of_format (format_of_hasCode hcode), code?_eq_some.2 hcode]
    simp only [failure?, if_neg hok, if_pos hauth]
  | offline hcode hok hauth hoffline =>
    rw [check_of_format (format_of_hasCode hcode), code?_eq_some.2 hcode]
    simp only [failure?, if_neg hok, if_neg hauth, if_pos (hoffline.imp_right any_holds_iff.2)]
  | failed hcode hok hauth hoffline hstate hmessage =>
    have hneither : ¬(_ ∈ e.offlineCodes ∨ e.offlineState.any fun s => s.holds payload) :=
      not_or.2 ⟨hoffline, fun hany =>
        let ⟨s, hs, hstands⟩ := any_holds_iff.1 hany
        hstate s hs hstands⟩
    rw [check_of_format (format_of_hasCode hcode), code?_eq_some.2 hcode]
    simp only [failure?, if_neg hok, if_neg hauth, if_neg hneither, message_eq_iff.2 hmessage]

theorem check_eq_iff {verdict : Except RequestError Unit} :
    e.check device payload = verdict ↔ e.Judges device payload verdict :=
  ⟨fun h => h ▸ judges_check e device payload, Judges.check_eq⟩

end Envelope

/-! ## Bodies -/

namespace HttpResponse

variable {r : HttpResponse} {timeoutSeconds : Nat} {format : PayloadFormat} {payload : Payload}

/-- The payload that a body is in a format. Bytes are taken as they are. -/
inductive Carries (r : HttpResponse) : PayloadFormat → Payload → Prop
  | json {v : Json} (hwhole : r.ending = .complete) (h : Json.read? r.text = some v) :
      Carries r .json (.json v)
  | keyValue {entries : Dict String} (hwhole : r.ending = .complete)
      (h : KeyValue.parse r.text = .ok entries) : Carries r .keyValue (.keyValue entries)
  | binary (hwhole : r.ending = .complete) :
      Carries r .binary (.binary (r.mediaType.getD "application/octet-stream") r.body)

/-- Why a body is no payload in a format. -/
inductive Garbled (r : HttpResponse) (timeoutSeconds : Nat) : PayloadFormat → RequestError → Prop
  | broken {format : PayloadFormat} (hending : r.ending = .broken) :
      Garbled r timeoutSeconds format (.transport .brokenBody)
  | late {format : PayloadFormat} (hending : r.ending = .late) :
      Garbled r timeoutSeconds format (.timeout timeoutSeconds)
  | notJson (hwhole : r.ending = .complete) (h : Json.read? r.text = none) :
      Garbled r timeoutSeconds .json (.deserialization "not JSON" r.text)
  | notEntries {fault : KeyValue.Fault} (hwhole : r.ending = .complete)
      (h : KeyValue.parse r.text = .error fault) :
      Garbled r timeoutSeconds .keyValue (.deserialization fault.message r.text)

end HttpResponse

namespace HttpClient

variable {client : HttpClient} {r : HttpResponse} {format : PayloadFormat} {payload : Payload}
  {e : RequestError}

theorem decode_eq_ok : client.decode format r = .ok payload ↔ r.Carries format payload := by
  constructor
  · intro h
    cases hending : r.ending with
    | broken | late => simp [decode, HttpResponse.bodyFault?, hending] at h
    | complete =>
      simp only [decode, HttpResponse.bodyFault?, hending] at h
      cases format with
      | json =>
        cases hread : Json.read? r.text with
        | none => simp [hread] at h
        | some v =>
          simp only [hread, Except.ok.injEq] at h
          exact h ▸ .json hending hread
      | keyValue =>
        cases hparse : KeyValue.parse r.text with
        | error fault => simp [hparse] at h
        | ok entries =>
          simp only [hparse, Except.ok.injEq] at h
          exact h ▸ .keyValue hending hparse
      | binary =>
        cases h
        exact .binary hending
  · rintro (⟨hwhole, h⟩ | ⟨hwhole, h⟩ | hwhole)
    · simp only [decode, HttpResponse.bodyFault?, hwhole, h]
    · simp only [decode, HttpResponse.bodyFault?, hwhole, h]
    · simp only [decode, HttpResponse.bodyFault?, hwhole]

theorem decode_eq_error :
    client.decode format r = .error e ↔ r.Garbled client.timeoutSeconds format e := by
  constructor
  · intro h
    cases hending : r.ending with
    | broken =>
      simp only [decode, HttpResponse.bodyFault?, hending, Except.error.injEq] at h
      exact h ▸ .broken hending
    | late =>
      simp only [decode, HttpResponse.bodyFault?, hending, Except.error.injEq] at h
      exact h ▸ .late hending
    | complete =>
      simp only [decode, HttpResponse.bodyFault?, hending] at h
      cases format with
      | json =>
        cases hread : Json.read? r.text with
        | some v => simp [hread] at h
        | none =>
          simp only [hread, Except.error.injEq] at h
          exact h ▸ .notJson hending hread
      | keyValue =>
        cases hparse : KeyValue.parse r.text with
        | ok entries => simp [hparse] at h
        | error fault =>
          simp only [hparse, Except.error.injEq] at h
          exact h ▸ .notEntries hending hparse
      | binary => cases h
  · rintro (hending | hending | ⟨hwhole, h⟩ | ⟨hwhole, h⟩)
    · simp only [decode, HttpResponse.bodyFault?, hending]
    · simp only [decode, HttpResponse.bodyFault?, hending]
    · simp only [decode, HttpResponse.bodyFault?, hwhole, h]
    · simp only [decode, HttpResponse.bodyFault?, hwhole, h]

end HttpClient

/-! ## Responses -/

namespace HttpResponse

variable {r : HttpResponse} {timeoutSeconds : Nat} {device : String} {request : DeviceRequest}
  {result : Except RequestError Payload}

/-- What a response means for a request about a device. -/
inductive Means (r : HttpResponse) (timeoutSeconds : Nat) (device : String)
    (request : DeviceRequest) : Except RequestError Payload → Prop
  | unauthorized (hstatus : r.status = 401) :
      Means r timeoutSeconds device request (.error .sessionExpired)
  | refused (hstatus : r.status ≠ 401) (hrange : ¬(200 ≤ r.status ∧ r.status ≤ 299)) :
      Means r timeoutSeconds device request
        (.error (.http r.status (if r.ending = .complete then r.text else "")))
  | garbled {e : RequestError} (hrange : 200 ≤ r.status ∧ r.status ≤ 299)
      (h : r.Garbled timeoutSeconds request.format e) :
      Means r timeoutSeconds device request (.error e)
  | plain {payload : Payload} (hrange : 200 ≤ r.status ∧ r.status ≤ 299)
      (h : r.Carries request.format payload) (hnone : request.envelope = none) :
      Means r timeoutSeconds device request (.ok payload)
  | judged {payload : Payload} {e : Envelope} {verdict : Except RequestError Unit}
      (hrange : 200 ≤ r.status ∧ r.status ≤ 299) (h : r.Carries request.format payload)
      (he : request.envelope = some e) (hverdict : e.Judges device payload verdict) :
      Means r timeoutSeconds device request (verdict.map fun _ => payload)

/-- Whether a response says that the credential is no good: by its status, or by a code that stands
for that and not for success. -/
def Rejects (r : HttpResponse) (request : DeviceRequest) : Prop :=
  r.status = 401 ∨
    (200 ≤ r.status ∧ r.status ≤ 299) ∧ ∃ payload e code, r.Carries request.format payload ∧
      request.envelope = some e ∧ payload.HasCode e.field code ∧
      code ∈ e.authCodes ∧ code ∉ e.okCodes

/-- A response that rejects the credential means that, and no other does. -/
theorem means_expired_iff :
    r.Means timeoutSeconds device request (.error .sessionExpired) ↔ r.Rejects request := by
  constructor
  · generalize hresult : (Except.error RequestError.sessionExpired : Except RequestError Payload) =
      result
    rintro (hstatus | _ | ⟨_, h⟩ | _ | ⟨hrange, h, he, hverdict⟩)
    · exact .inl hstatus
    · cases hresult
    · cases hresult
      generalize request.format = format at h
      cases h
    · cases hresult
    · cases hverdict with
      | rejected hcode hok hauth => exact .inr ⟨hrange, _, _, _, h, he, hcode, hauth, hok⟩
      | _ => cases hresult
  · rintro (hstatus | ⟨hrange, payload, e, code, h, he, hcode, hauth, hok⟩)
    · exact .unauthorized hstatus
    · exact .judged hrange h he (.rejected hcode hok hauth)

/-- A payload comes from a response of success, whose code is one of success if it has to have one. -/
theorem means_ok {payload : Payload} (h : r.Means timeoutSeconds device request (.ok payload)) :
    (200 ≤ r.status ∧ r.status ≤ 299) ∧ r.Carries request.format payload ∧
      ∀ e, request.envelope = some e → payload.format ≠ .binary →
        ∃ code, payload.HasCode e.field code ∧ code ∈ e.okCodes := by
  generalize hresult : (Except.ok payload : Except RequestError Payload) = result at h
  cases h with
  | unauthorized | refused | garbled => cases hresult
  | plain hrange h hnone =>
    cases hresult
    exact ⟨hrange, h, fun e he => by rw [hnone] at he; cases he⟩
  | judged hrange h he hverdict =>
    cases hverdict with
    | missing | rejected | offline | failed => cases hresult
    | bytes hformat =>
      cases hresult
      exact ⟨hrange, h, fun _ _ hother => absurd hformat hother⟩
    | success hcode hok =>
      cases hresult
      refine ⟨hrange, h, fun e' he' _ => ?_⟩
      rw [he] at he'
      cases he'
      exact ⟨_, hcode, hok⟩

theorem isSuccess_iff : r.isSuccess = true ↔ 200 ≤ r.status ∧ r.status ≤ 299 := by
  simp [isSuccess]

end HttpResponse

namespace HttpClient

variable {client : HttpClient} {device : String} {request : DeviceRequest} {r : HttpResponse}
  {result : Except RequestError Payload}

/-- A response of success means what its payload means. -/
theorem read_of_success (hrange : 200 ≤ r.status ∧ r.status ≤ 299) : client.read device request r =
    match client.decode request.format r with
    | .error e => .error e
    | .ok payload =>
      match request.envelope with
      | none => .ok payload
      | some e => (e.check device payload).map fun _ => payload := by
  have hstatus : r.status ≠ 401 := by omega
  have hsuccess : r.isSuccess = true := HttpResponse.isSuccess_iff.2 hrange
  unfold read
  rw [if_neg hstatus, if_neg (by simp [hsuccess])]
  cases client.decode request.format r with
  | error e => rfl
  | ok payload =>
    cases request.envelope with
    | none => rfl
    | some e =>
      simp only [bind, Except.bind]
      cases e.check device payload <;> rfl

theorem means_read (client : HttpClient) (device : String) (request : DeviceRequest)
    (r : HttpResponse) :
    r.Means client.timeoutSeconds device request (client.read device request r) := by
  by_cases hstatus : r.status = 401
  · rw [read, if_pos hstatus]
    exact .unauthorized hstatus
  by_cases hrange : 200 ≤ r.status ∧ r.status ≤ 299
  · rw [read_of_success hrange]
    cases hdecode : client.decode request.format r with
    | error e => exact .garbled hrange (decode_eq_error.1 hdecode)
    | ok payload =>
      have hcarries := decode_eq_ok.1 hdecode
      cases he : request.envelope with
      | none => exact .plain hrange hcarries he
      | some e => exact .judged hrange hcarries he (Envelope.check_eq_iff.1 rfl)
  · rw [read, if_neg hstatus, if_pos (by rwa [HttpResponse.isSuccess_iff])]
    exact .refused hstatus hrange

theorem read_eq_of_means (h : r.Means client.timeoutSeconds device request result) :
    client.read device request r = result := by
  cases h with
  | unauthorized hstatus => rw [read, if_pos hstatus]
  | refused hstatus hrange =>
    rw [read, if_neg hstatus, if_pos (by rwa [HttpResponse.isSuccess_iff])]
  | garbled hrange h => rw [read_of_success hrange, decode_eq_error.2 h]
  | plain hrange h hnone =>
    rw [read_of_success hrange, decode_eq_ok.2 h]
    simp only [hnone]
  | judged hrange h he hverdict =>
    rw [read_of_success hrange, decode_eq_ok.2 h]
    simp only [he, Envelope.check_eq_iff.2 hverdict]

/-- A response is read as what it means. -/
theorem read_eq_iff : client.read device request r = result ↔
    r.Means client.timeoutSeconds device request result :=
  ⟨fun h => h ▸ means_read client device request r, read_eq_of_means⟩

end HttpClient

/-- What comes of a message: a response means what it means, and without one there is a failure. -/
inductive Reply.Means (client : HttpClient) (device : String) (request : DeviceRequest)
    (m : HttpRequest) : Reply → Except RequestError Payload → Prop
  | response {r : HttpResponse} {result : Except RequestError Payload}
      (h : r.Means client.timeoutSeconds device request result) :
      Means client device request m (.response r) result
  | noAnswer :
      Means client device request m .noAnswer
        (.error (.transport (.noAnswer (HttpRequest.target m.url).text)))
  | late : Means client device request m .late (.error (.timeout client.timeoutSeconds))

end DeviceHub
