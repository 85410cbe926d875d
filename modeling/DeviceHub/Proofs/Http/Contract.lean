import DeviceHub.Proofs.Http.Course

/-!
# The contract of a fetch

A fetch exchanges at most two messages with the vendor, the second with another credential after the
first was rejected. Nothing else is tried again, and what comes of it is the result. A payload comes
from a response of success, and nobody hears that a session has expired.

This holds whatever the sources of credentials and the vendor answer, and whatever others do to the
refresher meanwhile.

* `Course.contract`: who takes the course of a fetch keeps the contract.
* `fetch_contract`: every fetch does.
-/
namespace DeviceHub

namespace Fetch

/-- What a fetch promises, by its notes and its result. -/
structure Contract (client : HttpClient) (device : String) (request : DeviceRequest)
    (notes : List Note) (result : Except RequestError Payload) : Prop where
  atMostTwo : (exchanges notes).length ≤ 2
  /-- There is a second exchange when the first was rejected and another credential was obtained,
  and only then. -/
  second : (exchanges notes).length = 2 ↔ ∃ first m r next more, r.Rejects request ∧
    notes = .credited (.ok first) :: .exchanged m (.response r) :: .credited (.ok next) :: more
  /-- When the first exchange was rejected, another credential was asked for. -/
  asksAgain : ∀ first m r more, r.Rejects request →
    notes = .credited (.ok first) :: .exchanged m (.response r) :: more →
    ∃ next rest, more = .credited next :: rest
  /-- Every message carries the credential obtained just before it. -/
  authorized : ∀ before m reply after, notes = before ++ .exchanged m reply :: after →
    ∃ earlier c, before = earlier ++ [.credited (.ok c)] ∧
      client.message device request c = .ok m ∧ m.authorization = some c.authorization
  /-- What a message brings is the result, if it is no rejection. -/
  answered : ∀ before m reply after, notes = before ++ .exchanged m reply :: after →
    (∀ r, reply = .response r → ¬r.Rejects request) →
    after = [] ∧ reply.Means client device request m result
  /-- To have no credential is the result, and so is to have no message that can be sent. -/
  failed : ∀ before note after e, notes = before ++ note :: after →
    note.failure? client device request = some e → after = [] ∧ result = .error e
  /-- A payload comes from a response of success, which was the last: it is what the body is in the
  format of the request, and its code is one of success if it has to have one. -/
  payload : ∀ payload, result = .ok payload → ∃ before m r,
    notes = before ++ [.exchanged m (.response r)] ∧ (200 ≤ r.status ∧ r.status ≤ 299) ∧
      r.Carries request.format payload ∧
      ∀ e, request.envelope = some e → payload.format ≠ .binary →
        ∃ code, payload.HasCode e.field code ∧ code ∈ e.okCodes
  /-- A rejection that is the last exchange is the second, and the end. -/
  rejectedTwice : ∀ before m r, notes = before ++ [.exchanged m (.response r)] →
    r.Rejects request → (exchanges notes).length = 2 ∧
      result = .error (.authentication "credentials rejected after refresh")
  neverExpired : result ≠ .error .sessionExpired

variable {client : HttpClient} {device : String} {request : DeviceRequest}

theorem Course.contract (h : Course client device request notes result)
    (hheader : ∀ c ∈ granted notes, HttpRequest.isHeaderValue c.authorization = true) :
    Contract client device request notes result where
  atMostTwo := (h.length_exchanges hheader).1
  second := (h.length_exchanges hheader).2
  asksAgain first m r more hr hnotes := by
    subst hnotes
    obtain ⟨again, htry, -⟩ := h.of_rejected hr
    cases htry with
    | refused | unsent | exchanged => exact ⟨_, _, rfl⟩
  authorized before m reply after hnotes := by
    obtain ⟨earlier, c, hbefore, hprepared, -⟩ := h.of_exchanged hnotes
    obtain ⟨hmessage, hauthorization, -⟩ := HttpClient.prepared_eq_ok hprepared
    exact ⟨earlier, c, hbefore, hmessage, hauthorization⟩
  answered before m reply after hnotes hkept := by
    have houtcome : client.outcome device request m reply ≠ .error .sessionExpired := by
      intro hexpired
      obtain ⟨r, hreply, hr⟩ := HttpClient.outcome_eq_expired.1 hexpired
      exact hkept r hreply hr
    obtain ⟨-, -, -, -, ⟨hafter, hresult⟩ | ⟨hexpired, -⟩⟩ := h.of_exchanged hnotes
    · rw [hresult, final_of_ne houtcome]
      exact ⟨hafter, HttpClient.outcome_eq_iff.1 rfl⟩
    · exact absurd hexpired houtcome
  failed before note after e hnotes hfailure := h.of_failed hnotes hfailure
  payload payload hresult := by
    subst hresult
    obtain ⟨before, m, r, hnotes, hmeans⟩ := h.of_ok
    exact ⟨before, m, r, hnotes, HttpResponse.means_ok hmeans⟩
  rejectedTwice before m r hnotes hr := h.of_rejected_last hnotes hr
  neverExpired := by
    cases h with
    | once only kept => exact kept
    | twice => exact final_ne_expired _

/-- A refresher never says that a session has expired. -/
theorem obtain_ne_expired {σ τ : Type}
    (ask : σ → Option String → τ → Except RequestError Credential × τ) (bridge : String)
    (now : Instant) (refresher : Refresher σ) (world : τ) :
    (refresher.obtain ask bridge now world).1 ≠ .error .sessionExpired := by
  have hcall : ∀ e, (refresher.call bridge now).1 = .refused e → e ≠ .sessionExpired := by
    intro e he
    unfold Refresher.call at he
    split at he
    · cases he
      simp
    · split at he
      · cases he
      · split at he <;> cases he
  unfold Refresher.obtain
  split
  · next e r hr =>
    have he := hcall e (by rw [hr])
    simp [he]
  · simp
  · next n r hr =>
    simp only [Refresher.outcome?]
    split <;> simp

/-- The notes of a fetch. -/
def notesOf {ω : Type} (s : Surroundings ω) (client : HttpClient) (device : String)
    (request : DeviceRequest) (world : ω) : List Note :=
  (client.fetchAmid s.noted device request (world, [])).2.2

theorem fetch_contract {σ τ : Type}
    (ask : σ → Option String → τ → Except RequestError Credential × τ) (wire : Wire τ)
    (clock : τ → Instant) (others : Refresher σ × τ → Refresher σ × τ) (client : HttpClient)
    (device : String) (request : DeviceRequest) (state : Refresher σ × τ) :
    let s := Surroundings.shared ask wire clock others
    let notes := notesOf s client device request state
    (∀ c ∈ granted notes, HttpRequest.isHeaderValue c.authorization = true) →
    Contract client device request notes (client.fetchAmid s device request state).1 := by
  intro s notes hheader
  have hs : ∀ bridge w, (s.obtain bridge w).1 ≠ .error .sessionExpired := by
    intro bridge w
    exact obtain_ne_expired ask bridge (clock (others w).2) (others w).1 (others w).2
  have hcourse := fetch_course s client device request hs state
  -- the notes were taken of the fetch as it is
  have hresult := (run_noted s client device request 5 .acquiring state []).1
  unfold HttpClient.fetchAmid at hcourse
  rw [hresult] at hcourse
  exact hcourse.contract hheader

/-- The entries of a key=value answer. -/
def entries? : Except RequestError Payload → Option (Dict String)
  | .ok (.keyValue entries) => some entries
  | _ => none

theorem eq_ok_of_entries? {result : Except RequestError Payload} {entries : Dict String}
    (h : entries? result = some entries) : result = .ok (.keyValue entries) := by
  unfold entries? at h
  split at h
  · rw [Option.some.inj h]
  · cases h

/-- A vendor that answers every request with success, and says by its result code that it knows only the
second token, gets two messages, each with the token of its time. The payload is what its second answer
says. -/
theorem fetch_contract_renewed :
    let ask : Unit → Option String → Nat → Except RequestError Credential × Nat :=
      fun _ _ n => (.ok (.bearer (if n = 0 then "old" else "new")), n + 1)
    let page (text : String) : Reply :=
      .response ⟨200, none, Text.Utf8.encode text.toList, .complete⟩
    let unknown := page "resultCode=0102\n"
    let switched := page "resultCode=0000\npower=on\n"
    let wire : Wire Nat := fun m n =>
      (if m.authorization = some "Bearer new" then switched else unknown, n)
    let s := Surroundings.shared ask wire (fun _ => .epoch) id
    let client : HttpClient :=
      ⟨"hub", ⟨"http", some ⟨"", none, .domain "server", none⟩, .segments [""], none, none⟩, 10⟩
    let request : DeviceRequest := ⟨.get, "state", none, .keyValue, some .thinq⟩
    let state := (Refresher.empty.register "hub" () .usual, 0)
    let notes := notesOf s client "lamp" request state
    let result := (client.fetchAmid s "lamp" request state).1
    (∀ c ∈ granted notes, HttpRequest.isHeaderValue c.authorization = true) ∧
      (exchanges notes).map (fun x => (x.1.authorization, x.2)) =
        [(some "Bearer old", unknown), (some "Bearer new", switched)] ∧
      result = .ok (.keyValue [("power", "on"), ("resultCode", "0000")]) ∧
      Contract client "lamp" request notes result := by
  intro ask page unknown switched wire s client request state notes result
  have hheader : ∀ c ∈ granted notes, HttpRequest.isHeaderValue c.authorization = true := by
    decide +kernel
  have hsent : (exchanges notes).map (fun x => (x.1.authorization, x.2)) =
      [(some "Bearer old", unknown), (some "Bearer new", switched)] := by
    decide +kernel
  have hentries : entries? result = some [("power", "on"), ("resultCode", "0000")] := by
    decide +kernel
  exact ⟨hheader, hsent, eq_ok_of_entries? hentries,
    fetch_contract ask wire (fun _ => .epoch) id client "lamp" request state hheader⟩

end Fetch

end DeviceHub
