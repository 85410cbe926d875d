import DeviceHub.Proofs.Http.Attempts

/-!
# The course of a fetch

What a fetch does to the world is that it asks for credentials and exchanges messages with the
vendor. `Surroundings.noted` writes this down. A fetch is a try, and a second try when the first was
rejected: `Course` says so, and the lemmas about it read off the notes what was done and what came
of it.

* `run_noted`: a fetch does not see that notes are taken.
* `fetch_course`: every fetch takes its course.
* `Course.of_exchanged`, `Course.of_failed`, `Course.of_ok`: what a note tells about the result.
-/
namespace DeviceHub

namespace Fetch

/-! ## Notes -/

/-- What a fetch does to the world. -/
inductive Note where
  /-- It got a credential, or heard that there is none. -/
  | credited (c : Except RequestError Credential)
  /-- It sent a message, and this became of it. -/
  | exchanged (m : HttpRequest) (reply : Reply)

variable {ω : Type}

/-- Surroundings that write down what a fetch does to them, the first note first. -/
def Surroundings.noted (s : Surroundings ω) : Surroundings (ω × List Note) where
  obtain bridge w :=
    let (c, world) := s.obtain bridge w.1
    (c, world, w.2 ++ [.credited c])
  invalidateIf bridge refused w := (s.invalidateIf bridge refused w.1, w.2)
  wire m w :=
    let (reply, world) := s.wire m w.1
    (reply, world, w.2 ++ [.exchanged m reply])

variable {s : Surroundings ω} {client : HttpClient} {device : String} {request : DeviceRequest}

theorem noted_obtain (bridge : String) (world : ω) (notes : List Note) :
    s.noted.obtain bridge (world, notes) = ((s.obtain bridge world).1, (s.obtain bridge world).2,
      notes ++ [.credited (s.obtain bridge world).1]) := rfl

theorem noted_wire (m : HttpRequest) (world : ω) (notes : List Note) :
    s.noted.wire m (world, notes) = ((s.wire m world).1, (s.wire m world).2,
      notes ++ [.exchanged m (s.wire m world).1]) := rfl

theorem noted_told (bridge : String) (refused : Option Credential) (world : ω)
    (notes : List Note) :
    s.noted.told bridge refused (world, notes) = (s.told bridge refused world, notes) := by
  cases refused <;> rfl

/-- By induction on the steps left: the notes change nothing. -/
theorem run_noted (s : Surroundings ω) (client : HttpClient) (device : String)
    (request : DeviceRequest) (fuel : Nat) (phase : Phase) (world : ω) (notes : List Note) :
    (run s.noted client device request fuel phase (world, notes)).1 =
        (run s client device request fuel phase world).1 ∧
      (run s.noted client device request fuel phase (world, notes)).2.1 =
        (run s client device request fuel phase world).2 := by
  induction fuel generalizing phase world notes with
  | zero => exact ⟨rfl, rfl⟩
  | succ fuel ih =>
    cases phase with
    | ended result => exact ⟨rfl, rfl⟩
    | acquiring | reacquiring => exact ih _ _ _
    | sent c | resent c =>
      simp only [run, HttpClient.attempt_eq]
      cases client.prepared device request c with
      | error e =>
        simp only [noted_told]
        exact ih _ _ _
      | ok m =>
        simp only [noted_wire, noted_told]
        exact ih _ _ _

/-! ## The course of a fetch -/

/-- The notes of one try: a credential, and what came of the message that was sent with it. -/
inductive Try (client : HttpClient) (device : String) (request : DeviceRequest) :
    List Note → Except RequestError Payload → Prop where
  | refused {e : RequestError} (he : e ≠ .sessionExpired) :
      Try client device request [.credited (.error e)] (.error e)
  | unsent {c : Credential} {e : RequestError}
      (prepared : client.prepared device request c = .error e) :
      Try client device request [.credited (.ok c)] (.error e)
  | exchanged {c : Credential} {m : HttpRequest} {reply : Reply}
      (prepared : client.prepared device request c = .ok m) :
      Try client device request [.credited (.ok c), .exchanged m reply]
        (client.outcome device request m reply)

/-- What a second try amounts to. -/
def final : Except RequestError Payload → Except RequestError Payload
  | .error .sessionExpired => .error (.authentication "credentials rejected after refresh")
  | result => result

/-- The notes of a fetch: one try, and another when the first was rejected. -/
inductive Course (client : HttpClient) (device : String) (request : DeviceRequest) :
    List Note → Except RequestError Payload → Prop where
  | once {notes : List Note} {result : Except RequestError Payload}
      (only : Try client device request notes result) (kept : result ≠ .error .sessionExpired) :
      Course client device request notes result
  | twice {first second : List Note} {result : Except RequestError Payload}
      (rejected : Try client device request first (.error .sessionExpired))
      (again : Try client device request second result) :
      Course client device request (first ++ second) (final result)

/-- A try that is rejected is one that was sent. -/
theorem Try.rejected {notes : List Note}
    (h : Try client device request notes (.error .sessionExpired)) :
    ∃ c m r, notes = [.credited (.ok c), .exchanged m (.response r)] ∧
      client.prepared device request c = .ok m ∧ r.Rejects request := by
  generalize hresult : (Except.error RequestError.sessionExpired : Except RequestError Payload) =
    result at h
  cases h with
  | refused he =>
    cases hresult
    exact absurd rfl he
  | unsent prepared =>
    cases hresult
    exact absurd prepared (HttpClient.prepared_ne_expired _)
  | @exchanged c m reply prepared =>
    obtain ⟨r, rfl, hr⟩ := HttpClient.outcome_eq_expired.1 hresult.symm
    exact ⟨c, m, r, rfl, prepared, hr⟩

theorem isAuthRejection_iff {e : RequestError} :
    e.isAuthRejection = true ↔ e = .sessionExpired := by
  cases e <;> simp [RequestError.isAuthRejection]

section

variable (s client device request)

/-- With a credential a fetch sends its message, if it can, and reads what comes of it. -/
theorem run_sent {phase : Phase} {c : Credential} (hphase : phase = .sent c ∨ phase = .resent c)
    (fuel : Nat) (world : ω) (notes : List Note) :
    ∃ tail result world', Try client device request (.credited (.ok c) :: tail) result ∧
      run s.noted client device request (fuel + 1) phase (world, notes) =
        run s.noted client device request fuel (phase.answered result) (world', notes ++ tail) := by
  have hrun : run s.noted client device request (fuel + 1) phase (world, notes) =
      let (result, after) := client.attempt s.noted.wire device request c (world, notes)
      run s.noted client device request fuel (phase.answered result)
        (s.noted.told client.bridge (phase.refused? result) after) := by
    rcases hphase with rfl | rfl <;> rfl
  rw [hrun, HttpClient.attempt_eq]
  cases hprepared : client.prepared device request c with
  | error e =>
    refine ⟨[], .error e, s.told client.bridge (phase.refused? (.error e)) world,
      .unsent hprepared, ?_⟩
    simp only [noted_told, List.append_nil]
  | ok m =>
    refine ⟨[.exchanged m (s.wire m world).1], client.outcome device request m (s.wire m world).1,
      s.told client.bridge (phase.refused? (client.outcome device request m (s.wire m world).1))
        (s.wire m world).2, .exchanged hprepared, ?_⟩
    simp only [noted_wire, noted_told]

theorem answered_sent {c : Credential} {result : Except RequestError Payload}
    (h : result ≠ .error .sessionExpired) : (Phase.sent c).answered result = .ended result := by
  cases result with
  | ok payload => rfl
  | error e =>
    have hkept : ¬e.isAuthRejection = true := by
      rw [isAuthRejection_iff]
      rintro rfl
      exact h rfl
    exact if_neg hkept

theorem answered_resent (c : Credential) (result : Except RequestError Payload) :
    (Phase.resent c).answered result = .ended (final result) := by
  cases result with
  | ok payload => rfl
  | error e => cases e <;> rfl

theorem final_of_ne {result : Except RequestError Payload} (h : result ≠ .error .sessionExpired) :
    final result = result := by
  unfold final
  split
  · exact absurd rfl h
  · rfl

/-- A second try ends the fetch. -/
theorem run_reacquiring (hs : ∀ bridge w, (s.obtain bridge w).1 ≠ .error .sessionExpired)
    (fuel : Nat) (world : ω) (notes : List Note) :
    ∃ tried result world', Try client device request tried result ∧
      run s.noted client device request (fuel + 3) .reacquiring (world, notes) =
        (final result, world', notes ++ tried) := by
  have hsource := hs client.bridge world
  rw [run]
  simp only [noted_obtain]
  cases hc : (s.obtain client.bridge world).1 with
  | error e =>
    have he : e ≠ .sessionExpired := by
      rintro rfl
      exact hsource hc
    refine ⟨[.credited (.error e)], .error e, (s.obtain client.bridge world).2, .refused he, ?_⟩
    rw [final_of_ne (by simp [he])]
    rfl
  | ok c =>
    obtain ⟨tail, result, world', htry, hrun⟩ := run_sent s client device request
      (.inr (rfl : Phase.resent c = _)) (fuel + 1) (s.obtain client.bridge world).2
      (notes ++ [.credited (.ok c)])
    refine ⟨.credited (.ok c) :: tail, result, world', htry, ?_⟩
    rw [answered_resent, List.append_assoc] at hrun
    exact hrun

/-- A fetch takes its course. -/
theorem fetch_course (hs : ∀ bridge w, (s.obtain bridge w).1 ≠ .error .sessionExpired)
    (world : ω) :
    Course client device request (client.fetchAmid s.noted device request (world, [])).2.2
      (client.fetchAmid s.noted device request (world, [])).1 := by
  have hsource := hs client.bridge world
  unfold HttpClient.fetchAmid
  rw [run]
  simp only [noted_obtain, List.nil_append]
  cases hc : (s.obtain client.bridge world).1 with
  | error e =>
    have he : e ≠ .sessionExpired := by
      rintro rfl
      exact hsource hc
    have hkept : (Except.error e : Except RequestError Payload) ≠ .error .sessionExpired := by
      simp [he]
    exact .once (.refused he) hkept
  | ok c =>
    obtain ⟨tail, result, world', htry, hrun⟩ := run_sent s client device request
      (.inl (rfl : Phase.sent c = _)) 3 (s.obtain client.bridge world).2 [.credited (.ok c)]
    simp only [Phase.credited, hrun]
    by_cases hresult : result = .error .sessionExpired
    · subst hresult
      obtain ⟨tried, result, world', hagain, hrun⟩ := run_reacquiring s client device request hs 0
        world' ([.credited (.ok c)] ++ tail)
      have hphase : (Phase.sent c).answered (.error .sessionExpired) = .reacquiring := rfl
      rw [hphase, hrun]
      exact .twice htry hagain
    · rw [answered_sent hresult]
      exact .once htry hresult

end

/-! ## What the notes tell -/

/-- The messages that were exchanged. -/
def exchanges (notes : List Note) : List (HttpRequest × Reply) :=
  notes.filterMap fun note =>
    match note with
    | .exchanged m reply => some (m, reply)
    | .credited _ => none

/-- The credentials that were obtained. -/
def granted (notes : List Note) : List Credential :=
  notes.filterMap fun note =>
    match note with
    | .credited (.ok c) => some c
    | _ => none

variable {notes before after : List Note} {m : HttpRequest} {reply : Reply} {e : RequestError}
  {result : Except RequestError Payload}

theorem Try.length_exchanges_le (h : Try client device request notes result) :
    (exchanges notes).length ≤ 1 := by
  cases h with
  | refused | unsent => exact Nat.zero_le 1
  | exchanged => exact Nat.le_refl 1

theorem Try.of_exchanged (h : Try client device request notes result)
    (hnotes : notes = before ++ .exchanged m reply :: after) :
    ∃ c, before = [.credited (.ok c)] ∧ client.prepared device request c = .ok m ∧ after = [] ∧
      result = client.outcome device request m reply := by
  cases h with
  | refused => rcases before with _ | ⟨note, _ | ⟨_, _⟩⟩ <;> simp at hnotes
  | unsent => rcases before with _ | ⟨note, _ | ⟨_, _⟩⟩ <;> simp at hnotes
  | @exchanged c sent answer prepared =>
    rcases before with _ | ⟨note, _ | ⟨_, _ | ⟨_, _⟩⟩⟩ <;> simp at hnotes
    obtain ⟨rfl, ⟨rfl, rfl⟩, rfl⟩ := hnotes
    exact ⟨c, rfl, prepared, rfl, rfl⟩

/-- Why a fetch gets no further than to a note: there is no credential, or no message to be sent
with it. -/
def Note.failure? (client : HttpClient) (device : String) (request : DeviceRequest) :
    Note → Option RequestError
  | .credited (.error e) => some e
  | .credited (.ok c) =>
    match client.prepared device request c with
    | .error e => some e
    | .ok _ => none
  | .exchanged .. => none

theorem Try.of_failed {note : Note} (h : Try client device request notes result)
    (hnotes : notes = before ++ note :: after)
    (hfailure : note.failure? client device request = some e) :
    after = [] ∧ result = .error e ∧ e ≠ .sessionExpired := by
  cases h with
  | refused he =>
    rcases before with _ | ⟨first, _ | ⟨_, _⟩⟩ <;> simp at hnotes
    obtain ⟨rfl, rfl⟩ := hnotes
    cases hfailure
    exact ⟨rfl, rfl, he⟩
  | @unsent c f prepared =>
    rcases before with _ | ⟨first, _ | ⟨_, _⟩⟩ <;> simp at hnotes
    obtain ⟨rfl, rfl⟩ := hnotes
    simp only [Note.failure?, prepared, Option.some.injEq] at hfailure
    subst hfailure
    refine ⟨rfl, rfl, ?_⟩
    rintro rfl
    exact HttpClient.prepared_ne_expired c prepared
  | exchanged prepared =>
    rcases before with _ | ⟨first, _ | ⟨_, _ | ⟨_, _⟩⟩⟩ <;> simp at hnotes
    · obtain ⟨rfl, rfl⟩ := hnotes
      simp [Note.failure?, prepared] at hfailure
    · obtain ⟨rfl, rfl, rfl⟩ := hnotes
      cases hfailure

theorem Try.of_ok {payload : Payload} (h : Try client device request notes (.ok payload)) :
    ∃ c m r, notes = [.credited (.ok c), .exchanged m (.response r)] ∧
      r.Means client.timeoutSeconds device request (.ok payload) := by
  generalize hresult : (Except.ok payload : Except RequestError Payload) = result at h
  cases h with
  | refused => cases hresult
  | unsent => cases hresult
  | @exchanged c m reply prepared =>
    obtain ⟨r, rfl, hmeans⟩ := HttpClient.outcome_eq_ok hresult.symm
    exact ⟨c, m, r, rfl, hresult ▸ hmeans⟩

/-- A note in two lists, one after the other, is in one of them. -/
theorem append_cases {first second : List Note} {note : Note}
    (h : first ++ second = before ++ note :: after) :
    (∃ rest, first = before ++ note :: rest ∧ after = rest ++ second) ∨
      ∃ rest, before = first ++ rest ∧ second = rest ++ note :: after := by
  rcases List.append_eq_append_iff.1 h with ⟨rest, hbefore, hsecond⟩ | ⟨rest, hfirst, hrest⟩
  · exact .inr ⟨rest, hbefore, hsecond⟩
  · cases rest with
    | nil => exact .inr ⟨[], by simp [hfirst], hrest.symm⟩
    | cons head rest =>
      obtain ⟨rfl, rfl⟩ := List.cons.inj hrest
      exact .inl ⟨rest, hfirst, rfl⟩

/-- A message is sent with the credential noted just before, and what comes of it is final unless it
is the first rejection. -/
theorem Course.of_exchanged (h : Course client device request notes result)
    (hnotes : notes = before ++ .exchanged m reply :: after) :
    ∃ earlier c, before = earlier ++ [.credited (.ok c)] ∧
      client.prepared device request c = .ok m ∧
      (after = [] ∧ result = final (client.outcome device request m reply) ∨
        client.outcome device request m reply = .error .sessionExpired ∧
          ∃ again, Try client device request after again ∧ result = final again) := by
  cases h with
  | once only kept =>
    obtain ⟨c, rfl, hprepared, rfl, rfl⟩ := only.of_exchanged hnotes
    exact ⟨[], c, rfl, hprepared, .inl ⟨rfl, (final_of_ne kept).symm⟩⟩
  | @twice first second again rejected htry =>
    rcases append_cases hnotes with ⟨rest, hfirst, rfl⟩ | ⟨rest, hbefore, hsecond⟩
    · obtain ⟨c, rfl, hprepared, rfl, houtcome⟩ := rejected.of_exchanged hfirst
      exact ⟨[], c, rfl, hprepared, .inr ⟨houtcome.symm, again, htry, rfl⟩⟩
    · obtain ⟨c, rfl, hprepared, rfl, rfl⟩ := htry.of_exchanged hsecond
      exact ⟨first, c, hbefore, hprepared, .inl ⟨rfl, rfl⟩⟩

theorem Course.of_failed {note : Note} (h : Course client device request notes result)
    (hnotes : notes = before ++ note :: after)
    (hfailure : note.failure? client device request = some e) :
    after = [] ∧ result = .error e := by
  cases h with
  | once only kept =>
    obtain ⟨rfl, rfl, -⟩ := only.of_failed hnotes hfailure
    exact ⟨rfl, rfl⟩
  | @twice first second again rejected htry =>
    rcases append_cases hnotes with ⟨rest, hfirst, -⟩ | ⟨rest, hbefore, hsecond⟩
    · -- the first try was rejected, which is another kind of failure
      obtain ⟨-, hresult, he⟩ := rejected.of_failed hfirst hfailure
      simp [he.symm] at hresult
    · obtain ⟨rfl, rfl, he⟩ := htry.of_failed hsecond hfailure
      exact ⟨rfl, final_of_ne (by simp [he])⟩

/-- After a rejection there is a second try. -/
theorem Course.of_rejected {c : Credential} {m : HttpRequest} {r : HttpResponse}
    {more : List Note}
    (h : Course client device request
      (.credited (.ok c) :: .exchanged m (.response r) :: more) result)
    (hr : r.Rejects request) :
    ∃ again, Try client device request more again ∧ result = final again ∧
      client.prepared device request c = .ok m := by
  have houtcome : client.outcome device request m (.response r) = .error .sessionExpired :=
    HttpClient.outcome_eq_expired.2 ⟨r, rfl, hr⟩
  generalize hnotes : Note.credited (.ok c) :: .exchanged m (.response r) :: more = notes at h
  have hnotes' : notes = [.credited (.ok c)] ++ .exchanged m (.response r) :: more := hnotes.symm
  cases h with
  | once only kept =>
    obtain ⟨-, -, -, -, hresult⟩ := only.of_exchanged hnotes'
    exact absurd (hresult.trans houtcome) kept
  | @twice first second again rejected htry =>
    obtain ⟨c', m', r', rfl, hprepared, -⟩ := rejected.rejected
    obtain ⟨hc, hm, hmore⟩ : c = c' ∧ (m = m' ∧ r = r') ∧ more = second := by simpa using hnotes
    obtain ⟨rfl, rfl⟩ := hm
    subst hc hmore
    exact ⟨again, htry, rfl, hprepared⟩

theorem final_eq_ok {payload : Payload} (h : final result = .ok payload) :
    result = .ok payload := by
  unfold final at h
  split at h
  · cases h
  · exact h

theorem final_ne_expired (result : Except RequestError Payload) :
    final result ≠ .error .sessionExpired := by
  unfold final
  split
  · simp
  · next hkept => exact fun h => hkept h

/-- There are two exchanges when there is a credential for a second try. -/
theorem Course.length_exchanges (h : Course client device request notes result)
    (hheader : ∀ c ∈ granted notes, HttpRequest.isHeaderValue c.authorization = true) :
    (exchanges notes).length ≤ 2 ∧
      ((exchanges notes).length = 2 ↔ ∃ first m r next more, r.Rejects request ∧
        notes = .credited (.ok first) :: .exchanged m (.response r) ::
          .credited (.ok next) :: more) := by
  have hshape := h
  cases h with
  | once only kept =>
    have hle := only.length_exchanges_le
    refine ⟨by omega, ⟨fun htwo => by omega, ?_⟩⟩
    rintro ⟨first, m, r, next, more, hr, hnotes⟩
    subst hnotes
    -- a try has no third note
    cases only
  | @twice first second again rejected htry =>
    obtain ⟨c, m, r, rfl, hprepared, hr⟩ := rejected.rejected
    have hfirst : exchanges ([.credited (.ok c), .exchanged m (.response r)] ++ second) =
        (m, .response r) :: exchanges second := rfl
    rw [hfirst, List.length_cons]
    have hle := htry.length_exchanges_le
    refine ⟨by omega, ?_⟩
    cases htry with
    | refused he => simp [exchanges]
    | @unsent other f prepared =>
      -- what was sent with one credential can be sent with another
      obtain ⟨m', hm'⟩ := HttpClient.prepared_of_prepared hprepared
        (hheader other (by simp [granted]))
      simp [hm'] at prepared
    | @exchanged other m' reply prepared =>
      refine ⟨fun _ => ?_, fun _ => rfl⟩
      exact ⟨c, m, r, other, _, hr, rfl⟩

/-- A payload is read from the last response. -/
theorem Course.of_ok {payload : Payload} (h : Course client device request notes (.ok payload)) :
    ∃ before m r, notes = before ++ [.exchanged m (.response r)] ∧
      r.Means client.timeoutSeconds device request (.ok payload) := by
  generalize hresult : (Except.ok payload : Except RequestError Payload) = result at h
  cases h with
  | once only kept =>
    subst hresult
    obtain ⟨c, m, r, rfl, hmeans⟩ := only.of_ok
    exact ⟨[.credited (.ok c)], m, r, rfl, hmeans⟩
  | @twice first second again rejected htry =>
    have hagain := final_eq_ok hresult.symm
    subst hagain
    obtain ⟨c, m, r, rfl, hmeans⟩ := htry.of_ok
    refine ⟨first ++ [.credited (.ok c)], m, r, ?_, hmeans⟩
    rw [List.append_assoc]
    rfl

/-- A rejection that ends the notes is that of a second try. -/
theorem Course.of_rejected_last {r : HttpResponse} (h : Course client device request notes result)
    (hnotes : notes = before ++ [.exchanged m (.response r)]) (hr : r.Rejects request) :
    (exchanges notes).length = 2 ∧
      result = .error (.authentication "credentials rejected after refresh") := by
  have houtcome : client.outcome device request m (.response r) = .error .sessionExpired :=
    HttpClient.outcome_eq_expired.2 ⟨r, rfl, hr⟩
  cases h with
  | once only kept =>
    obtain ⟨-, -, -, -, hresult⟩ := only.of_exchanged hnotes
    exact absurd (hresult.trans houtcome) kept
  | @twice first second again rejected htry =>
    obtain ⟨c, m', r', rfl, -⟩ := rejected.rejected
    have hsecond : ∃ next, second = [.credited (.ok next), .exchanged m (.response r)] ∧
        again = client.outcome device request m (.response r) := by
      rcases append_cases hnotes with ⟨rest, -, hrest⟩ | ⟨rest, -, hsecond⟩
      · -- a try is not empty
        obtain ⟨-, rfl⟩ := List.append_eq_nil_iff.1 hrest.symm
        cases htry
      · obtain ⟨next, rfl, -, -, hagain⟩ := htry.of_exchanged hsecond
        exact ⟨next, hsecond, hagain⟩
    obtain ⟨next, rfl, rfl⟩ := hsecond
    refine ⟨rfl, ?_⟩
    rw [houtcome]
    rfl

end Fetch

end DeviceHub
