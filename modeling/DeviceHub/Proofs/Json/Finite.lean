import DeviceHub.Http.Client
import DeviceHub.Proofs.Json.Numbers

/-!
# JSON has no infinite numbers

A JSON text can only write finite numbers: a numeral too large for the format is refused, and there
is no word for a number that is none. The type of values is wider, since the same type carries the
values of configurations, which know such words.

* `read?_isFinite`: every number in the value of a JSON text is finite.
* `isFinite_iff`: a value is finite when all the numbers in it are.
* `fetch_inRange`, `fetch_isFinite`: a payload fetched from a vendor holds only numbers that a JSON text
  can write, and so finite ones.
-/
namespace DeviceHub

namespace Json

def Number.isFinite : Number → Bool
  | .integer _ => true
  | .decimal x => x.isFinite

mutual

/-- Whether all numbers in a value are finite. -/
def isFinite : Json → Bool
  | .number n => n.isFinite
  | .array items => isFiniteItems items
  | .object members => isFiniteMembers members
  | .null | .bool _ | .text _ => true

def isFiniteItems : List Json → Bool
  | [] => true
  | v :: vs => isFinite v && isFiniteItems vs

def isFiniteMembers : List (String × Json) → Bool
  | [] => true
  | (_, v) :: vs => isFinite v && isFiniteMembers vs

end

theorem Number.isFinite_of_inRange {n : Number} (h : n.inRange = true) : n.isFinite = true := by
  cases n with
  | integer n => rfl
  | decimal x => exact h

mutual

theorem isFinite_iff : ∀ v : Json, v.isFinite = true ↔ ∀ n ∈ v.numbers, n.isFinite = true
  | .null | .bool _ | .text _ => by simp [isFinite, numbers]
  | .number n => by simp [isFinite, numbers]
  | .array items => isFiniteItems_iff_numbers items
  | .object members => isFiniteMembers_iff_numbers members

theorem isFiniteItems_iff_numbers :
    ∀ vs : List Json, isFiniteItems vs = true ↔ ∀ n ∈ numbersItems vs, n.isFinite = true
  | [] => by simp [isFiniteItems, numbersItems]
  | v :: vs => by
    simp only [isFiniteItems, numbersItems, Bool.and_eq_true, List.forall_mem_append,
      isFinite_iff v, isFiniteItems_iff_numbers vs]

theorem isFiniteMembers_iff_numbers : ∀ vs : List (String × Json),
    isFiniteMembers vs = true ↔ ∀ n ∈ numbersMembers vs, n.isFinite = true
  | [] => by simp [isFiniteMembers, numbersMembers]
  | (_, v) :: vs => by
    simp only [isFiniteMembers, numbersMembers, Bool.and_eq_true, List.forall_mem_append,
      isFinite_iff v, isFiniteMembers_iff_numbers vs]

end

theorem isFinite_of_inRange {v : Json} (h : v.inRange = true) : v.isFinite = true :=
  (isFinite_iff v).2 fun n hn => Number.isFinite_of_inRange (inRange_iff.1 h n hn)

theorem read?_isFinite {text : String} {v : Json} (h : read? text = some v) :
    v.isFinite = true :=
  isFinite_of_inRange (read?_inRange h)

end Json

/-! ## Payloads -/

/-- Whether a payload holds finite numbers only. -/
def Payload.isFinite : Payload → Bool
  | .json v => v.isFinite
  | .keyValue _ | .binary .. => true

/-- Whether a JSON text can write all numbers in a payload. -/
def Payload.inRange : Payload → Bool
  | .json v => v.inRange
  | .keyValue _ | .binary .. => true

theorem Payload.isFinite_of_inRange {p : Payload} (h : p.inRange = true) : p.isFinite = true := by
  cases p with
  | json v => exact Json.isFinite_of_inRange h
  | keyValue | binary => rfl

section

variable {client : HttpClient} {device : String} {request : DeviceRequest}

theorem decode_inRange {format : PayloadFormat} {r : HttpResponse} {p : Payload}
    (h : client.decode format r = .ok p) : p.inRange = true := by
  unfold HttpClient.decode at h
  split at h
  · cases h
  cases format with
  | json =>
    simp only at h
    split at h
    · next v hv => cases h; exact Json.read?_inRange hv
    · cases h
  | keyValue =>
    simp only at h
    split at h
    · cases h; rfl
    · cases h
  | binary => cases h; rfl

theorem read_inRange {r : HttpResponse} {p : Payload}
    (h : client.read device request r = .ok p) : p.inRange = true := by
  unfold HttpClient.read at h
  split at h
  · cases h
  split at h
  · cases h
  cases hd : client.decode request.format r with
  | error e => rw [hd] at h; cases h
  | ok payload =>
    rw [hd] at h
    have hp : payload = p := by
      cases he : request.envelope with
      | none => rw [he] at h; cases h; rfl
      | some e =>
        rw [he] at h
        cases hc : e.check device payload with
        | error e' => simp [hc, bind, Except.bind] at h
        | ok _ => simpa [hc, bind, Except.bind] using h
    exact hp ▸ decode_inRange hd

variable {ω : Type}

theorem attempt_inRange {wire : Wire ω} {c : Credential} {world : ω} {p : Payload}
    (h : (client.attempt wire device request c world).1 = .ok p) : p.inRange = true := by
  unfold HttpClient.attempt at h
  split at h
  · cases h
  · split at h
    · exact read_inRange h
    · cases h

theorem credited_ended {phase : Fetch.Phase} {c : Except RequestError Credential} {p : Payload}
    (h : phase.credited c = .ended (.ok p)) : phase = .ended (.ok p) := by
  cases phase <;> cases c <;> simp_all [Fetch.Phase.credited]

theorem answered_ended {phase : Fetch.Phase} {result : Except RequestError Payload} {p : Payload}
    (h : phase.answered result = .ended (.ok p)) : phase = .ended (.ok p) ∨ result = .ok p := by
  unfold Fetch.Phase.answered at h
  split at h
  · split at h <;> cases h
  · cases h; exact .inr rfl
  · split at h <;> cases h
  · cases h; exact .inr rfl
  · exact .inl h

/-- By induction on the steps left: a phase that has ended with a payload has one that was read. -/
theorem run_inRange {s : Fetch.Surroundings ω} {p : Payload} : ∀ (fuel : Nat)
    (phase : Fetch.Phase) (world : ω), (∀ q, phase = .ended (.ok q) → q.inRange = true) →
    (Fetch.run s client device request fuel phase world).1 = .ok p → p.inRange = true
  | 0, _, _, _, h => by cases h
  | fuel + 1, phase, world, hphase, h => by
    cases phase with
    | ended result => simp only [Fetch.run] at h; exact hphase p (by rw [h])
    | acquiring | reacquiring =>
      exact run_inRange fuel _ _ (fun q hq => hphase q (credited_ended hq)) h
    | sent c | resent c =>
      refine run_inRange fuel _ _ (fun q hq => ?_) h
      rcases answered_ended hq with hq | hq
      · exact hphase q hq
      · exact attempt_inRange hq

theorem fetch_inRange {τ : Type} {wire : Wire τ} {now : Instant}
    {refresher : Refresher TokenSource} {world : τ} {p : Payload}
    (h : (client.fetch wire now device request refresher world).1 = .ok p) : p.inRange = true :=
  run_inRange 5 .acquiring (refresher, world) (fun _ hq => by cases hq) h

theorem fetch_isFinite {τ : Type} {wire : Wire τ} {now : Instant}
    {refresher : Refresher TokenSource} {world : τ} {p : Payload}
    (h : (client.fetch wire now device request refresher world).1 = .ok p) : p.isFinite = true :=
  Payload.isFinite_of_inRange (fetch_inRange h)

end

end DeviceHub
