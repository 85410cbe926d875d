import DeviceHub.Credential.TokenResponse

/-!
# How long a token lives

A token lives for as many seconds as its endpoint says, from when the answer came, and at most until the
end of the calendar. Two limits stand in the way of that sum: a span of time can only be so long, and so
can the calendar. The first limit is the wider one. From the first instant on, whatever is longer than
any span leads beyond the end of the calendar, and so does the longest span, which takes its place. So
where either limit is met, the exact sum is beyond the end, and where neither is, it is taken as it is.

* `longestSpan_lt_of_span?_eq_none`, `last_lt_add_longestSpan`: the first limit lies beyond the second.
* `nanos_addOrLast`: a sum that stops at the end of the calendar.
* `expiry_exact`: the expiry of a credential.
-/
namespace DeviceHub

namespace Instant

theorem nanos_last : last.nanos = 8210266876799999999999 := rfl

theorem longestSpan_lt_of_span?_eq_none {seconds : Int} (hnonneg : 0 ≤ seconds)
    (h : span? seconds = none) : longestSpan < seconds * nanosPerSecond := by
  unfold span? at h
  simp only [ite_eq_right_iff, reduceCtorEq, imp_false, not_and, Int.not_le] at h
  refine h ?_
  unfold longestSpan nanosPerSecond
  omega

theorem eq_of_span?_eq_some {seconds span : Int} (h : span? seconds = some span) :
    span = seconds * nanosPerSecond := by
  unfold span? at h
  simp only [Option.ite_none_right_eq_some, Option.some.injEq] at h
  exact h.2.symm

/-- The longest span is longer than the whole calendar. -/
theorem last_lt_add_longestSpan (t : Instant) : last.nanos < t.nanos + longestSpan := by
  have hfirst := t.inCalendar.1
  rw [nanos_last]
  unfold longestSpan
  omega

/-- A sum that the calendar does not have is beyond its end, as long as nothing is taken away. -/
theorem nanos_addOrLast (t : Instant) {span : Int} (hnonneg : 0 ≤ span) :
    ((t.add? span).getD last).nanos = min (t.nanos + span) last.nanos := by
  have hfirst := t.inCalendar.1
  unfold add? ofNanos?
  split
  · next hin =>
    have hlast : t.nanos + span ≤ last.nanos := hin.2
    exact (Int.min_eq_left hlast).symm
  · next hout =>
    have hlast : last.nanos ≤ t.nanos + span := by
      rw [nanos_last]
      omega
    exact (Int.min_eq_right hlast).symm

end Instant

namespace TokenResponse

open Instant (last longestSpan span?)

theorem lifetime_cases (r : TokenResponse) :
    r.lifetime = max 0 r.expiresIn * nanosPerSecond ∨
      r.lifetime = longestSpan ∧ longestSpan < max 0 r.expiresIn * nanosPerSecond := by
  unfold lifetime
  cases hspan : span? (max 0 r.expiresIn) with
  | some span => exact .inl (Instant.eq_of_span?_eq_some hspan)
  | none =>
    exact .inr ⟨rfl, Instant.longestSpan_lt_of_span?_eq_none (Int.le_max_left ..) hspan⟩

/-- A lifetime that was cut to the longest span makes no difference: both sums are beyond the end of the
calendar. -/
theorem nanos_expiresAt (r : TokenResponse) (receivedAt : Instant) :
    (r.credential receivedAt).expiresAt.nanos =
      min (receivedAt.nanos + max 0 r.expiresIn * nanosPerSecond) last.nanos := by
  have hbeyond := receivedAt.last_lt_add_longestSpan
  unfold credential
  rcases r.lifetime_cases with hexact | ⟨hcut, hlonger⟩
  · have hnonneg : 0 ≤ r.lifetime := by
      rw [hexact]
      unfold nanosPerSecond
      omega
    rw [Instant.nanos_addOrLast _ hnonneg, hexact]
  · have hnonneg : 0 ≤ r.lifetime := by
      rw [hcut]
      decide
    rw [Instant.nanos_addOrLast _ hnonneg, hcut]
    omega

/-- A credential expires exactly as many seconds after its answer came as the answer says, none if it
says less than none, and at the end of the calendar if that is earlier. It never expires before the
answer came, and a longer lifetime or a later answer never makes it expire earlier. -/
theorem expiry_exact (r : TokenResponse) (receivedAt : Instant) :
    let expiry := (r.credential receivedAt).expiresAt
    expiry.nanos = min (receivedAt.nanos + max 0 r.expiresIn * nanosPerSecond) last.nanos ∧
      receivedAt ≤ expiry ∧
      ∀ (longer : TokenResponse) (later : Instant), r.expiresIn ≤ longer.expiresIn →
        receivedAt ≤ later → expiry ≤ (longer.credential later).expiresAt := by
  intro expiry
  have hexact := r.nanos_expiresAt receivedAt
  refine ⟨hexact, ?_, fun longer later hlonger hlater => ?_⟩
  · have hend : receivedAt.nanos ≤ last.nanos := receivedAt.inCalendar.2
    change receivedAt.nanos ≤ expiry.nanos
    rw [hexact]
    unfold nanosPerSecond
    omega
  · have hlater : receivedAt.nanos ≤ later.nanos := hlater
    change expiry.nanos ≤ (longer.credential later).expiresAt.nanos
    rw [hexact, longer.nanos_expiresAt later]
    unfold nanosPerSecond
    omega

/-- An answer that came at the first instant, with the longest lifetime that 64 bits can say. -/
example : ((⟨"t", "Bearer", 0x7fffffffffffffff, none⟩ : TokenResponse).credential .first).expiresAt =
    last := by
  decide

end TokenResponse

end DeviceHub
