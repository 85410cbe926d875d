import DeviceHub.Credential.Refresher
import DeviceHub.Proofs.Credential.Memory

/-!
# When a stored credential is served

A store serves its credential as long as the expiry that the credential came with is later than now and
the margin together. The sum is exact, and a margin that is too long for an interval of time counts as
the longest one, which makes no difference (`isWithin_marginOf`).

It makes a difference when the sum leaves the calendar: then nothing counts as expired, and a credential
is served whatever its expiry (`expired_served`).

* `isWithin_iff`: what counts as expired, in terms of exact sums.
* `reportedExpiry_slotOf`: what counts is the expiry of the credential that was given last.
* `served_until_expiry`: exactly when a credential is served, and what follows while the sum of now and
  the margin is in the calendar.
-/
namespace DeviceHub

namespace Instant

/-- The longest interval of time, in nanoseconds: as many milliseconds as 64 bits with sign can count. -/
def longestMargin : Nat := 0x7fffffffffffffff * 1000000

/-- The margin in nanoseconds that a span of time comes to. -/
def marginOf (span : Nat) : Nat := min span longestMargin

/-- Whether the calendar has the instant that is a span of time later. -/
def Reaches (now : Instant) (span : Nat) : Prop := now.nanos + span ≤ last.nanos

variable {expiry now : Instant} {span : Nat}

/-- An instant counts as expired when it is not later than a deadline that the calendar has. -/
theorem isWithin_iff :
    expiry.isWithin span now = true ↔ now.Reaches span ∧ expiry.nanos ≤ now.nanos + span := by
  have hstart := now.inCalendar.1
  unfold isWithin add? ofNanos? Reaches
  by_cases hin : -8334601228800000000000 ≤ now.nanos + span ∧
      now.nanos + span ≤ 8210266876799999999999
  · rw [dif_pos hin]
    simp only [decide_eq_true_eq]
    exact ⟨fun h => ⟨hin.2, h⟩, fun h => h.2⟩
  · rw [dif_neg hin]
    have hout : ¬now.nanos + span ≤ last.nanos := fun h => hin ⟨by omega, h⟩
    exact ⟨fun h => Bool.noConfusion h, fun h => absurd h.1 hout⟩

/-- A margin that had to be shortened leads out of the calendar all the same. -/
theorem isWithin_marginOf (expiry now : Instant) (span : Nat) :
    expiry.isWithin (marginOf span) now = expiry.isWithin span now := by
  have hstart := now.inCalendar.1
  rw [Bool.eq_iff_iff, isWithin_iff, isWithin_iff]
  unfold Reaches marginOf
  have hlast : last.nanos = 8210266876799999999999 := rfl
  rcases Nat.le_total span longestMargin with hle | hlong
  · rw [Nat.min_eq_left hle]
  · have hlongest : longestMargin = 9223372036854775807000000 := rfl
    rw [Nat.min_eq_right hlong]
    omega

end Instant

namespace CredentialStore

open Instant (marginOf)

/-- The expiry that the credential given last came with. -/
def reported? (past : List Deed) : Option Instant := (given past).head?.map Credential.expiresAt

/-- As long as a credential is there, its own expiry is. -/
theorem reportedExpiry_slotOf {past : List Deed} {c : Credential}
    (h : (slotOf past).current = some c) : (slotOf past).reportedExpiry = reported? past := by
  induction past with
  | nil => cases h
  | cons d past ih =>
    cases d with
    | stored given => rfl
    | dropped => cases h
    | refused r =>
      simp only [slotOf, Deed.apply] at h ⊢
      split at h
      · cases h
      · next hkept =>
        rw [if_neg hkept]
        exact ih h

variable {bridge : String} {acts : List Act} {expiry : Instant}

theorem fresh?_eq_some_iff (hexpiry : reported? (since bridge acts) = some expiry) {margin : Int}
    {now : Instant} {c : Credential} :
    (run acts).fresh? bridge margin now = some c ↔
      (run acts).current? bridge = some c ∧ expiry.isWithin margin now = false := by
  unfold fresh? current?
  rw [slot_run, CredentialSlot.fresh?, Option.filter_eq_some_iff]
  refine and_congr_right fun hcurrent => ?_
  rw [reportedExpiry_slotOf hcurrent, hexpiry, Option.getD_some, Bool.not_eq_true']

/-- When a store serves the credential of a bridge that came with some expiry. -/
structure Serves (bridge : String) (acts : List Act) (expiry : Instant) : Prop where
  /-- It serves the credential that is there when its expiry is later than now and the margin together,
  and also when these leave the calendar. -/
  exact : ∀ span now c, (run acts).fresh? bridge (marginOf span) now = some c ↔
    (run acts).current? bridge = some c ∧
      (now.nanos + span < expiry.nanos ∨ ¬now.Reaches span)
  /-- In the calendar it serves what is later than now and the margin together, and nothing else. -/
  inTime : ∀ span now, now.Reaches span → ∀ c,
    (run acts).fresh? bridge (marginOf span) now = some c → now.nanos + span < expiry.nanos
  /-- What has expired is not served for any margin. -/
  expired : ∀ span now, now.Reaches span → expiry ≤ now →
    (run acts).fresh? bridge (marginOf span) now = none
  /-- What must be refreshed for one margin must be for a larger one. -/
  enlarged : ∀ span larger now, span ≤ larger → now.Reaches larger →
    (run acts).fresh? bridge (marginOf span) now = none →
    (run acts).fresh? bridge (marginOf larger) now = none
  /-- The margin of a policy is that many seconds. -/
  policy : ∀ (p : RefreshPolicy) now, (run acts).fresh? bridge p.marginNanos now =
    (run acts).fresh? bridge (marginOf (p.margin * 1000000000)) now

theorem served_until_expiry (bridge : String) (acts : List Act) {expiry : Instant}
    (hexpiry : reported? (since bridge acts) = some expiry) : Serves bridge acts expiry := by
  have hexact : ∀ (span : Nat) now c, (run acts).fresh? bridge (marginOf span) now = some c ↔
      (run acts).current? bridge = some c ∧
        (now.nanos + span < expiry.nanos ∨ ¬now.Reaches span) := by
    intro span now c
    rw [fresh?_eq_some_iff hexpiry, Instant.isWithin_marginOf, ← Bool.not_eq_true,
      Instant.isWithin_iff]
    refine and_congr_right fun _ => ?_
    rw [Classical.not_and_iff_not_or_not, Int.not_le, or_comm]
  have hinTime : ∀ (span : Nat) now, now.Reaches span → ∀ c,
      (run acts).fresh? bridge (marginOf span) now = some c → now.nanos + span < expiry.nanos :=
    fun span now hin c hc => ((hexact span now c).1 hc).2.resolve_right (not_not_intro hin)
  refine ⟨hexact, hinTime, fun span now hin hle => ?_, fun span larger now hlarger hin hnone => ?_,
    fun p now => ?_⟩
  · refine Option.eq_none_iff_forall_ne_some.2 fun c hc => ?_
    have hlater := hinTime span now hin c hc
    have hle : expiry.nanos ≤ now.nanos := hle
    omega
  · refine Option.eq_none_iff_forall_ne_some.2 fun c hc => ?_
    have hlater := hinTime larger now hin c hc
    have hthere := ((hexact larger now c).1 hc).1
    have hserved := (hexact span now c).2 ⟨hthere, .inl (by omega)⟩
    rw [hnone] at hserved
    cases hserved
  · refine Option.ext fun c => ?_
    have hnanos : p.marginNanos = ((p.margin * 1000000000 : Nat) : Int) := by
      simp [RefreshPolicy.marginNanos, nanosPerSecond]
    rw [fresh?_eq_some_iff hexpiry, fresh?_eq_some_iff hexpiry, Instant.isWithin_marginOf, hnanos]

/-- A credential that was stored after one that lives longer is shown with the longer life, and is
not served all the same once its own has passed. -/
theorem served_until_expiry_short :
    let short : Credential := ⟨"b", "Bearer", .epoch, none⟩
    let acts : List Act := [.replace "hub" ⟨"a", "Bearer", .last, none⟩, .replace "hub" short]
    reported? (since "hub" acts) = some .epoch ∧
      (run acts).current? "hub" = some { short with expiresAt := .last } ∧
      Instant.epoch.Reaches 60000000000 ∧
      (run acts).fresh? "hub" (marginOf 60000000000) .epoch = none := by
  intro short acts
  have hreported : reported? (since "hub" acts) = some .epoch := by rfl
  have hreaches : Instant.epoch.Reaches 60000000000 := by
    unfold Instant.Reaches
    decide
  have hcurrent : (run acts).current? "hub" = some { short with expiresAt := .last } := by rfl
  exact ⟨hreported, hcurrent, hreaches,
    (served_until_expiry "hub" acts hreported).expired _ _ hreaches (Instant.le_refl _)⟩

/-- A credential that expired a second ago: it is not served for the usual margin, but for a margin that
leads out of the calendar it is. -/
theorem expired_served :
    let held : Credential := ⟨"t", "Bearer", .epoch, none⟩
    let acts : List Act := [.replace "hub" held]
    let now : Instant := ⟨1000000000, by decide⟩
    let far : RefreshPolicy := { RefreshPolicy.usual with margin := 9000000000000 }
    reported? (since "hub" acts) = some .epoch ∧ Instant.epoch < .last ∧ Instant.epoch ≤ now ∧
      (run acts).fresh? "hub" RefreshPolicy.usual.marginNanos now = none ∧
      (run acts).fresh? "hub" far.marginNanos now = some held ∧
      (run acts).fresh? "hub" (marginOf 9000000000000000000000) now = some held := by
  decide +kernel

end CredentialStore

end DeviceHub
