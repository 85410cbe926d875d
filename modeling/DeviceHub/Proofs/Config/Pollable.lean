import DeviceHub.Device
import DeviceHub.Proofs.Config.Usable
import DeviceHub.Proofs.Decimal.Numerals

/-!
# Devices that can be polled

A device can be polled if it has an id, a path to ask at and an interval that is not negative. Vendors
that number their devices count from 1, so an id that is a numeral has to be one of an integer from 1
on. The check of devices asks for all of that, but reads ids as integers of 64 bits. A numeral of a
larger integer is not read, and rightly passes; one of a smaller integer is not read either, and passes
although it is far below 1.

* `isValidId_iff`: what the check asks of an id.
* `validate_eq_ok_iff`: what it asks of a device, and what it answers.
* `accepted_pollable`: exactly the devices that can be polled are accepted, with their interval, unless
  an id is so far below 1.
-/
namespace DeviceHub

namespace Identity

open Decimal (Numeral)

/-- Whether an id is a numeral of an integer below those of 64 bits. -/
def FarBelow (id : String) : Prop :=
  ∃ z, Numeral (Text.trim id.toList) z ∧ z < -0x8000000000000000

theorem trim_ne_nil_iff {id : String} : Text.trim id.toList ≠ [] ↔ Text.Shown id := by
  rw [← Text.allBlank_eq_false_iff, ne_eq, Text.trim_eq_nil_iff, Bool.not_eq_true]
  rfl

/-- Whether an integer that cannot be read is from 1 on depends on the side to which it is too far. -/
theorem isValidId_iff {id : String} : isValidId id = true ↔
    Text.Shown id ∧ ∀ z, Numeral (Text.trim id.toList) z → 1 ≤ z ∨ z < -0x8000000000000000 := by
  unfold isValidId
  simp only [Bool.and_eq_true, decide_eq_true_eq, trim_ne_nil_iff]
  refine and_congr_right fun _ => ?_
  split
  · next n hread =>
    obtain ⟨hn, hleast, -⟩ := Decimal.readInt64?_eq_some_iff.1 hread
    rw [decide_eq_true_eq]
    constructor
    · intro hone z hz
      exact .inl (hn.unique hz ▸ hone)
    · intro h
      exact (h n hn).resolve_right (Int.not_lt.2 hleast)
  · next hread =>
    refine iff_of_true rfl fun z hz => ?_
    have hout : ¬(-0x8000000000000000 ≤ z ∧ z ≤ 0x7fffffffffffffff) := by
      intro hfits
      rw [Decimal.readInt64?_eq_some_iff.2 ⟨hz, hfits⟩] at hread
      cases hread
    omega

theorem isValidId_of_farBelow {id : String} (h : FarBelow id) : isValidId id = true := by
  obtain ⟨z, hz, hbelow⟩ := h
  refine isValidId_iff.2 ⟨trim_ne_nil_iff.1 hz.ne_nil, fun w hw => .inr ?_⟩
  rw [hw.unique hz]
  exact hbelow

/-- A numeral that is not so far below counts as what it denotes. -/
theorem isValidId_iff_of_not_farBelow {id : String} (h : ¬FarBelow id) : isValidId id = true ↔
    Text.Shown id ∧ ∀ z, Numeral (Text.trim id.toList) z → 1 ≤ z := by
  rw [isValidId_iff]
  refine and_congr_right fun _ => forall₂_congr fun z hz => ?_
  have hnear : ¬z < -0x8000000000000000 := fun hbelow => h ⟨z, hz, hbelow⟩
  rw [or_iff_left hnear]

end Identity

namespace DeviceConfig

open Decimal (Numeral)
open Identity (FarBelow)

/-- Whether a device can be polled. -/
structure Pollable (d : DeviceConfig) : Prop where
  named : Text.Shown d.identity.device
  fromOne : ∀ z, Numeral (Text.trim d.identity.device.toList) z → 1 ≤ z
  path : Text.Shown d.request.path
  interval : 0 ≤ d.interval

variable {d : DeviceConfig} {seconds : Nat}

theorem fault?_eq_none_iff : d.fault? = none ↔
    Identity.isValidId d.identity.device = true ∧ Text.Shown d.request.path ∧ 0 ≤ d.interval := by
  rw [← Text.allBlank_eq_false_iff, fault?]
  grind

/-- What is accepted is accepted with its own interval. -/
theorem validate_eq_ok_iff : d.validate = .ok seconds ↔
    Identity.isValidId d.identity.device = true ∧ Text.Shown d.request.path ∧
      (seconds : Int) = d.interval := by
  have hinterval : (seconds : Int) = d.interval ↔ 0 ≤ d.interval ∧ d.interval.toNat = seconds := by
    omega
  rw [hinterval, ← and_assoc, ← and_assoc, and_assoc (b := Text.Shown d.request.path),
    ← fault?_eq_none_iff]
  unfold validate
  cases d.fault? <;> simp

theorem not_pollable_of_farBelow (h : FarBelow d.identity.device) : ¬d.Pollable := by
  obtain ⟨z, hz, hbelow⟩ := h
  intro hpollable
  have hone : 1 ≤ z := hpollable.fromOne z hz
  omega

/-- Where the id is no numeral far below 1, a device is accepted if it can be polled, and with its own
interval. Where it is one, the device cannot be polled, but it is accepted like one whose id is no
numeral at all. -/
theorem accepted_pollable (d : DeviceConfig) :
    (¬FarBelow d.identity.device → ∀ seconds : Nat,
      d.validate = .ok seconds ↔ d.Pollable ∧ (seconds : Int) = d.interval) ∧
    (FarBelow d.identity.device → ¬d.Pollable ∧ ∀ seconds : Nat,
      d.validate = .ok seconds ↔ Text.Shown d.request.path ∧ (seconds : Int) = d.interval) := by
  refine ⟨fun hnear seconds => ?_, fun hbelow => ⟨not_pollable_of_farBelow hbelow, fun seconds => ?_⟩⟩
  · rw [validate_eq_ok_iff, Identity.isValidId_iff_of_not_farBelow hnear]
    constructor
    · rintro ⟨⟨hnamed, hone⟩, hpath, hseconds⟩
      exact ⟨⟨hnamed, hone, hpath, by omega⟩, hseconds⟩
    · rintro ⟨⟨hnamed, hone, hpath, -⟩, hseconds⟩
      exact ⟨⟨hnamed, hone⟩, hpath, hseconds⟩
  · rw [validate_eq_ok_iff]
    exact and_iff_right (Identity.isValidId_of_farBelow hbelow)

/-- The channel with the number `-9223372036854775809` is accepted. -/
theorem accepted_far_below :
    let d : DeviceConfig := ⟨⟨"dvr", "-9223372036854775809", "dvr_channel"⟩, 30, .get "snapshot"⟩
    d.validate = .ok 30 ∧ ¬d.Pollable := by
  intro d
  have hread : Decimal.readInt? (Text.trim d.identity.device.toList) =
      some (-9223372036854775809) := by decide +kernel
  have hbelow : FarBelow d.identity.device :=
    ⟨-9223372036854775809, Decimal.readInt?_eq_some_iff.1 hread, by decide⟩
  refine ⟨validate_eq_ok_iff.2 ⟨Identity.isValidId_of_farBelow hbelow, ?_, rfl⟩,
    not_pollable_of_farBelow hbelow⟩
  exact Text.allBlank_eq_false_iff.1 (by decide +kernel)

end DeviceConfig

end DeviceHub
