/-!
# Binary64 numbers

The values of the 64-bit binary floating-point format, kept exactly: a finite number is a whole
multiple of `2 ^ -1074`. There is no arithmetic on them beyond rounding, since this library only
reads them, compares them and writes them.

* `Magnitude.nearest` rounds a quotient to the format, a tie to the even neighbour.
* `Binary64.same` is the format's own equality: the two zeros are the same, a NaN is not even
  the same as itself.
-/
namespace DeviceHub

/-- The absolute value of a finite number, `significand * 2 ^ shift` units of `2 ^ -1074`. The shift
is the least possible, so a magnitude has one form. -/
structure Magnitude where
  significand : Nat
  shift : Nat
  canonical : significand < 1 <<< 53 ∧ shift ≤ 2045 ∧ (shift = 0 ∨ 1 <<< 52 ≤ significand)
  deriving DecidableEq

namespace Magnitude

/-- The number one, in units. -/
def one : Nat := 1 <<< 1074

/-- The value in units of `2 ^ -1074`. -/
def units (m : Magnitude) : Nat := m.significand <<< m.shift

def zero : Magnitude := ⟨0, 0, by decide⟩

instance : Inhabited Magnitude := ⟨zero⟩

/-- The quotient `n / d` to the nearest whole number, a tie to the even one. -/
def roundQuotient (n d : Nat) : Nat :=
  let q := n / d
  let r := n % d
  if 2 * r < d then q else if d < 2 * r then q + 1 else if q % 2 = 0 then q else q + 1

/-- The magnitude nearest to `n / d` units, a tie to the one with the even significand, or nothing
when that would be too large for the format. -/
def nearest (n d : Nat) : Option Magnitude :=
  let shift := (n / d).log2 - 52
  let significand := roundQuotient n (d <<< shift)
  if h : significand < 1 <<< 53 ∧ shift ≤ 2045 ∧ (shift = 0 ∨ 1 <<< 52 ≤ significand) then
    some ⟨significand, shift, h⟩
  else if h : shift + 1 ≤ 2045 then some ⟨1 <<< 52, shift + 1, by omega⟩
  else none

/-- The magnitude nearest to a whole number. -/
def ofNat (n : Nat) : Option Magnitude := nearest (n * one) 1

/-- `a * b` rounded to the format. -/
def mul? (a b : Magnitude) : Option Magnitude := nearest (a.units * b.units) one

/-- `a / b` rounded to the format. -/
def div? (a b : Magnitude) : Option Magnitude := nearest (a.units * one) b.units

/-- The value when it is a whole number. -/
def toNat? (m : Magnitude) : Option Nat := if m.units % one = 0 then some (m.units / one) else none

end Magnitude

/-- A binary64 number. -/
inductive Binary64 where
  | nan
  | infinite (negative : Bool)
  | finite (negative : Bool) (magnitude : Magnitude)
  deriving DecidableEq

namespace Binary64

def zero : Binary64 := .finite false .zero

instance : Inhabited Binary64 := ⟨zero⟩

/-- A signed magnitude that may have been too large for the format. -/
def ofMagnitude? (negative : Bool) : Option Magnitude → Binary64
  | some m => .finite negative m
  | none => .infinite negative

/-- The number nearest to a whole number. -/
def ofInt (n : Int) : Binary64 := ofMagnitude? (n < 0) (Magnitude.ofNat n.natAbs)

def isFinite : Binary64 → Bool
  | .finite .. => true
  | _ => false

/-- Equality of the format: zeros are equal whatever their sign, a NaN equals nothing. -/
def same : Binary64 → Binary64 → Bool
  | .infinite a, .infinite b => a == b
  | .finite a m, .finite b n => m.units == n.units && (a == b || m.units == 0)
  | _, _ => false

/-- The value when it is a whole number. -/
def toInt? : Binary64 → Option Int
  | .finite negative m => m.toNat?.map fun n => if negative then -(n : Int) else n
  | _ => none

theorem same_comm (x y : Binary64) : x.same y = y.same x := by
  cases x <;> cases y <;> simp only [same]
  · exact BEq.comm
  · next a m b n =>
    rw [Bool.eq_iff_iff]
    simp only [Bool.and_eq_true, Bool.or_eq_true, beq_iff_eq]
    constructor <;> rintro ⟨h, h'⟩ <;> exact ⟨h.symm, h'.imp Eq.symm fun z => by omega⟩

theorem same_self_of_ne_nan {x : Binary64} (h : x ≠ .nan) : x.same x = true := by
  cases x <;> simp_all [same]

theorem same_trans {x y z : Binary64} (hxy : x.same y = true) (hyz : y.same z = true) :
    x.same z = true := by
  cases x <;> cases y <;> cases z <;> simp only [same, Bool.false_eq_true, Bool.and_eq_true,
    Bool.or_eq_true, beq_iff_eq] at *
  · exact hxy.trans hyz
  · refine ⟨hxy.1.trans hyz.1, ?_⟩
    rcases hxy.2 with h | h
    · rcases hyz.2 with h' | h'
      · exact .inl (h.trans h')
      · exact .inr (hxy.1.trans h')
    · exact .inr h

end Binary64

end DeviceHub
