import DeviceHub.Decimal.Numeral
import Mathlib.Algebra.Group.Nat.Defs

/-!
# Numerals of integers

The decimal numeral of an integer has no leading zeros, and a minus sign before it if it is negative.
Read as an integer it is that integer, whatever its size. Read as binary64 it is rounded, but never
below a power of two that it reaches: rounding keeps the powers of two.

* `two_pow_le_units`: rounding a quotient keeps a power of two below it.
* `toList_toString`: the characters of a numeral.
* `readInt?_toString`: it is read back as the integer that it is.
* `read?_toString`, `two_pow_le_magnitude?`: read as binary64 it is the rounded integer, which is not
  below a power of two that the integer reaches.
-/
namespace DeviceHub

/-! ## Rounding -/

namespace Magnitude

theorem units_eq (m : Magnitude) : m.units = m.significand * 2 ^ m.shift := Nat.shiftLeft_eq ..

theorem one_pos : 0 < one := by decide

theorem le_roundQuotient (n d : Nat) : n / d ≤ roundQuotient n d := by
  unfold roundQuotient
  simp only
  split
  · exact Nat.le_refl _
  · split
    · exact Nat.le_succ _
    · split
      · exact Nat.le_refl _
      · exact Nat.le_succ _

/-- A quotient that reaches a power of two does so after rounding: if it was shifted at all, its
significand has all 53 digits, and so many digits are as much as the power needs. -/
theorem two_pow_le_units {n d e : Nat} {m : Magnitude} (h : nearest n d = some m) (hd : 0 < d)
    (hle : 2 ^ e * d ≤ n) : 2 ^ e ≤ m.units := by
  have hquotient : 2 ^ e ≤ n / d := (Nat.le_div_iff_mul_le hd).2 hle
  have hlog : e ≤ (n / d).log2 :=
    (Nat.le_log2 (Nat.ne_of_gt (Nat.lt_of_lt_of_le (Nat.two_pow_pos e) hquotient))).2 hquotient
  unfold nearest at h
  simp only at h
  rw [units_eq]
  split at h
  · next hcanonical =>
    cases h
    rcases hcanonical.2.2 with hzero | hfull
    · simp only [hzero, Nat.shiftLeft_zero, Nat.pow_zero, Nat.mul_one]
      exact Nat.le_trans hquotient (le_roundQuotient n d)
    · rw [Nat.one_shiftLeft] at hfull
      calc 2 ^ e ≤ 2 ^ (52 + ((n / d).log2 - 52)) := by
            refine Nat.pow_le_pow_right (by decide) ?_
            omega
        _ = 2 ^ 52 * 2 ^ ((n / d).log2 - 52) := Nat.pow_add ..
        _ ≤ _ := Nat.mul_le_mul_right _ hfull
  · split at h
    · cases h
      simp only [Nat.one_shiftLeft, ← Nat.pow_add]
      refine Nat.pow_le_pow_right (by decide) ?_
      omega
    · cases h

theorem two_pow_mul_one (e : Nat) : 2 ^ e * one = 2 ^ (e + 1074) := by
  unfold one
  rw [Nat.one_shiftLeft, Nat.pow_add]

theorem two_pow_le_ofNat {n e : Nat} {m : Magnitude} (h : ofNat n = some m) (hle : 2 ^ e ≤ n) :
    2 ^ e * one ≤ m.units := by
  rw [two_pow_mul_one]
  refine two_pow_le_units h Nat.one_pos ?_
  rw [Nat.mul_one, ← two_pow_mul_one]
  exact Nat.mul_le_mul_right _ hle

theorem two_pow_le_mul? {a b m : Magnitude} {e : Nat} (h : a.mul? b = some m)
    (ha : 2 ^ e * one ≤ a.units) (hb : one ≤ b.units) : 2 ^ e * one ≤ m.units := by
  rw [two_pow_mul_one] at ha ⊢
  exact two_pow_le_units h one_pos (Nat.mul_le_mul ha hb)

end Magnitude

theorem Scientific.two_pow_le_magnitude? {n e : Nat} {m : Magnitude}
    (h : (⟨n, 0⟩ : Scientific).magnitude? = some m) (hle : 2 ^ e ≤ n) :
    2 ^ e * Magnitude.one ≤ m.units := by
  have hpos : n ≠ 0 := Nat.ne_of_gt (Nat.lt_of_lt_of_le (Nat.two_pow_pos e) hle)
  unfold magnitude? at h
  simp only [if_neg hpos] at h
  split at h
  · cases h
  · split at h
    · omega
    · rw [if_pos (Int.le_refl 0)] at h
      refine Magnitude.two_pow_le_ofNat (n := n) ?_ hle
      simpa [Magnitude.ofNat] using h

/-! ## Digits -/

namespace Decimal

theorem isDigit_eq (c : Char) : isDigit c = c.isDigit := by
  simp [isDigit, Char.isDigit, Char.le_def]

theorem isDigit_of_mem_toDigits {n : Nat} {c : Char} (h : c ∈ Nat.toDigits 10 n) :
    isDigit c = true := by
  rw [isDigit_eq]
  exact Nat.isDigit_of_mem_toDigits (by decide) (by decide) h

theorem ofDigits_eq (cs : List Char) : ofDigits cs = Nat.ofDigitChars 10 cs 0 := rfl

theorem ofDigits_toDigits (n : Nat) : ofDigits (Nat.toDigits 10 n) = n := Nat.ofDigitChars_ten_toDigits

theorem toList_toString (z : Int) : (toString z).toList =
    if z < 0 then '-' :: Nat.toDigits 10 z.natAbs else Nat.toDigits 10 z.natAbs := by
  cases z with
  | ofNat n =>
    have hsign : ¬Int.ofNat n < 0 := Int.not_lt.2 (Int.natCast_nonneg n)
    rw [if_neg hsign]
    exact Nat.toList_repr
  | negSucc n =>
    rw [if_pos (Int.negSucc_lt_zero n)]
    have htext : toString (Int.negSucc n) = "-" ++ (n + 1).repr := rfl
    rw [htext, String.toList_append, Nat.toList_repr]
    rfl

/-- A numeral starts with a digit. -/
theorem toDigits_append_ne {c : Char} (hc : isDigit c = false) (n : Nat) (rest r : List Char) :
    Nat.toDigits 10 n ++ rest ≠ c :: r := by
  obtain ⟨d, digits, hdigits⟩ :=
    List.exists_cons_of_ne_nil (Nat.toDigits_ne_nil (n := n) (b := 10))
  have hd : isDigit d = true := isDigit_of_mem_toDigits (hdigits ▸ List.mem_cons_self)
  rw [hdigits]
  intro h
  cases h
  rw [hd] at hc
  cases hc

theorem toDigits_ne_cons {c : Char} (hc : isDigit c = false) (n : Nat) (r : List Char) :
    Nat.toDigits 10 n ≠ c :: r := by
  have hne := toDigits_append_ne hc n [] r
  rwa [List.append_nil] at hne

theorem splitSign_toDigits (n : Nat) :
    splitSign (Nat.toDigits 10 n) = (false, Nat.toDigits 10 n) := by
  unfold splitSign
  split
  · next heq => exact absurd heq (toDigits_ne_cons (by decide) n _)
  · next heq => exact absurd heq (toDigits_ne_cons (by decide) n _)
  · rfl

theorem splitSign_toString (z : Int) :
    splitSign (toString z).toList = (decide (z < 0), Nat.toDigits 10 z.natAbs) := by
  rw [toList_toString]
  split
  · next h => simp only [splitSign, h, decide_true]
  · next h => simp only [splitSign_toDigits, h, decide_false]

theorem readNat?_toDigits (n : Nat) : readNat? (Nat.toDigits 10 n) = some n := by
  have hall : (Nat.toDigits 10 n).all isDigit = true :=
    List.all_eq_true.2 fun _ hc => isDigit_of_mem_toDigits hc
  rw [readNat?, if_pos ⟨Nat.toDigits_ne_nil, hall⟩, ofDigits_toDigits]

theorem readInt?_toString (z : Int) : readInt? (toString z).toList = some z := by
  simp only [readInt?, splitSign_toString, readNat?_toDigits, Option.bind_eq_bind, Option.bind_some,
    Option.pure_def, Option.map_some, decide_eq_true_eq]
  congr 1
  split <;> omega

theorem takeWhile_toDigits (n : Nat) (rest : List Char) (hrest : rest.takeWhile isDigit = []) :
    (Nat.toDigits 10 n ++ rest).takeWhile isDigit = Nat.toDigits 10 n := by
  rw [List.takeWhile_append_of_pos fun _ hc => isDigit_of_mem_toDigits hc, hrest, List.append_nil]

theorem dropWhile_toDigits (n : Nat) (rest : List Char) (hrest : rest.dropWhile isDigit = rest) :
    (Nat.toDigits 10 n ++ rest).dropWhile isDigit = rest := by
  rw [List.dropWhile_append_of_pos fun _ hc => isDigit_of_mem_toDigits hc, hrest]

theorem readScientific?_toDigits (n : Nat) :
    readScientific? (Nat.toDigits 10 n) = some ⟨n, 0⟩ := by
  have htake := takeWhile_toDigits n [] rfl
  have hdrop := dropWhile_toDigits n [] rfl
  rw [List.append_nil] at htake hdrop
  simp only [readScientific?, htake, hdrop, List.append_nil, ofDigits_toDigits]
  rw [if_neg fun h => Nat.toDigits_ne_nil h.1]
  rfl

theorem toLower_of_isDigit {c : Char} (h : isDigit c = true) : c.toLower = c := by
  rw [isDigit_eq] at h
  simp only [Char.isDigit, Bool.and_eq_true, decide_eq_true_eq] at h
  unfold Char.toLower
  rw [dif_neg]
  intro hupper
  exact absurd (UInt32.le_trans hupper.1 h.2) (by decide)

theorem asciiLower_toDigits (n : Nat) :
    Text.asciiLower (Nat.toDigits 10 n) = Nat.toDigits 10 n := by
  have hlower : ∀ c ∈ Nat.toDigits 10 n, c.toLower = id c := fun _ hc =>
    toLower_of_isDigit (isDigit_of_mem_toDigits hc)
  rw [Text.asciiLower, List.map_congr_left hlower, List.map_id]

theorem read?_toString (z : Int) : Binary64.read? (toString z).toList =
    some (.ofMagnitude? (decide (z < 0)) (⟨z.natAbs, 0⟩ : Scientific).magnitude?) := by
  simp only [Binary64.read?, splitSign_toString, asciiLower_toDigits, readScientific?_toDigits,
    Option.map_some]
  rw [if_neg, if_neg]
  · exact toDigits_ne_cons (by decide) _ _
  · rintro (h | h)
    · exact toDigits_ne_cons (by decide) _ _ h
    · exact toDigits_ne_cons (by decide) _ _ h

end Decimal

end DeviceHub
