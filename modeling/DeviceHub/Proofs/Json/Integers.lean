import DeviceHub.Json.Reader
import DeviceHub.Proofs.Decimal.Integers
import DeviceHub.Proofs.Json.Numbers

/-!
# Integers in JSON texts

The numeral of an integer is a JSON numeral. One that fits 64 bits, with or without sign, is read as
the integer that it is. All others are read as binary64 numbers, or refused when they are too large
for the format; what is read is never below `2 ^ 60`, however long the numeral is.

* `numeral?_toString`: wherever it stands in a text, the numeral is recognised as a whole.
* `read?_toString`: the value of a text that is a numeral.
* `number?_ofInt`, `two_pow_le_number?_ofInt`: the number that a numeral denotes.
-/
namespace DeviceHub.Json

open Decimal (isDigit)

/-- The numeral of an integer. -/
def Numeral.ofInt (z : Int) : Numeral := ⟨decide (z < 0), Nat.toDigits 10 z.natAbs, none, none⟩

/-! ## Recognising a numeral -/

namespace Reader

/-- What comes after an integer does not go on with it. -/
def Ends (rest : List Char) : Prop :=
  ∀ c ∈ rest.head?, isDigit c = false ∧ c ≠ '.' ∧ c ≠ 'e' ∧ c ≠ 'E'

variable {rest : List Char}

theorem Ends.takeWhile (h : Ends rest) : rest.takeWhile isDigit = [] := by
  cases rest with
  | nil => rfl
  | cons c r => simp [(h c rfl).1]

theorem Ends.dropWhile (h : Ends rest) : rest.dropWhile isDigit = rest := by
  cases rest with
  | nil => rfl
  | cons c r => simp [(h c rfl).1]

theorem eq_zero_of_head?_toDigits {n : Nat} (h : (Nat.toDigits 10 n).head? = some '0') : n = 0 := by
  induction n using Nat.strongRecOn with
  | ind n ih =>
    by_cases hn : n < 10
    · have hdigits : Nat.toDigits 10 n = ['0'] := by
        rw [Nat.toDigits_of_lt_base hn] at h ⊢
        exact congrArg (fun c => [c]) (Option.some.inj h)
      rw [← Decimal.ofDigits_toDigits n, hdigits]
      rfl
    · obtain ⟨c, digits, hdigits⟩ :=
        List.exists_cons_of_ne_nil (Nat.toDigits_ne_nil (n := n / 10) (b := 10))
      rw [Nat.toDigits_of_base_le (by decide) (by omega), hdigits] at h
      have hzero := ih (n / 10) (by omega) (by rw [hdigits]; exact h)
      omega

theorem whole?_toDigits (n : Nat) (h : Ends rest) :
    whole? (Nat.toDigits 10 n ++ rest) = some (Nat.toDigits 10 n, rest) := by
  have htake := Decimal.takeWhile_toDigits n rest h.takeWhile
  have hdrop := Decimal.dropWhile_toDigits n rest h.dropWhile
  have hlead : ¬((Nat.toDigits 10 n).head? = some '0' ∧ (Nat.toDigits 10 n).length ≠ 1) := by
    rintro ⟨hhead, hlength⟩
    rw [eq_zero_of_head?_toDigits hhead] at hlength
    exact hlength rfl
  simp only [whole?, digits?, htake, hdrop, if_neg Nat.toDigits_ne_nil, Option.bind_eq_bind,
    Option.bind_some, if_neg hlead]

theorem fraction?_of_ends (h : Ends rest) : fraction? rest = some (none, rest) := by
  unfold fraction?
  split
  · exact absurd rfl (h '.' rfl).2.1
  · rfl

theorem exponent?_of_ends (h : Ends rest) : exponent? rest = some (none, rest) := by
  cases rest with
  | nil => rfl
  | cons c r =>
    have hc := h c rfl
    rw [exponent?, if_neg]
    rintro (he | he)
    · exact hc.2.2.1 he
    · exact hc.2.2.2 he

/-- The numeral is recognised wherever it stands in a text. -/
theorem numeral?_toString (z : Int) (h : Ends rest) :
    numeral? ((toString z).toList ++ rest) = some (.ofInt z, rest) := by
  rw [Decimal.toList_toString]
  split
  · next hz =>
    simp only [numeral?, List.cons_append, whole?_toDigits _ h, fraction?_of_ends h,
      exponent?_of_ends h, Option.bind_eq_bind, Option.bind_some, Numeral.ofInt, hz, decide_true]
  · next hz =>
    simp only [numeral?]
    split
    · next heq => exact absurd heq (Decimal.toDigits_append_ne (by decide) _ _ _)
    · simp only [whole?_toDigits _ h, fraction?_of_ends h, exponent?_of_ends h, Option.bind_eq_bind,
        Option.bind_some, Numeral.ofInt, hz, decide_false]

/-- No space, quote, bracket or word starts a numeral. -/
theorem toString_append_ne (z : Int) {c : Char} (hdigit : isDigit c = false) (hminus : c ≠ '-')
    (r : List Char) : (toString z).toList ++ rest ≠ c :: r := by
  rw [Decimal.toList_toString]
  split
  · intro h
    cases h
    exact hminus rfl
  · exact Decimal.toDigits_append_ne hdigit _ _ _

theorem skip_toString (z : Int) :
    skip ((toString z).toList ++ rest) = (toString z).toList ++ rest := by
  unfold skip
  cases htext : (toString z).toList ++ rest with
  | nil => rfl
  | cons c r =>
    have hspace : isSpace c = false := by
      refine Bool.eq_false_iff.2 fun hspace => ?_
      simp only [isSpace, Bool.or_eq_true, decide_eq_true_eq] at hspace
      rcases hspace with ((rfl | rfl) | rfl) | rfl <;>
        exact toString_append_ne z (by decide) (by decide) r htext
    rw [List.dropWhile_cons, hspace]
    rfl

theorem value?_toString (z : Int) (h : Ends rest) (fuel : Nat) :
    value? (fuel + 1) ((toString z).toList ++ rest) = some (.numeral (.ofInt z), rest) := by
  unfold value?
  simp only [skip_toString]
  split
  case h_7 =>
    rw [numeral?_toString z h]
    rfl
  all_goals next heq => exact absurd heq (toString_append_ne z (by decide) (by decide) _)

end Reader

theorem read?_toString (z : Int) :
    Json.read? (toString z) = (Numeral.ofInt z).number?.map .number := by
  have hends : Reader.Ends [] := fun _ h => by cases h
  have hvalue := Reader.value?_toString z hends (3 * (toString z).toList.length + 2)
  rw [List.append_nil] at hvalue
  simp only [Json.read?, Written.read?, hvalue, Option.bind_eq_bind, Option.bind_some]
  rfl

/-! ## The number of a numeral -/

namespace Numeral

open Decimal (digitValue)

theorem le_ofDigitChars (n : Nat) (cs : List Char) : n ≤ Nat.ofDigitChars 10 cs n := by
  induction cs generalizing n with
  | nil => exact Nat.le_refl n
  | cons c r ih =>
    rw [Nat.ofDigitChars_cons]
    refine Nat.le_trans ?_ (ih _)
    omega

theorem gather_of_le {n : Nat} {cs : List Char} (h : Nat.ofDigitChars 10 cs n ≤ ceiling) :
    gather n cs = (Nat.ofDigitChars 10 cs n, []) := by
  induction cs generalizing n with
  | nil => rfl
  | cons c r ih =>
    have hnext : 10 * n + digitValue c ≤ ceiling := Nat.le_trans (le_ofDigitChars _ r) h
    simp only [gather, if_pos hnext]
    exact ih h

theorem gather_toDigits {n : Nat} (h : n ≤ ceiling) : gather 0 (Nat.toDigits 10 n) = (n, []) := by
  have hdigits : Nat.ofDigitChars 10 (Nat.toDigits 10 n) 0 = n := Decimal.ofDigits_toDigits n
  rw [gather_of_le (hdigits.symm ▸ h), hdigits]

/-- What is kept of a numeral too long is the most that fits: the next digit would be too much. -/
theorem gather_of_lt {n : Nat} {cs : List Char} (hn : n ≤ ceiling)
    (h : ceiling < Nat.ofDigitChars 10 cs n) : ∃ c rest, c ∈ cs ∧ (gather n cs).2 = c :: rest ∧
      ceiling < 10 * (gather n cs).1 + digitValue c := by
  induction cs generalizing n with
  | nil => exact absurd h (Nat.not_lt.2 hn)
  | cons c r ih =>
    simp only [gather]
    split
    · next hnext =>
      obtain ⟨d, rest, hd, hrest, hlarge⟩ := ih hnext h
      exact ⟨d, rest, List.mem_cons_of_mem _ hd, hrest, hlarge⟩
    · next hnext => exact ⟨c, r, List.mem_cons_self, rfl, Nat.lt_of_not_le hnext⟩

theorem digitValue_le {c : Char} (h : isDigit c = true) : digitValue c ≤ 9 := by
  simp only [isDigit, Bool.and_eq_true, decide_eq_true_eq, Char.le_def] at h
  have hle : c.toNat ≤ 57 := h.2
  unfold digitValue
  omega

/-- The powers of ten of the format are at least one. -/
theorem one_le_powerOfTen {k : Nat} (h : k ≤ 308) : Magnitude.one ≤ (powerOfTen k).units := by
  have hsome : (Magnitude.ofNat (10 ^ k)).isSome = true := by
    rcases Nat.lt_or_eq_of_le h with hless | rfl
    · have hpower : ∀ top, k ≤ top → 10 ^ k ≤ 10 ^ top := fun _ =>
        Nat.pow_le_pow_right (by decide)
      have htop : 10 ^ 307 < 2 ^ 1023 := by decide +kernel
      have hbits := Nat.lt_of_le_of_lt (hpower 307 (Nat.le_of_lt_succ hless)) htop
      exact ofNat_isSome 1023 hbits (by decide) (by decide)
    · decide +kernel
  obtain ⟨m, hm⟩ := Option.isSome_iff_exists.1 hsome
  have hone : 2 ^ 0 * Magnitude.one ≤ m.units :=
    Magnitude.two_pow_le_ofNat hm (Nat.pow_pos (by decide))
  have hpower : powerOfTen k = m := congrArg (·.getD .zero) hm
  rwa [hpower, ← Nat.one_mul Magnitude.one]

theorem two_pow_le_scale {n e k : Nat} {m : Magnitude} (h : scale n k = some m) (hn : 2 ^ e ≤ n) :
    2 ^ e * Magnitude.one ≤ m.units := by
  simp only [scale, Option.bind_eq_bind, Option.bind_eq_some_iff] at h
  obtain ⟨a, ha, h⟩ := h
  rw [if_pos (Int.natCast_nonneg k)] at h
  split at h
  · next hk =>
    exact Magnitude.two_pow_le_mul? h (Magnitude.two_pow_le_ofNat ha hn) (one_le_powerOfTen (by omega))
  · rw [if_neg] at h
    · cases h
    · exact Nat.ne_of_gt (Nat.lt_of_lt_of_le (Nat.two_pow_pos e) hn)

/-- A numeral that fits 64 bits, with or without sign, denotes its integer. -/
theorem number?_ofInt {z : Int} (hlow : -0x8000000000000000 ≤ z) (hhigh : z ≤ 0xffffffffffffffff) :
    (ofInt z).number? = some (.integer z) := by
  have hgather := gather_toDigits (n := z.natAbs) (by unfold ceiling; omega)
  simp only [number?, ofInt, hgather, if_true, decide_eq_true_eq]
  split
  · congr
    omega
  · rw [if_neg (by omega)]
    congr
    omega

/-- Any other numeral that denotes a number denotes a large one. -/
theorem two_pow_le_number?_ofInt {z : Int} {n : Number} (h : (ofInt z).number? = some n)
    (hz : z < -0x8000000000000000 ∨ 0xffffffffffffffff < z) :
    ∃ negative m, n = .decimal (.finite negative m) ∧ 2 ^ 60 * Magnitude.one ≤ m.units := by
  by_cases hfits : z.natAbs ≤ ceiling
  · have hbounds : z < 0 ∧ 0x8000000000000000 < z.natAbs := by
      unfold ceiling at hfits
      omega
    simp only [number?, ofInt, gather_toDigits hfits, if_true, decide_eq_true_eq] at h
    rw [if_neg (Decidable.not_not.2 hbounds.1), if_pos (.inr hbounds.2)] at h
    obtain ⟨m, hm, rfl⟩ := Option.map_eq_some_iff.1 h
    exact ⟨true, m, rfl, Magnitude.two_pow_le_ofNat hm (by omega)⟩
  · have hlong : ceiling < Nat.ofDigitChars 10 (Nat.toDigits 10 z.natAbs) 0 := by
      rw [← Decimal.ofDigits_eq, Decimal.ofDigits_toDigits]
      exact Nat.lt_of_not_le hfits
    obtain ⟨c, rest, hc, hrest, hkept⟩ := gather_of_lt (Nat.zero_le _) hlong
    have hdigit := digitValue_le (Decimal.isDigit_of_mem_toDigits hc)
    have hlarge : 2 ^ 60 ≤ (gather 0 (Nat.toDigits 10 z.natAbs)).1 := by
      unfold ceiling at hkept
      omega
    simp only [number?, ofInt, hrest, if_neg (List.cons_ne_nil c rest), scaled?] at h
    obtain ⟨m, hm, rfl⟩ := Option.map_eq_some_iff.1 h
    exact ⟨_, m, rfl, two_pow_le_scale hm hlarge⟩

end Numeral

end DeviceHub.Json
