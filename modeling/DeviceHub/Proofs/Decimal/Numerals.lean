import DeviceHub.Decimal.Numeral
import Mathlib.Data.List.Induction

/-!
# What numerals denote

A numeral is a run of decimal digits, at least one, with at most a sign before it. It may be of any
length and may start with zeros. What an integer is read from is a numeral of it, and every numeral is
read, as far as the integer is one that the reader admits.

* `readInt?_eq_some_iff`: integers of any size.
* `readInt64?_eq_some_iff`: integers of 64 bits.
-/
namespace DeviceHub.Decimal

/-- A run of digits and the number that it denotes. A digit more behind it makes room by a factor of
ten. -/
inductive Digits : List Char → Nat → Prop where
  | one {c : Char} (digit : isDigit c = true) : Digits [c] (digitValue c)
  | more {cs : List Char} {n : Nat} {c : Char} (before : Digits cs n) (digit : isDigit c = true) :
      Digits (cs ++ [c]) (10 * n + digitValue c)

/-- A numeral and the integer that it denotes. -/
inductive Numeral : List Char → Int → Prop where
  | unsigned {cs : List Char} {n : Nat} (digits : Digits cs n) : Numeral cs n
  | plus {cs : List Char} {n : Nat} (digits : Digits cs n) : Numeral ('+' :: cs) n
  | minus {cs : List Char} {n : Nat} (digits : Digits cs n) : Numeral ('-' :: cs) (-n)

variable {cs : List Char} {n : Nat} {z : Int}

/-! ## Digits -/

theorem ofDigits_concat (cs : List Char) (c : Char) :
    ofDigits (cs ++ [c]) = 10 * ofDigits cs + digitValue c := by
  simp only [ofDigits, List.foldl_append, List.foldl_cons, List.foldl_nil]

theorem Digits.ne_nil (h : Digits cs n) : cs ≠ [] := by
  cases h with
  | one => exact List.cons_ne_nil _ _
  | more => exact List.concat_ne_nil _ _

theorem Digits.all (h : Digits cs n) : cs.all isDigit = true := by
  induction h with
  | one digit => simpa using digit
  | more _ digit ih => simp [List.all_append, ih, digit]

theorem Digits.ofDigits_eq (h : Digits cs n) : ofDigits cs = n := by
  induction h with
  | one => simp [ofDigits]
  | more _ _ ih => rw [ofDigits_concat, ih]

/-- By induction from the last digit. -/
theorem digits_ofDigits (hne : cs ≠ []) (hall : cs.all isDigit = true) :
    Digits cs (ofDigits cs) := by
  induction cs using List.reverseRecOn with
  | nil => exact absurd rfl hne
  | append_singleton cs c ih =>
    rw [List.all_append, Bool.and_eq_true] at hall
    obtain ⟨hbefore, hlast⟩ := hall
    have hc : isDigit c = true := by simpa using hlast
    rw [ofDigits_concat]
    by_cases hnil : cs = []
    · subst hnil
      simpa [ofDigits] using Digits.one hc
    · exact .more (ih hnil hbefore) hc

theorem readNat?_eq_some_iff : readNat? cs = some n ↔ Digits cs n := by
  unfold readNat?
  constructor
  · intro h
    split at h
    · next hdigits =>
      cases h
      exact digits_ofDigits hdigits.1 hdigits.2
    · cases h
  · intro h
    rw [if_pos ⟨h.ne_nil, h.all⟩, h.ofDigits_eq]

/-! ## Signs -/

/-- A run of digits starts with no sign. -/
theorem Digits.splitSign_eq (h : Digits cs n) : splitSign cs = (false, cs) := by
  have hall := List.all_eq_true.1 h.all
  unfold splitSign
  split
  · exact absurd (hall '-' List.mem_cons_self) (by decide)
  · exact absurd (hall '+' List.mem_cons_self) (by decide)
  · rfl

theorem readInt?_eq (cs : List Char) : readInt? cs =
    (readNat? (splitSign cs).2).map fun n : Nat => if (splitSign cs).1 then -(n : Int) else n := by
  cases hsplit : splitSign cs with
  | mk negative digits =>
    simp only [readInt?, hsplit]
    cases readNat? digits <;> rfl

theorem numeral_of_readNat? (h : readNat? (splitSign cs).2 = some n) :
    Numeral cs (if (splitSign cs).1 then -(n : Int) else n) := by
  rw [readNat?_eq_some_iff] at h
  unfold splitSign at h ⊢
  split at h
  · exact .minus h
  · exact .plus h
  · exact .unsigned h

theorem readInt?_eq_some_iff : readInt? cs = some z ↔ Numeral cs z := by
  constructor
  · intro h
    rw [readInt?_eq] at h
    obtain ⟨n, hn, rfl⟩ := Option.map_eq_some_iff.1 h
    exact numeral_of_readNat? hn
  · intro h
    cases h with
    | unsigned digits =>
      rw [readInt?_eq, digits.splitSign_eq, readNat?_eq_some_iff.2 digits]
      rfl
    | plus digits =>
      rw [readInt?_eq, splitSign, readNat?_eq_some_iff.2 digits]
      rfl
    | minus digits =>
      rw [readInt?_eq, splitSign, readNat?_eq_some_iff.2 digits]
      rfl

/-- A numeral denotes one integer. -/
theorem Numeral.unique {z' : Int} (h : Numeral cs z) (h' : Numeral cs z') : z = z' :=
  Option.some.inj ((readInt?_eq_some_iff.2 h).symm.trans (readInt?_eq_some_iff.2 h'))

theorem Numeral.ne_nil (h : Numeral cs z) : cs ≠ [] := by
  cases h with
  | unsigned digits => exact digits.ne_nil
  | plus | minus => exact List.cons_ne_nil _ _

theorem readInt64?_eq_some_iff : readInt64? cs = some z ↔
    Numeral cs z ∧ -0x8000000000000000 ≤ z ∧ z ≤ 0x7fffffffffffffff := by
  rw [readInt64?, Option.filter_eq_some_iff, readInt?_eq_some_iff]
  simp only [fitsInt64, Bool.and_eq_true, decide_eq_true_eq]

end DeviceHub.Decimal
