import DeviceHub.Json.Reader
import DeviceHub.Json.Writer
import Mathlib.Algebra.Group.Nat.Defs

/-!
# The numbers in a JSON value

A JSON text writes integers of 64 bits, with or without sign, and finite numbers, and a payload holds
no others. The type of values is wider: it also carries the values of configurations, and its integers
have no bound.

* `read?_inRange`: the numbers in the value of a text are such numbers.
* `numbers_member?`: the numbers in a part of a value are among its own.
* `binary64_isFinite`: as binary64 such a number is finite.
* `compact_eq_null`, `indented_eq_null`: a value with such numbers is written `null` only when it is
  null.
-/
namespace DeviceHub.Json

/-- Whether a number is one that a JSON text can write. -/
def Number.inRange : Number → Bool
  | .integer n => -0x8000000000000000 ≤ n && n ≤ 0xffffffffffffffff
  | .decimal x => x.isFinite

mutual

/-- The numbers in a value. -/
def numbers : Json → List Number
  | .number n => [n]
  | .array items => numbersItems items
  | .object members => numbersMembers members
  | .null | .bool _ | .text _ => []

def numbersItems : List Json → List Number
  | [] => []
  | v :: vs => numbers v ++ numbersItems vs

def numbersMembers : List (String × Json) → List Number
  | [] => []
  | (_, v) :: vs => numbers v ++ numbersMembers vs

end

/-- Whether a JSON text can write all numbers in a value. -/
def inRange (v : Json) : Bool := v.numbers.all (·.inRange)

theorem inRange_iff {v : Json} : v.inRange = true ↔ ∀ n ∈ v.numbers, n.inRange = true :=
  List.all_eq_true

/-! ## Parts of a value -/

theorem mem_numbersMembers {ms : List (String × Json)} {n : Number} :
    n ∈ numbersMembers ms ↔ ∃ e ∈ ms, n ∈ e.2.numbers := by
  induction ms with
  | nil => simp [numbersMembers]
  | cons e ms ih => obtain ⟨k, v⟩ := e; simp [numbersMembers, ih]

theorem numbers_member? {v w : Json} {key : String} (h : v.member? key = some w) :
    w.numbers ⊆ v.numbers := by
  cases v with
  | object members =>
    intro n hn
    rw [numbers, mem_numbersMembers]
    exact ⟨_, Dict.mem_of_get? h, hn⟩
  | _ => simp [member?] at h

/-! ## Numerals -/

namespace Numeral

theorem gather_le {n : Nat} (h : n ≤ ceiling) (cs : List Char) : (gather n cs).1 ≤ ceiling := by
  induction cs generalizing n with
  | nil => exact h
  | cons c r ih =>
    simp only [gather]
    split
    · next hnext => exact ih hnext
    · exact h

theorem scaled?_inRange {negative : Bool} {n : Nat} {start : Int} {exponent : Option Int}
    {x : Number} (h : scaled? negative n start exponent = some x) : x.inRange = true := by
  unfold scaled? at h
  split at h
  · obtain ⟨m, -, rfl⟩ := Option.map_eq_some_iff.1 h; rfl
  · split at h
    · split at h
      · cases h
      · cases h; rfl
    · obtain ⟨m, -, rfl⟩ := Option.map_eq_some_iff.1 h; rfl

theorem number?_inRange {t : Numeral} {x : Number} (h : t.number? = some x) :
    x.inRange = true := by
  have hn : (gather 0 t.whole).1 ≤ 0xffffffffffffffff := gather_le (Nat.zero_le _) t.whole
  unfold number? at h
  simp only at h
  split at h
  · split at h
    · split at h
      · cases h; simp [Number.inRange]; omega
      · split at h
        · obtain ⟨m, -, rfl⟩ := Option.map_eq_some_iff.1 h; rfl
        · cases h; simp [Number.inRange]; omega
    · exact scaled?_inRange h
  · exact scaled?_inRange h
  · exact scaled?_inRange h

end Numeral

/-! ## Texts -/

mutual

theorem json?_inRange {v : Json} (limit : Nat) :
    ∀ w : Written, w.json? limit = some v → ∀ n ∈ v.numbers, n.inRange = true
  | .null, h => by cases h; simp [numbers]
  | .bool b, h => by cases h; simp [numbers]
  | .text s, h => by cases h; simp [numbers]
  | .numeral t, h => by
    obtain ⟨x, hx, rfl⟩ := Option.map_eq_some_iff.1 h
    simpa [numbers] using Numeral.number?_inRange hx
  | .array items, h => by
    cases limit with
    | zero => cases h
    | succ limit =>
      obtain ⟨vs, hvs, rfl⟩ := Option.map_eq_some_iff.1 h
      exact itemsJson?_inRange limit items hvs
  | .object members, h => by
    cases limit with
    | zero => cases h
    | succ limit =>
      obtain ⟨vs, hvs, rfl⟩ := Option.map_eq_some_iff.1 h
      intro n hn
      obtain ⟨e, he, hn⟩ := mem_numbersMembers.1 hn
      exact membersJson?_inRange limit members hvs e (Dict.mem_ofList he) n hn

theorem itemsJson?_inRange {vs : List Json} (limit : Nat) :
    ∀ ws : List Written, Written.itemsJson? limit ws = some vs →
      ∀ n ∈ numbersItems vs, n.inRange = true
  | [], h => by cases h; simp [numbersItems]
  | w :: ws, h => by
    simp only [Written.itemsJson?, Option.bind_eq_bind, Option.bind_eq_some_iff] at h
    obtain ⟨v, hv, vs, hvs, heq⟩ := h
    cases heq
    intro n hn
    rcases List.mem_append.1 hn with hn | hn
    · exact json?_inRange limit w hv n hn
    · exact itemsJson?_inRange limit ws hvs n hn

theorem membersJson?_inRange {vs : List (String × Json)} (limit : Nat) :
    ∀ ws : List (String × Written), Written.membersJson? limit ws = some vs →
      ∀ e ∈ vs, ∀ n ∈ e.2.numbers, n.inRange = true
  | [], h => by cases h; simp
  | (key, w) :: ws, h => by
    simp only [Written.membersJson?, Option.bind_eq_bind, Option.bind_eq_some_iff] at h
    obtain ⟨v, hv, vs, hvs, heq⟩ := h
    cases heq
    intro e he
    rcases List.mem_cons.1 he with rfl | he
    · exact json?_inRange limit w hv
    · exact membersJson?_inRange limit ws hvs e he

end

theorem read?_inRange {text : String} {v : Json} (h : read? text = some v) :
    v.inRange = true := by
  obtain ⟨w, -, hw⟩ := Option.bind_eq_some_iff.1 h
  exact inRange_iff.2 (json?_inRange depthLimit w hw)

/-! ## As binary64 -/

theorem log2_mul_lt {n a : Nat} (k : Nat) (ha : 0 < a) (h : n < Nat.pow 2 a) :
    (n * 1 <<< k).log2 < a + k := by
  by_cases hzero : n * 1 <<< k = 0
  · rw [hzero, Nat.log2_zero]
    exact Nat.add_pos_left ha k
  · rw [Nat.log2_lt hzero, Nat.one_shiftLeft, Nat.pow_add]
    exact Nat.mul_lt_mul_of_pos_right h (Nat.two_pow_pos k)

/-- A whole number of at most 1023 bits is below the largest of the format. -/
theorem ofNat_isSome {n : Nat} (bits : Nat) (h : n < 2 ^ bits) (hpos : 0 < bits)
    (hbits : bits ≤ 1023) : (Magnitude.ofNat n).isSome = true := by
  have hlog : (n * Magnitude.one).log2 < bits + 1074 := log2_mul_lt 1074 hpos h
  have hshift : (n * Magnitude.one / 1).log2 - 52 + 1 ≤ 2045 := by
    rw [Nat.div_one]
    omega
  unfold Magnitude.ofNat Magnitude.nearest
  simp only [hshift, dite_true]
  split <;> rfl

theorem Number.binary64_isFinite {n : Number} (h : n.inRange = true) :
    n.binary64.isFinite = true := by
  cases n with
  | integer n =>
    have habs : n.natAbs < 0x10000000000000000 := by
      simp only [inRange, Bool.and_eq_true, decide_eq_true_eq] at h
      omega
    obtain ⟨m, hm⟩ := Option.isSome_iff_exists.1 (ofNat_isSome 64 habs (by decide) (by decide))
    simp only [binary64, Binary64.ofInt, hm]
    rfl
  | decimal x => exact h

/-! ## The text of null -/

/-- A text with a character that `null` has not is another text. -/
theorem ne_null_of_mem {s : String} {c : Char} (hs : c ∈ s.toList) (hc : c ∉ "null".toList) :
    s ≠ "null" := by
  rintro rfl
  exact hc hs

theorem exists_digit (n : Nat) : ∃ c ∈ n.repr.toList, c ∉ "null".toList := by
  obtain ⟨c, rest, hdigits⟩ := List.exists_cons_of_ne_nil (Nat.toDigits_ne_nil (n := n) (b := 10))
  have hdigit : c.isDigit = true :=
    Nat.isDigit_of_mem_toDigits (by decide) (by decide) (hdigits ▸ List.mem_cons_self)
  refine ⟨c, by simp [Nat.repr, hdigits], fun hc => ?_⟩
  have hcases : c = 'n' ∨ c = 'u' ∨ c = 'l' := by simpa using hc
  rcases hcases with rfl | rfl | rfl <;> cases hdigit

theorem jsonForm_ne_null (negative : Bool) (m : Magnitude) :
    Decimal.jsonForm negative m ≠ "null" := by
  unfold Decimal.jsonForm
  simp only
  split
  · exact ne_null_of_mem (c := '.') (by simp) (by decide)
  · exact ne_null_of_mem (c := 'e') (by simp) (by decide)

theorem Number.text_ne_null {n : Number} (h : n.inRange = true) : n.text ≠ "null" := by
  cases n with
  | integer n =>
    cases n with
    | ofNat n =>
      obtain ⟨c, hc, hnull⟩ := exists_digit n
      exact ne_null_of_mem hc hnull
    | negSucc n =>
      obtain ⟨c, hc, hnull⟩ := exists_digit (n + 1)
      have htext : (Number.integer (.negSucc n)).text.toList = '-' :: (n + 1).repr.toList :=
        String.toList_append
      exact ne_null_of_mem (htext ▸ List.mem_cons_of_mem '-' hc) hnull
  | decimal x =>
    cases x with
    | finite negative m => exact jsonForm_ne_null negative m
    | nan | infinite => cases h

theorem quoted_ne_null (s : String) : quoted s ≠ "null" :=
  ne_null_of_mem (c := '"') (by simp [quoted]) (by decide)

theorem compact_eq_null {v : Json} (h : v.inRange = true) : v.compact = "null" ↔ v = .null := by
  refine ⟨fun hnull => ?_, fun hv => by rw [hv]; rfl⟩
  cases v with
  | null => rfl
  | bool b => cases b <;> simp [compact] at hnull
  | number n => exact absurd hnull (Number.text_ne_null (inRange_iff.1 h n List.mem_cons_self))
  | text s => exact absurd hnull (quoted_ne_null s)
  | array items => exact absurd hnull (ne_null_of_mem (c := '[') (by simp [compact]) (by decide))
  | object members =>
    exact absurd hnull (ne_null_of_mem (c := '\x7b') (by simp [compact]) (by decide))

theorem bracketed_ne_null {level : Nat} {opening closing : String} {items : List String} {c : Char}
    (hc : c ∈ opening.toList) (hnull : c ∉ "null".toList) :
    bracketed level opening closing items ≠ "null" := by
  refine ne_null_of_mem (c := c) ?_ hnull
  unfold bracketed
  split <;> simp [hc]

theorem indented_eq_null {v : Json} (level : Nat) (h : v.inRange = true) :
    v.indented level = "null" ↔ v = .null := by
  refine ⟨fun hnull => ?_, fun hv => by rw [hv]; rfl⟩
  cases v with
  | null => rfl
  | bool b => cases b <;> simp [indented] at hnull
  | number n => exact absurd hnull (Number.text_ne_null (inRange_iff.1 h n List.mem_cons_self))
  | text s => exact absurd hnull (quoted_ne_null s)
  | array items => exact absurd hnull (bracketed_ne_null (c := '[') (by decide) (by decide))
  | object members => exact absurd hnull (bracketed_ne_null (c := '\x7b') (by decide) (by decide))

end DeviceHub.Json
