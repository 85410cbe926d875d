import DeviceHub.Text.Utf8

/-!
# UTF-8 read back

The bytes of a text are read as the text, without a replacement character.

* `lead?_one` to `lead?_four`: the first bytes of the four lengths that a sequence can have.
* `chars_sequence`: the sequence of a number is read as the number.
* `decode_encode`: so are the sequences of all characters of a text.
-/
namespace DeviceHub.Text.Utf8

/-! ## First bytes -/

theorem lead?_one : ∀ n < 128, lead? n = some (n, 0, 0x80, 0xBF) := by decide

theorem lead?_two : ∀ n < 30, lead? (n + 194) = some (n + 2, 1, 0x80, 0xBF) := by decide

/-- The bounds of the second byte leave out what fewer bytes say, and the surrogates. -/
theorem lead?_three : ∀ n < 16, lead? (n + 224) =
    some (n, 2, if n = 0 then 0xA0 else 0x80, if n = 13 then 0x9F else 0xBF) := by decide

theorem lead?_four : ∀ n < 5, lead? (n + 240) =
    some (n, 3, if n = 0 then 0x90 else 0x80, if n = 4 then 0x8F else 0xBF) := by decide

/-! ## Sequences -/

/-- A byte behind the first of a sequence, with the last six bits of a number. -/
def continuation (n : Nat) : UInt8 := UInt8.ofNat (n % 64 + 128)

theorem continued_cons {value low high count n : Nat} {rest : List UInt8} (hlow : low ≤ n % 64 + 128)
    (hhigh : n % 64 + 128 ≤ high) :
    continued value low high (count + 1) (continuation n :: rest) =
      continued (value * 64 + n % 64) 0x80 0xBF count rest := by
  have hsize : n % 64 + 128 < 256 := by omega
  have hnat : (continuation n).toNat = n % 64 + 128 := UInt8.toNat_ofNat_of_lt' hsize
  have hbits : (n % 64 + 128) % 64 = n % 64 := by omega
  rw [continued, hnat, if_pos ⟨hlow, hhigh⟩, hbits]

/-- What begins with a first byte is read as one number, and reading goes on behind it. -/
theorem chars_first {first bits count low high value : Nat} {more rest : List UInt8}
    (hfirst : first < 256) (hlead : lead? first = some (bits, count, low, high))
    (hmore : continued bits low high count (more ++ rest) = (some value, rest)) :
    chars (UInt8.ofNat first :: (more ++ rest)) = some (Char.ofNat value) :: chars rest := by
  rw [chars, UInt8.toNat_ofNat_of_lt' hfirst, hlead]
  simp only [hmore, Option.map_some]

/-- The sequence of a number. -/
def sequence (n : Nat) : List UInt8 :=
  if n ≤ 127 then [UInt8.ofNat n]
  else if n ≤ 2047 then [UInt8.ofNat (n / 64 % 32 + 192), continuation n]
  else if n ≤ 65535 then
    [UInt8.ofNat (n / 4096 % 16 + 224), continuation (n / 64), continuation n]
  else
    [UInt8.ofNat (n / 262144 % 8 + 240), continuation (n / 4096), continuation (n / 64),
      continuation n]

/-- By cases on the length of the sequence. -/
theorem chars_sequence {n : Nat} (hn : n < 0xD800 ∨ 0xDFFF < n ∧ n < 0x110000) (rest : List UInt8) :
    chars (sequence n ++ rest) = some (Char.ofNat n) :: chars rest := by
  unfold sequence
  split
  · next hone => exact chars_first (by omega) (lead?_one n (by omega)) rfl
  · next hone =>
    split
    · next htwo =>
      have hlead := lead?_two (n / 64 % 32 - 2) (by omega)
      have hfirst : n / 64 % 32 - 2 + 194 = n / 64 % 32 + 192 := by omega
      have hvalue : (n / 64 % 32 - 2 + 2) * 64 + n % 64 = n := by omega
      rw [hfirst] at hlead
      refine chars_first (by omega) hlead ?_
      rw [List.cons_append, continued_cons (by omega) (by omega), hvalue]
      rfl
    · next htwo =>
      split
      · next hthree =>
        have hlead := lead?_three (n / 4096 % 16) (by omega)
        have hvalue : (n / 4096 % 16 * 64 + n / 64 % 64) * 64 + n % 64 = n := by omega
        refine chars_first (by omega) hlead ?_
        rw [List.cons_append, continued_cons (by split <;> omega) (by split <;> omega),
          List.cons_append, continued_cons (by omega) (by omega), hvalue]
        rfl
      · next hthree =>
        have hlead := lead?_four (n / 262144 % 8) (by omega)
        have hvalue : ((n / 262144 % 8 * 64 + n / 4096 % 64) * 64 + n / 64 % 64) * 64 + n % 64 = n := by
          omega
        refine chars_first (by omega) hlead ?_
        rw [List.cons_append, continued_cons (by split <;> omega) (by split <;> omega),
          List.cons_append, continued_cons (by omega) (by omega),
          List.cons_append, continued_cons (by omega) (by omega), hvalue]
        rfl

theorem chars_encodeChar (c : Char) (rest : List UInt8) :
    chars (String.utf8EncodeChar c ++ rest) = some c :: chars rest := by
  have hbytes : String.utf8EncodeChar c = sequence c.toNat := rfl
  have hread : chars (sequence c.toNat ++ rest) = some (Char.ofNat c.toNat) :: chars rest :=
    chars_sequence c.valid rest
  rw [hbytes, hread, Char.ofNat_toNat]

theorem decode_encode (cs : List Char) : decode (encode cs) = cs := by
  have hchars : chars (encode cs) = cs.map some := by
    induction cs with
    | nil => simp [encode, chars]
    | cons c cs ih =>
      rw [encode, List.flatMap_cons, chars_encodeChar, List.map_cons]
      exact congrArg _ ih
  rw [decode, hchars, List.map_map]
  exact List.map_id cs

end DeviceHub.Text.Utf8
