/-!
# UTF-8

Texts as bytes and bytes as texts. Bytes that are no text are read with one replacement character
for every longest start of a sequence that breaks off.

* `chars_nil_iff`: only no bytes at all read as no characters.
-/
namespace DeviceHub.Text.Utf8

/-- The bytes of a list of characters. -/
def encode (cs : List Char) : List UInt8 := cs.flatMap String.utf8EncodeChar

/-- For the first byte of a sequence: the bits it holds, how many bytes follow, and the bounds of
the second byte. -/
def lead? (b : Nat) : Option (Nat × Nat × Nat × Nat) :=
  if b < 0x80 then some (b, 0, 0x80, 0xBF)
  else if 0xC2 ≤ b ∧ b ≤ 0xDF then some (b % 32, 1, 0x80, 0xBF)
  else if b = 0xE0 then some (0, 2, 0xA0, 0xBF)
  else if b = 0xED then some (0xD, 2, 0x80, 0x9F)
  else if 0xE1 ≤ b ∧ b ≤ 0xEF then some (b % 16, 2, 0x80, 0xBF)
  else if b = 0xF0 then some (0, 3, 0x90, 0xBF)
  else if b = 0xF4 then some (4, 3, 0x80, 0x8F)
  else if 0xF1 ≤ b ∧ b ≤ 0xF3 then some (b % 8, 3, 0x80, 0xBF)
  else none

/-- The number that a sequence denotes after `count` more bytes, the first of them between bounds,
and the bytes behind it; no number when the sequence breaks off. -/
def continued (value low high : Nat) : Nat → List UInt8 → Option Nat × List UInt8
  | 0, r => (some value, r)
  | _ + 1, [] => (none, [])
  | count + 1, b :: r =>
    if low ≤ b.toNat ∧ b.toNat ≤ high then continued (value * 64 + b.toNat % 64) 0x80 0xBF count r
    else (none, b :: r)

theorem length_continued_le (value low high count : Nat) (bs : List UInt8) :
    (continued value low high count bs).2.length ≤ bs.length := by
  induction count generalizing value low high bs with
  | zero => simp [continued]
  | succ count ih =>
    cases bs with
    | nil => simp [continued]
    | cons b r =>
      simp only [continued]
      split
      · exact Nat.le_succ_of_le (ih _ _ _ r)
      · simp

/-- The characters of some bytes; no character where a sequence breaks off. -/
def chars : List UInt8 → List (Option Char)
  | [] => []
  | b :: r =>
    match lead? b.toNat with
    | none => none :: chars r
    | some (bits, count, low, high) =>
      let next := continued bits low high count r
      next.1.map Char.ofNat :: chars next.2
termination_by bs => bs.length
decreasing_by
  · exact Nat.lt_succ_self _
  · exact Nat.lt_succ_of_le (length_continued_le _ _ _ _ _)

/-- The text of some bytes, if they are one. -/
def decode? (bs : List UInt8) : Option (List Char) := (chars bs).mapM id

/-- The text of some bytes, with replacement characters. -/
def decode (bs : List UInt8) : List Char := (chars bs).map fun c => c.getD '\uFFFD'

theorem chars_nil_iff (bs : List UInt8) : chars bs = [] ↔ bs = [] := by
  cases bs with
  | nil => simp [chars]
  | cons b r =>
    simp only [chars]
    split <;> simp

end DeviceHub.Text.Utf8
