import DeviceHub.Text.Utf8

/-!
# Percent encoding

A character that may not stand in some part of a URL is written as the bytes of its UTF-8 form, each
a percent sign and two hexadecimal digits. What may not stand differs from part to part.
-/
namespace DeviceHub.Url

/-- The characters that are written as bytes. -/
abbrev EncodeSet := Char → Bool

/-- Controls and all that is not ASCII; in every set. -/
def controls : EncodeSet := fun c => c.toNat < 32 || 126 < c.toNat

def fragmentSet : EncodeSet := fun c => controls c || " \"<>`".toList.contains c

def pathSet : EncodeSet := fun c => fragmentSet c || "#?\x7b\x7d".toList.contains c

def userinfoSet : EncodeSet := fun c => pathSet c || "/:;=@[\\]^|".toList.contains c

def querySet : EncodeSet := fun c => controls c || " \"#<>".toList.contains c

def specialQuerySet : EncodeSet := fun c => querySet c || c = '\''

/-- The upper case hexadecimal digit of a number below 16. -/
def upperHexDigit (n : Nat) : Char := if n < 10 then Char.ofNat (48 + n) else Char.ofNat (55 + n)

/-- A byte behind a percent sign. -/
def percentByte (b : UInt8) : List Char :=
  ['%', upperHexDigit (b.toNat / 16), upperHexDigit (b.toNat % 16)]

/-- A text with the characters of a set written as bytes. -/
def encodeWith (inSet : EncodeSet) (cs : List Char) : List Char :=
  cs.flatMap fun c => if inSet c then (String.utf8EncodeChar c).flatMap percentByte else [c]

/-- The value of a hexadecimal digit. -/
def hexValue? (c : Char) : Option Nat :=
  let n := c.toNat
  if 48 ≤ n ∧ n ≤ 57 then some (n - 48)
  else if 97 ≤ n ∧ n ≤ 102 then some (n - 87)
  else if 65 ≤ n ∧ n ≤ 70 then some (n - 55)
  else none

/-- The bytes of a text; a percent sign that two hexadecimal digits follow stands for a byte. -/
def percentDecode : List Char → List UInt8
  | '%' :: a :: b :: r =>
    match hexValue? a, hexValue? b with
    | some high, some low => UInt8.ofNat (16 * high + low) :: percentDecode r
    | _, _ => '%'.toNat.toUInt8 :: percentDecode (a :: b :: r)
  | c :: r => String.utf8EncodeChar c ++ percentDecode r
  | [] => []
termination_by cs => cs.length

/-- Nothing outside a set is touched. -/
theorem encodeWith_eq_self {inSet : EncodeSet} {cs : List Char}
    (h : ∀ c ∈ cs, inSet c = false) : encodeWith inSet cs = cs := by
  induction cs with
  | nil => rfl
  | cons c r ih =>
    have hc := h c (List.mem_cons_self ..)
    have hr := ih fun x hx => h x (List.mem_cons_of_mem _ hx)
    simp only [encodeWith] at hr
    simp [encodeWith, hc, hr]

end DeviceHub.Url
