import DeviceHub.Text.Pieces
import DeviceHub.Text.Utf8
import DeviceHub.Url.Punycode

/-!
# Domain names

A domain name is written in lower case ASCII. Labels with other characters are mapped first: upper
case letters to lower case, wide forms to plain ones, characters that only join or break to nothing;
what then still is not ASCII is written in punycode behind `xn--`.

The mapping is an excerpt of the one of UTS 46, for the scripts and characters that are listed here.
Characters beyond it are left as they are: other scripts have capitals too, ligatures and other compatible
forms would be taken apart, marks would be composed with their letters, and more characters than
`isForbidden` names would be disallowed. Names in ASCII need nothing of it but the
small letters.
-/
namespace DeviceHub.Url

namespace Domain

/-- Ranges of capital letters of the Latin, Greek, Cyrillic and Armenian scripts, what to add for the small
letter, and whether only every second character of the range is a capital. An excerpt: the capitals of other
scripts, and some rare ones of these, are not listed. -/
def capitals : List (Nat × Nat × Nat × Bool) := [
  (0x41, 0x5A, 32, false), (0xC0, 0xD6, 32, false), (0xD8, 0xDE, 32, false),
  (0x100, 0x12F, 1, true), (0x132, 0x137, 1, true), (0x139, 0x148, 1, false),
  (0x14A, 0x177, 1, true), (0x391, 0x3A1, 32, false), (0x3A3, 0x3AB, 32, false),
  (0x400, 0x40F, 80, false), (0x410, 0x42F, 32, false), (0x460, 0x481, 1, true),
  (0x48A, 0x4BF, 1, true), (0x4D0, 0x52F, 1, true), (0x531, 0x556, 48, false),
  (0x1E00, 0x1E95, 1, true), (0x1EA0, 0x1EFF, 1, true)]

def smallLetter (n : Nat) : Nat :=
  match capitals.find? fun (low, high, _, _) => low ≤ n && n ≤ high with
  | none => n
  | some (low, _, step, alternating) =>
    if step = 1 then
      if alternating then (if (n - low) % 2 = 0 then n + 1 else n)
      else if n % 2 = 1 then n + 1 else n
    else n + step

/-- The characters that a character is mapped to, as far as this excerpt of the mapping goes: case, full
width and ignored characters. Ligatures and other compatible forms are left as they are, and nothing is
composed. -/
def mapped (c : Char) : List Char :=
  let n := c.toNat
  if n = 0xAD ∨ n = 0x200B ∨ n = 0x2060 ∨ n = 0xFEFF ∨ (0xFE00 ≤ n ∧ n ≤ 0xFE0F) then []
  else if n = 0x3002 ∨ n = 0xFF0E ∨ n = 0xFF61 then ['.']
  else if 0xFF01 ≤ n ∧ n ≤ 0xFF5E then [Char.ofNat (smallLetter (n - 0xFEE0))]
  else [Char.ofNat (smallLetter n)]

/-- The characters that may not stand in a name. -/
def isForbidden (c : Char) : Bool :=
  c.toNat ≤ 32 || c.toNat = 127 || "%#/:<>?@[\\]^|".toList.contains c || c = '\uFFFD' ||
    (0x80 ≤ c.toNat && c.toNat ≤ 0x9F)

def isAscii (c : Char) : Bool := c.toNat < 128

/-- The ASCII form of a mapped label. A label that has this form already must be the form of some
label. -/
def label? (cs : List Char) : Option (List Char) :=
  if cs.all isAscii then
    if "xn--".toList.isPrefixOf cs then
      match Punycode.decode (cs.drop 4) with
      | some inner => if inner.all isAscii ∨ inner.any isForbidden then none else some cs
      | none => none
    else some cs
  else some ("xn--".toList ++ Punycode.encode cs)

/-- The ASCII form of a name given as bytes. -/
def toAscii? (bytes : List UInt8) : Option (List Char) := do
  let cs := (← Text.Utf8.decode? bytes).flatMap mapped
  if cs.any isForbidden then none
  else
    let labels ← (Text.pieces '.' cs).mapM label?
    some (Text.join ['.'] labels)

end Domain

end DeviceHub.Url
