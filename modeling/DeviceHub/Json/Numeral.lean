import DeviceHub.Decimal.Numeral
import DeviceHub.Json.Value

/-!
# JSON numerals

An integer numeral that fits 64 bits, with or without sign, is an integer; `-0` and every other
numeral is a binary64 number. Its leading digits are kept as far as they fit 64 bits and the other
digits only move the exponent; the number kept is then scaled by powers of ten, each step rounded.
A number too large for the format is refused.
-/
namespace DeviceHub.Json

/-- A numeral as written. -/
structure Numeral where
  negative : Bool
  whole : List Char
  fraction : Option (List Char)
  exponent : Option Int
  deriving DecidableEq

namespace Numeral

/-- The largest number of 64 bits without sign. -/
def ceiling : Nat := 0xffffffffffffffff

/-- Digits appended to a number while it fits 64 bits, and the digits left over. -/
def gather (n : Nat) : List Char → Nat × List Char
  | [] => (n, [])
  | c :: r =>
    let next := 10 * n + Decimal.digitValue c
    if next ≤ ceiling then gather next r else (n, c :: r)

/-- A power of ten, rounded to the format. -/
def powerOfTen (k : Nat) : Magnitude := (Magnitude.ofNat (Nat.pow 10 k)).getD .zero

/-- A number divided by `10 ^ 308` some times and then by `10 ^ rest`, until it is zero. -/
def scaleDown (m : Magnitude) (rest : Nat) : Nat → Option Magnitude
  | 0 => m.div? (powerOfTen rest)
  | steps + 1 =>
    if m.significand = 0 then some m
    else (m.div? (powerOfTen 308)).bind fun next => scaleDown next rest steps

/-- A number of 64 bits times a power of ten. -/
def scale (n : Nat) (exponent : Int) : Option Magnitude := do
  let m ← Magnitude.ofNat n
  if 0 ≤ exponent then
    if exponent ≤ 308 then m.mul? (powerOfTen exponent.toNat)
    else if n = 0 then some m else none
  else
    let e := (-exponent).toNat
    let steps := (e - 1) / 308
    scaleDown m (e - 308 * steps) steps

/-- The exponents that fit 32 bits. -/
def exponentLimit : Int := 0x7fffffff

/-- The number of a numeral that is not a plain integer: the digits kept, the exponent that the
digits left out or behind the point make, and the written exponent. -/
def scaled? (negative : Bool) (n : Nat) (start : Int) (exponent : Option Int) : Option Number :=
  match exponent with
  | none => (scale n start).map fun m => .decimal (.finite negative m)
  | some e =>
    if exponentLimit < e.natAbs then
      if n ≠ 0 ∧ 0 < e then none else some (.decimal (.finite negative .zero))
    else (scale n (start + e)).map fun m => .decimal (.finite negative m)

/-- The number that a numeral denotes. -/
def number? (t : Numeral) : Option Number :=
  let (n, rest) := gather 0 t.whole
  match t.fraction, t.exponent with
  | none, none =>
    if rest = [] then
      if ¬t.negative then some (.integer n)
      else if n = 0 ∨ 0x8000000000000000 < n then
        (Magnitude.ofNat n).map fun m => .decimal (.finite true m)
      else some (.integer (-n))
    else scaled? t.negative n rest.length none
  | none, some e => scaled? t.negative n rest.length (some e)
  | some digits, exponent =>
    let (n', left) := gather n digits
    scaled? t.negative n' (rest.length - (digits.length - left.length : Int)) exponent

end Numeral

end DeviceHub.Json
