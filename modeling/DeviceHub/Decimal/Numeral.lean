import DeviceHub.Decimal.Binary64
import DeviceHub.Text.Pieces

/-!
# Written numerals

Reading decimal numerals: natural numbers, integers with an optional sign, and binary64 numbers in
positional or exponent form. A binary64 numeral is read exactly and rounded once.
-/
namespace DeviceHub

/-- A non-negative decimal number `digits * 10 ^ exponent`. -/
structure Scientific where
  digits : Nat
  exponent : Int
  deriving DecidableEq

namespace Decimal

def isDigit (c : Char) : Bool := '0' ≤ c && c ≤ '9'

def digitValue (c : Char) : Nat := c.toNat - 48

/-- The number that a list of digits denotes. -/
def ofDigits (cs : List Char) : Nat := cs.foldl (fun n c => 10 * n + digitValue c) 0

/-- How many digits the numeral of a number has; none for zero. -/
def width (n : Nat) : Nat := if n = 0 then 0 else (Nat.toDigits 10 n).length

/-- A natural number: one digit or more. -/
def readNat? (cs : List Char) : Option Nat :=
  if cs ≠ [] ∧ cs.all isDigit then some (ofDigits cs) else none

/-- Whether there is a minus sign, and what follows an optional sign. -/
def splitSign : List Char → Bool × List Char
  | '-' :: r => (true, r)
  | '+' :: r => (false, r)
  | r => (false, r)

/-- An integer of any size, with an optional sign. -/
def readInt? (cs : List Char) : Option Int :=
  let (negative, digits) := splitSign cs
  (readNat? digits).map fun n => if negative then -(n : Int) else n

/-- The integers of 64 bits with sign. -/
def fitsInt64 (n : Int) : Bool := -0x8000000000000000 ≤ n && n ≤ 0x7fffffffffffffff

/-- An integer that fits 64 bits with sign. -/
def readInt64? (cs : List Char) : Option Int := (readInt? cs).filter fitsInt64

/-- The exponent part of a numeral, the letter already read. -/
def readExponent? (cs : List Char) : Option Int := readInt? cs

/-- A numeral without sign: digits with at most one point among or beside them, then an optional
exponent. -/
def readScientific? (cs : List Char) : Option Scientific :=
  let whole := cs.takeWhile isDigit
  let afterWhole := cs.dropWhile isDigit
  let (fraction, rest) := match afterWhole with
    | '.' :: r => (r.takeWhile isDigit, r.dropWhile isDigit)
    | r => ([], r)
  if whole = [] ∧ fraction = [] then none
  else
    let digits := ofDigits (whole ++ fraction)
    let scale : Int := -(fraction.length : Int)
    match rest with
    | [] => some ⟨digits, scale⟩
    | c :: r =>
      if c = 'e' ∨ c = 'E' then (readExponent? r).map fun e => ⟨digits, e + scale⟩ else none

end Decimal

/-- The magnitude nearest to a decimal number. Numbers outside `10 ^ -400 .. 10 ^ 400` are decided
by their width alone. -/
def Scientific.magnitude? (s : Scientific) : Option Magnitude :=
  if s.digits = 0 then some .zero
  else
    let top := (Decimal.width s.digits : Int) + s.exponent
    if 400 < top then none
    else if top < -400 then some .zero
    else if 0 ≤ s.exponent then
      Magnitude.nearest (s.digits * Nat.pow 10 s.exponent.toNat * Magnitude.one) 1
    else Magnitude.nearest (s.digits * Magnitude.one) (Nat.pow 10 (-s.exponent).toNat)

/-- A binary64 number: a numeral with an optional sign, or `inf`, `infinity` or `nan` in any
case. -/
def Binary64.read? (cs : List Char) : Option Binary64 :=
  let (negative, body) := Decimal.splitSign cs
  let word := Text.asciiLower body
  if word = "inf".toList ∨ word = "infinity".toList then some (.infinite negative)
  else if word = "nan".toList then some .nan
  else (Decimal.readScientific? body).map fun s => .ofMagnitude? negative s.magnitude?

end DeviceHub
