import DeviceHub.Decimal.Shortest

/-!
# Texts of binary64 numbers

Two forms are written. For people: positional, however many zeros that takes, and nothing after the
point when there is nothing to say. In JSON: the exponent form outside `10 ^ -5 .. 10 ^ 16`, and a
point in every positional number.
-/
namespace DeviceHub.Decimal

/-- The significant digits of a decimal without zeros at the end, and the exponent of ten of the
first of them. Zero has the digit `0`. -/
def significant (s : Scientific) : List Char × Int :=
  let digits := Nat.toDigits 10 s.digits
  let kept := (digits.reverse.dropWhile (· == '0')).reverse
  (if kept = [] then ['0'] else kept, digits.length - 1 + s.exponent)

/-- The digits before and after the point. -/
def positional (digits : List Char) (exponent : Int) : List Char × List Char :=
  if exponent < 0 then (['0'], List.replicate ((-exponent).toNat - 1) '0' ++ digits)
  else
    let whole := exponent.toNat + 1
    (digits.take whole ++ List.replicate (whole - digits.length) '0', digits.drop whole)

def sign (negative : Bool) : String := if negative then "-" else ""

/-- The form for people: `21`, `0.1`, `-0`, `NaN`, `inf`. -/
def plain : Binary64 → String
  | .nan => "NaN"
  | .infinite negative => sign negative ++ "inf"
  | .finite negative m =>
    let (digits, exponent) := significant (m.shortest .up)
    let (whole, fraction) := positional digits exponent
    sign negative ++ String.ofList whole ++
      if fraction = [] then "" else "." ++ String.ofList fraction

/-- The form in JSON of a finite number: `21.0`, `1e+20`, `1e-7`. -/
def jsonForm (negative : Bool) (m : Magnitude) : String :=
  let (digits, exponent) := significant (m.shortest .toEven)
  sign negative ++
    if -5 ≤ exponent ∧ exponent ≤ 15 then
      let (whole, fraction) := positional digits exponent
      String.ofList whole ++ "." ++ if fraction = [] then "0" else String.ofList fraction
    else
      let rest := digits.drop 1
      String.ofList (digits.take 1) ++ (if rest = [] then "" else "." ++ String.ofList rest) ++
        "e" ++ (if exponent < 0 then "-" else "+") ++ toString exponent.natAbs

end DeviceHub.Decimal
