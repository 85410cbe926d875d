import DeviceHub.Decimal.Numeral
import DeviceHub.Json.Value
import DeviceHub.Toml.Text

/-!
# Numbers in TOML

Digits may be set apart by single underscores between them. A whole number has no further zeros in
front and fits 64 bits with its sign; without a sign it may also be written to the bases 16, 8 and 2.
-/
namespace DeviceHub.Toml

/-- Digits of some kind, without the underscores between them. -/
def digits? (isDigit : Char → Bool) (cs : List Char) : Option (List Char × List Char) :=
  let inRun (c : Char) : Bool := isDigit c || c = '_'
  let run := cs.takeWhile inRun
  let isApart : List Char → Bool := fun run =>
    run.head?.any isDigit && run.getLast?.any isDigit &&
      (run.zip (run.drop 1)).all fun (a, b) => a ≠ '_' || b ≠ '_'
  if isApart run then some (run.filter (· ≠ '_'), cs.dropWhile inRun) else none

/-- The digits before the point: one zero alone, or no zero in front. -/
def whole? (cs : List Char) : Option (List Char × List Char) :=
  (digits? Decimal.isDigit cs).filter fun (ds, _) => ds = ['0'] || ds.head? ≠ some '0'

/-- A sign, if there is one. -/
def sign : List Char → List Char × List Char
  | '+' :: cs => ([], cs)
  | '-' :: cs => (['-'], cs)
  | cs => ([], cs)

/-- The digits behind the point, with the point, if there is one. -/
def decimals? : List Char → Option (List Char × List Char)
  | '.' :: cs => (digits? Decimal.isDigit cs).map fun (ds, cs) => ('.' :: ds, cs)
  | cs => some ([], cs)

/-- The exponent with its mark, if there is one. -/
def exponent? : List Char → Option (List Char × List Char)
  | c :: cs =>
    if c = 'e' ∨ c = 'E' then
      let (s, cs) := sign cs
      (digits? Decimal.isDigit cs).map fun (ds, cs) => ('e' :: s ++ ds, cs)
    else some ([], c :: cs)
  | [] => some ([], [])

/-- A number of 64 bits with its sign. -/
def integerValue? (n : Int) : Option Json := if Decimal.fitsInt64 n then some (Json.integer n) else none

/-- A decimal; one that is too large is none, below zero it is infinite. -/
def decimalValue? (cs : List Char) : Option Json :=
  match Binary64.read? cs with
  | some (.infinite false) => none
  | x => x.map fun x => .number (.decimal x)

/-- A number to the base ten. -/
def decimal? (cs : List Char) : Option (Json × List Char) := do
  let (s, cs) := sign cs
  let (ds, cs) ← whole? cs
  let (fraction, cs) ← decimals? cs
  let (exponent, cs) ← exponent? cs
  if fraction = [] ∧ exponent = [] then
    let n := Decimal.ofDigits ds
    let v ← integerValue? (if s = [] then n else -n)
    some (v, cs)
  else
    let v ← decimalValue? (s ++ ds ++ fraction ++ exponent)
    some (v, cs)

/-- A number to another base. -/
def based? (base : Nat) (cs : List Char) : Option (Json × List Char) := do
  let isDigit (c : Char) : Bool := (Json.Reader.hexDigit? c).any fun d => d < base
  let (ds, cs) ← digits? isDigit cs
  let n := ds.foldl (fun n c => base * n + (Json.Reader.hexDigit? c).getD 0) 0
  let v ← integerValue? n
  some (v, cs)

/-- Infinity or what is no number, with a sign or without. -/
def special? (cs : List Char) : Option (Json × List Char) :=
  match sign cs with
  | (s, 'i' :: 'n' :: 'f' :: cs) => some (.number (.decimal (.infinite (s ≠ []))), cs)
  | (_, 'n' :: 'a' :: 'n' :: cs) => some (.number (.decimal .nan), cs)
  | _ => none

/-- A number of any kind. -/
def number? : List Char → Option (Json × List Char)
  | '0' :: 'x' :: cs => based? 16 cs
  | '0' :: 'o' :: cs => based? 8 cs
  | '0' :: 'b' :: cs => based? 2 cs
  | cs =>
    match special? cs with
    | some found => some found
    | none => decimal? cs

end DeviceHub.Toml
