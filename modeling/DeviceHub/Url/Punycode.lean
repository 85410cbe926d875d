/-!
# Punycode

A list of characters as basic characters only (RFC 3492). The characters that are not basic are
inserted one by one in ascending order; each insertion is a number of variable length whose digit
thresholds follow the numbers written before.
-/
namespace DeviceHub.Url.Punycode

/-- The letter or numeral of a digit below 36. -/
def digit (d : Nat) : Char := if d < 26 then Char.ofNat (97 + d) else Char.ofNat (22 + d)

def digitValue? (c : Char) : Option Nat :=
  let n := c.toNat
  if 97 ≤ n ∧ n ≤ 122 then some (n - 97)
  else if 65 ≤ n ∧ n ≤ 90 then some (n - 65)
  else if 48 ≤ n ∧ n ≤ 57 then some (n - 22)
  else none

/-- The threshold of the digit that stands for `weight`. -/
def threshold (weight bias : Nat) : Nat :=
  if weight ≤ bias then 1 else if bias + 26 ≤ weight then 26 else weight - bias

/-- A difference divided until it is small, and the weight of the digits that takes. -/
def shrink (delta weight : Nat) : Nat × Nat :=
  if 455 < delta then shrink (delta / 35) (weight + 36) else (delta, weight)
termination_by delta
decreasing_by omega

/-- The bias after `count` insertions, the last of them by `delta`. -/
def adapt (delta count : Nat) (isFirst : Bool) : Nat :=
  let halved := if isFirst then delta / 700 else delta / 2
  let (rest, weight) := shrink (halved + halved / count) 0
  weight + 36 * rest / (rest + 38)

/-- A number in digits, the lowest first. -/
def number (bias weight n : Nat) : List Char :=
  let t := threshold weight bias
  if n < t then [digit n]
  else digit (t + (n - t) % (36 - t)) :: number bias (weight + 36) ((n - t) / (36 - t))
termination_by n
decreasing_by
  have ht : 1 ≤ threshold weight bias := by unfold threshold; split <;> (try split) <;> omega
  exact Nat.lt_of_le_of_lt (Nat.div_le_self _ _) (by omega)

/-- A list being written. -/
structure Progress where
  written : List Char
  delta : Nat
  bias : Nat
  /-- How many characters are inserted. -/
  count : Nat

/-- One character looked at, all below `point` being inserted. -/
def Progress.next (basic point : Nat) (p : Progress) (c : Char) : Progress :=
  if c.toNat < point then { p with delta := p.delta + 1 }
  else if c.toNat = point then
    ⟨p.written ++ number p.bias 36 p.delta, 0, adapt p.delta (p.count + 1) (p.count = basic),
      p.count + 1⟩
  else p

/-- The insertions of some characters in ascending order. -/
def insertions (cs : List Char) (basic : Nat) : List Nat → Nat → Progress → Progress
  | [], _, p => p
  | point :: rest, previous, p =>
    let p := { p with delta := p.delta + (point - previous) * (p.count + 1) }
    let p := cs.foldl (Progress.next basic point) p
    insertions cs basic rest (point + 1) { p with delta := p.delta + 1 }

/-- A number put into an ascending list, unless it is there. -/
def place (n : Nat) : List Nat → List Nat
  | [] => [n]
  | m :: r => if n < m then n :: m :: r else if n = m then m :: r else m :: place n r

/-- The basic form of a list of characters. -/
def encode (cs : List Char) : List Char :=
  let basic := cs.filter fun c => c.toNat < 128
  let others := (cs.filter fun c => 128 ≤ c.toNat).foldr (fun c points => place c.toNat points) []
  let start : Progress := ⟨[], 0, 72, basic.length⟩
  basic ++ (if basic = [] then [] else ['-']) ++
    (insertions cs basic.length others 128 start).written

/-- A number and what follows it, `sum` and `factor` being those of the digits read before. -/
def readNumber? (bias weight factor sum : Nat) : List Char → Option (Nat × List Char)
  | [] => none
  | c :: r => do
    let d ← digitValue? c
    let t := threshold weight bias
    if d < t then some (sum + d * factor, r)
    else readNumber? bias (weight + 36) (factor * (36 - t)) (sum + d * factor) r

/-- The insertions that some digits stand for, done on `out`. -/
def inserted? (fuel bias point i : Nat) (out cs : List Char) : Option (List Char) :=
  match fuel, cs with
  | _, [] => some out
  | 0, _ => none
  | fuel + 1, c :: r => do
    let (sum, rest) ← readNumber? bias 36 1 i (c :: r)
    let count := out.length + 1
    let point := point + sum / count
    let position := sum % count
    if point < 0xD800 ∨ (0xDFFF < point ∧ point < 0x110000) then
      inserted? fuel (adapt (sum - i) count (i = 0)) point (position + 1)
        (out.insertIdx position (Char.ofNat point)) rest
    else none

/-- The characters of a basic form. -/
def decode (cs : List Char) : Option (List Char) :=
  let tail := (cs.reverse.takeWhile (· ≠ '-')).reverse
  let basic := (cs.reverse.drop (tail.length + 1)).reverse
  inserted? tail.length 72 128 0 basic tail

theorem digitValue?_digit : ∀ d < 36, digitValue? (digit d) = some d := by decide

end DeviceHub.Url.Punycode
