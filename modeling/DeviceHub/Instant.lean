/-!
# Instants

A point in time is a whole number of nanoseconds since the start of 1970, between the first and
the last instant of the calendar. A sum that leaves the calendar is refused; who wants it stopped at
the end of the calendar says so. The same goes for spans of time, which have a limit of their own, far
longer than the calendar.
-/
namespace DeviceHub

/-- Nanoseconds in a second. -/
def nanosPerSecond : Int := 1000000000

/-- An instant of the calendar. -/
structure Instant where
  nanos : Int
  inCalendar : -8334601228800000000000 ≤ nanos ∧ nanos ≤ 8210266876799999999999
  deriving DecidableEq

namespace Instant

/-- The first instant, the start of the year -262143. -/
def first : Instant := ⟨-8334601228800000000000, by decide⟩

/-- The last instant, the end of the year 262142. A credential that never expires has it as its
expiry. -/
def last : Instant := ⟨8210266876799999999999, by decide⟩

/-- The start of 1970. -/
def epoch : Instant := ⟨0, by decide⟩

instance : Inhabited Instant := ⟨epoch⟩

instance : LE Instant := ⟨fun a b => a.nanos ≤ b.nanos⟩

instance : LT Instant := ⟨fun a b => a.nanos < b.nanos⟩

instance (a b : Instant) : Decidable (a ≤ b) := inferInstanceAs (Decidable (a.nanos ≤ b.nanos))

instance (a b : Instant) : Decidable (a < b) := inferInstanceAs (Decidable (a.nanos < b.nanos))

theorem le_refl (a : Instant) : a ≤ a := Int.le_refl a.nanos

theorem le_trans {a b c : Instant} (hab : a ≤ b) (hbc : b ≤ c) : a ≤ c := Int.le_trans hab hbc

/-- The later of two instants. -/
def later (a b : Instant) : Instant := if a < b then b else a

/-- The later of two instants is one of them, and no earlier than the other. -/
theorem later_cases (a b : Instant) : later a b = b ∧ a ≤ b ∨ later a b = a ∧ b ≤ a := by
  unfold later
  by_cases h : a < b
  · exact .inl ⟨if_pos h, Int.le_of_lt h⟩
  · exact .inr ⟨if_neg h, Int.not_lt.1 h⟩

/-- The instant some nanoseconds after the start of 1970. -/
def ofNanos? (nanos : Int) : Option Instant :=
  if h : -8334601228800000000000 ≤ nanos ∧ nanos ≤ 8210266876799999999999 then some ⟨nanos, h⟩
  else none

/-- The instant some seconds and nanoseconds after the start of 1970. -/
def ofSeconds? (seconds : Int) (nanos : Int) : Option Instant :=
  ofNanos? (seconds * nanosPerSecond + nanos)

/-- The instant `nanos` later, when the calendar has it. -/
def add? (t : Instant) (nanos : Int) : Option Instant := ofNanos? (t.nanos + nanos)

/-- The longest span of time, in nanoseconds: as many milliseconds as 64 bits with sign can count. -/
def longestSpan : Int := 0x7fffffffffffffff * 1000000

/-- The span of some seconds, in nanoseconds, when a span can be so long. -/
def span? (seconds : Int) : Option Int :=
  let nanos := seconds * nanosPerSecond
  if -longestSpan ≤ nanos ∧ nanos ≤ longestSpan then some nanos else none

/-- The whole seconds since the start of 1970, rounded down. -/
def seconds (t : Instant) : Int := t.nanos / nanosPerSecond

/-- The nanoseconds beyond the whole seconds. -/
def subsecond (t : Instant) : Nat := (t.nanos % nanosPerSecond).toNat

/-- Year, month and day of a count of days since the start of 1970, by the rule of the proleptic
Gregorian calendar: years start in March and repeat every 400. -/
def civil (days : Int) : Int × Nat × Nat :=
  let shifted := days + 719468
  let era := shifted / 146097
  let dayOfEra := (shifted % 146097).toNat
  let yearOfEra := (dayOfEra - dayOfEra / 1460 + dayOfEra / 36524 - dayOfEra / 146096) / 365
  let dayOfYear := dayOfEra - (365 * yearOfEra + yearOfEra / 4 - yearOfEra / 100)
  let shiftedMonth := (5 * dayOfYear + 2) / 153
  let day := dayOfYear - (153 * shiftedMonth + 2) / 5 + 1
  let month := if shiftedMonth < 10 then shiftedMonth + 3 else shiftedMonth - 9
  ((yearOfEra : Int) + era * 400 + if month ≤ 2 then 1 else 0, month, day)

/-- A number with zeros in front up to a width. -/
def padded (width n : Nat) : String :=
  let digits := Nat.toDigits 10 n
  String.ofList (List.replicate (width - digits.length) '0' ++ digits)

/-- Four digits, and a sign for years outside 0 to 9999. -/
def yearText (year : Int) : String :=
  if 0 ≤ year ∧ year ≤ 9999 then padded 4 year.toNat
  else (if year < 0 then "-" else "+") ++ padded 4 year.natAbs

/-- The fraction of a second with three, six or nine digits, as many as it needs. -/
def fractionText (nanos : Nat) : String :=
  if nanos = 0 then ""
  else if nanos % 1000000 = 0 then "." ++ padded 3 (nanos / 1000000)
  else if nanos % 1000 = 0 then "." ++ padded 6 (nanos / 1000)
  else "." ++ padded 9 nanos

/-- The form of RFC 3339 in universal time. -/
def text (t : Instant) : String :=
  let (year, month, day) := civil (t.seconds / 86400)
  let ofDay := (t.seconds % 86400).toNat
  yearText year ++ "-" ++ padded 2 month ++ "-" ++ padded 2 day ++ "T" ++
    padded 2 (ofDay / 3600) ++ ":" ++ padded 2 (ofDay / 60 % 60) ++ ":" ++ padded 2 (ofDay % 60) ++
    fractionText t.subsecond ++ "Z"

end Instant

end DeviceHub
