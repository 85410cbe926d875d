import DeviceHub.Decimal.Numeral
import DeviceHub.Instant

/-!
# Dates and times in TOML

A date, a time of day, or both with or without a distance from universal time. They are kept as texts:
the library has no use for them but to show where they stand.
-/
namespace DeviceHub.Toml

/-- A number of exactly `width` digits between two bounds. -/
def fixedNumber? (width low high : Nat) (cs : List Char) : Option (Nat × List Char) :=
  let digits := cs.take width
  if digits.length = width ∧ digits.all Decimal.isDigit then
    let n := Decimal.ofDigits digits
    if low ≤ n ∧ n ≤ high then some (n, cs.drop width) else none
  else none

/-- What stands behind a character. -/
def mark? (mark : Char) : List Char → Option (List Char)
  | c :: cs => if c = mark then some cs else none
  | [] => none

def isLeapYear (year : Nat) : Bool := (year % 4 = 0 && year % 100 ≠ 0) || year % 400 = 0

def daysOfMonth (year month : Nat) : Nat :=
  if month = 2 then (if isLeapYear year then 29 else 28)
  else if month = 4 ∨ month = 6 ∨ month = 9 ∨ month = 11 then 30
  else 31

open Instant (padded)

/-- Year, month and day. -/
def day? (cs : List Char) : Option (String × List Char) := do
  let (year, cs) ← fixedNumber? 4 0 9999 cs
  let cs ← mark? '-' cs
  let (month, cs) ← fixedNumber? 2 1 12 cs
  let cs ← mark? '-' cs
  let (day, cs) ← fixedNumber? 2 1 (daysOfMonth year month) cs
  some (padded 4 year ++ "-" ++ padded 2 month ++ "-" ++ padded 2 day, cs)

/-- The text of a fraction of a second: at most nine digits, and no zeros at the end. -/
def fractionText (digits : List Char) : String :=
  match ((digits.take 9).reverse.dropWhile (· = '0')).reverse with
  | [] => ""
  | kept => String.ofList ('.' :: kept)

/-- The fraction of a second, if there is one. -/
def fraction? : List Char → Option (String × List Char)
  | '.' :: cs =>
    let digits := cs.takeWhile Decimal.isDigit
    if digits = [] then none else some (fractionText digits, cs.dropWhile Decimal.isDigit)
  | cs => some ("", cs)

/-- Hour, minute and second. -/
def clock? (cs : List Char) : Option (String × List Char) := do
  let (hour, cs) ← fixedNumber? 2 0 23 cs
  let cs ← mark? ':' cs
  let (minute, cs) ← fixedNumber? 2 0 59 cs
  let cs ← mark? ':' cs
  let (second, cs) ← fixedNumber? 2 0 60 cs
  let (fraction, cs) ← fraction? cs
  some (padded 2 hour ++ ":" ++ padded 2 minute ++ ":" ++ padded 2 second ++ fraction, cs)

/-- The distance from universal time, if there is one. -/
def zone? : List Char → Option (String × List Char)
  | 'Z' :: cs | 'z' :: cs => some ("Z", cs)
  | c :: cs =>
    if c = '+' ∨ c = '-' then do
      let (hour, cs) ← fixedNumber? 2 0 23 cs
      let cs ← mark? ':' cs
      let (minute, cs) ← fixedNumber? 2 0 59 cs
      some (String.ofList [c] ++ padded 2 hour ++ ":" ++ padded 2 minute, cs)
    else some ("", c :: cs)
  | [] => some ("", [])

/-- What follows the day: a time of day and a zone, or nothing. -/
def afterDay? : List Char → Option (String × List Char)
  | c :: cs =>
    if (c = 'T' ∨ c = 't' ∨ c = ' ') ∧ (fixedNumber? 2 0 23 cs).isSome then do
      let (clock, cs) ← clock? cs
      let (zone, cs) ← zone? cs
      some ("T" ++ clock ++ zone, cs)
    else some ("", c :: cs)
  | [] => some ("", [])

/-- Whether a date or a time of day begins here. -/
def startsDate (cs : List Char) : Bool :=
  ((fixedNumber? 4 0 9999 cs).bind fun (_, cs) => mark? '-' cs).isSome ||
    ((fixedNumber? 2 0 23 cs).bind fun (_, cs) => mark? ':' cs).isSome

/-- A date, a time of day or both. -/
def date? (cs : List Char) : Option (String × List Char) :=
  if ((fixedNumber? 4 0 9999 cs).bind fun (_, cs) => mark? '-' cs).isSome then do
    let (day, cs) ← day? cs
    let (clock, cs) ← afterDay? cs
    some (day ++ clock, cs)
  else clock? cs

end DeviceHub.Toml
