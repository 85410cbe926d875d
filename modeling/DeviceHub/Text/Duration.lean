/-!
# Lengths of time

A length of time is written as its years, months, days, hours, minutes and seconds, the largest unit
first and only those of which there is one at least. A year is 365.25 days and a month 30.44 days.
-/
namespace DeviceHub.Text.Duration

/-- A unit of time. -/
structure TimeUnit where
  seconds : Nat
  name : String
  /-- Whether the name takes an `s` when there is more than one. -/
  hasPlural : Bool

/-- The units, the largest first. -/
def timeUnits : List TimeUnit := [
  ⟨31557600, "year", true⟩, ⟨2630016, "month", true⟩, ⟨86400, "day", true⟩,
  ⟨3600, "h", false⟩, ⟨60, "m", false⟩, ⟨1, "s", false⟩]

/-- Some of a unit, if any. -/
def TimeUnit.text? (u : TimeUnit) (count : Nat) : Option String :=
  if count = 0 then none
  else some (toString count ++ u.name ++ if u.hasPlural ∧ count ≠ 1 then "s" else "")

/-- The parts of a length of time by some units. -/
def parts (seconds : Nat) : List TimeUnit → List String
  | [] => []
  | u :: rest => (u.text? (seconds / u.seconds)).toList ++ parts (seconds % u.seconds) rest

/-- The text of some seconds. -/
def text (seconds : Nat) : String :=
  if seconds = 0 then "0s" else String.intercalate " " (parts seconds timeUnits)

end DeviceHub.Text.Duration
