/-!
# Scripts

A script says what a simulated part answers, entry by entry; its last entry is repeated.
-/
namespace DeviceHub.Simulation

/-- The entry for the `n`-th time, from 0. -/
def entry? {α : Type} (script : List α) (n : Nat) : Option α :=
  script[min n (script.length - 1)]?

theorem entry?_of_lt {α : Type} (script : List α) (n : Nat) (h : n < script.length) :
    entry? script n = script[n]? := by
  unfold entry?
  rw [Nat.min_eq_left (by omega)]

theorem entry?_of_le {α : Type} (script : List α) (n : Nat) (h : script.length ≤ n) :
    entry? script n = script.getLast? := by
  unfold entry?
  rw [Nat.min_eq_right (by omega), List.getLast?_eq_getElem?]

end DeviceHub.Simulation
