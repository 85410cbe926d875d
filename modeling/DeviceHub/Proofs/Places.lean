/-!
# Places in lists

Tasks, refreshes and callers are known by their places in lists that only grow at the end. What is at
a place after the list has grown, or after one place has changed, is what was there before, or it is
what has come.
-/
namespace DeviceHub

variable {α : Type} {l : List α} {x a : α}

theorem getElem?_concat (l : List α) (x : α) (n : Nat) :
    (l ++ [x])[n]? = if n = l.length then some x else l[n]? := by
  rcases Nat.lt_trichotomy n l.length with hlt | rfl | hgt
  · rw [List.getElem?_append_left hlt, if_neg (Nat.ne_of_lt hlt)]
  · rw [List.getElem?_concat_length, if_pos rfl]
  · have hlength : (l ++ [x]).length ≤ n := by
      simp only [List.length_append, List.length_singleton]
      omega
    rw [if_neg (by omega), List.getElem?_eq_none hlength, List.getElem?_eq_none (by omega)]

theorem getElem?_concat_cases {n : Nat} (h : (l ++ [x])[n]? = some a) :
    l[n]? = some a ∨ a = x := by
  rw [getElem?_concat] at h
  split at h
  · exact .inr (Option.some.inj h).symm
  · exact .inl h

theorem getElem?_set_cases {m n : Nat} (h : (l.set m x)[n]? = some a) :
    l[n]? = some a ∨ a = x := by
  rw [List.getElem?_set] at h
  split at h
  · split at h
    · exact .inr (Option.some.inj h).symm
    · cases h
  · exact .inl h

/-- A change at one place counts there alone. -/
theorem countP_modify {p : α → Bool} {f : α → α} {n : Nat} (h : l[n]? = some a) :
    (l.modify n f).countP p + (if p a then 1 else 0) = l.countP p + (if p (f a) then 1 else 0) := by
  induction l generalizing n with
  | nil => cases h
  | cons b l ih =>
    cases n with
    | zero =>
      cases h
      simp only [List.modify_zero_cons, List.countP_cons]
      omega
    | succ n =>
      have hrest := ih h
      simp only [List.modify_succ_cons, List.countP_cons]
      omega

end DeviceHub
