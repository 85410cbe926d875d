/-!
# Cutting and replacing

Texts cut at a separator, cut at its first occurrence, and with every occurrence of a pattern
replaced. All work on characters from the left.

* `pieces_ne_nil`: there is always at least one piece.
* `join_pieces`: putting the separators back gives the text again.
* `cut_eq_some`: what a cut returns are the two sides of the first separator.
-/
namespace DeviceHub.Text

/-- The pieces of a text between the separators. -/
def pieces (sep : Char) : List Char → List (List Char)
  | [] => [[]]
  | c :: r =>
    if c = sep then [] :: pieces sep r
    else match pieces sep r with
      | [] => [[c]]
      | p :: ps => (c :: p) :: ps

/-- Pieces put together with a separator between them. -/
def join (sep : List Char) : List (List Char) → List Char
  | [] => []
  | [p] => p
  | p :: q :: ps => p ++ sep ++ join sep (q :: ps)

/-- The sides of the first separator. -/
def cut (sep : Char) : List Char → Option (List Char × List Char)
  | [] => none
  | c :: r => if c = sep then some ([], r) else (cut sep r).map fun (a, b) => (c :: a, b)

/-- The text with every occurrence of `pattern`, found from the left, replaced. An empty pattern
occurs nowhere. -/
def replaceAll (pattern replacement : List Char) : List Char → List Char
  | [] => []
  | c :: r =>
    if pattern ≠ [] ∧ pattern.isPrefixOf (c :: r) then
      replacement ++ replaceAll pattern replacement (r.drop (pattern.length - 1))
    else c :: replaceAll pattern replacement r
termination_by cs => cs.length
decreasing_by all_goals (simp [List.length_drop]; try omega)

/-- Upper case letters of the Latin alphabet in lower case, all else as it is. -/
def asciiLower (cs : List Char) : List Char := cs.map Char.toLower

theorem pieces_ne_nil (sep : Char) (cs : List Char) : pieces sep cs ≠ [] := by
  cases cs with
  | nil => simp [pieces]
  | cons c r =>
    simp only [pieces]
    split
    · simp
    · split <;> simp

theorem join_pieces (sep : Char) (cs : List Char) : join [sep] (pieces sep cs) = cs := by
  induction cs with
  | nil => rfl
  | cons c r ih =>
    simp only [pieces]
    split
    · next h =>
      subst h
      match hp : pieces c r, pieces_ne_nil c r with
      | p :: ps, _ => rw [hp] at ih; simp [join, ih]
    · match hp : pieces sep r, pieces_ne_nil sep r with
      | p :: ps, _ =>
        rw [hp] at ih
        cases ps with
        | nil => simpa [join] using ih
        | cons q qs => simpa [join] using ih

theorem cut_eq_some {sep : Char} {cs a b : List Char} (h : cut sep cs = some (a, b)) :
    cs = a ++ sep :: b ∧ sep ∉ a := by
  induction cs generalizing a b with
  | nil => simp [cut] at h
  | cons c r ih =>
    simp only [cut] at h
    split at h
    · next hc => simp only [Option.some.injEq, Prod.mk.injEq] at h; simp [← h.1, ← h.2, hc]
    · next hc =>
      obtain ⟨⟨x, y⟩, hx, he⟩ := Option.map_eq_some_iff.1 h
      simp only [Prod.mk.injEq] at he
      obtain ⟨h1, h2⟩ := ih hx
      subst h1
      simp [← he.1, ← he.2, h2, Ne.symm hc]

end DeviceHub.Text
