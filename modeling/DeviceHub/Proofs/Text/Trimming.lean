import DeviceHub.Text.Blank
import DeviceHub.Text.Pieces
import Mathlib.Data.List.TakeWhile

/-!
# Trimming and cutting

Trimming takes away the blanks at both ends of a text, so that more blanks there make no difference, and
stops at a character that is none. Cutting finds the first separator.

* `trim_of_all_append`, `trim_append_of_all`: blanks before and behind a text.
* `trim_append_cons`: a character that is not blank parts the two ends of a text.
* `trim_trim`, `trim_of_forall`: when there is nothing to trim.
* `cut_append_cons`, `pieces_append_cons`: what is before the first separator.
* `not_mem_of_mem_pieces`, `pieces_join`: pieces without separators are those of the text that they
  make.
-/
namespace DeviceHub.Text

variable {a cs : List Char} {c sep : Char}

/-! ## Blanks -/

theorem trimStart_append_cons (hc : isBlank c = false) (a b : List Char) :
    trimStart (a ++ c :: b) = trimStart a ++ c :: b := by
  induction a with
  | nil => simp [trimStart, hc]
  | cons d a ih =>
    simp only [trimStart, List.cons_append, List.dropWhile_cons] at ih ⊢
    split
    · exact ih
    · rfl

theorem trimEnd_append_cons (hc : isBlank c = false) (a b : List Char) :
    trimEnd (a ++ c :: b) = a ++ c :: trimEnd b := by
  have hreverse := trimStart_append_cons hc b.reverse a.reverse
  simp only [trimStart] at hreverse
  simp [trimEnd, hreverse]

theorem trim_append_cons (hc : isBlank c = false) (a b : List Char) :
    trim (a ++ c :: b) = trimStart a ++ c :: trimEnd b := by
  rw [trim, trimStart_append_cons hc, trimEnd_append_cons hc]

theorem trimStart_of_all_append {pad : List Char} (hpad : pad.all isBlank = true) (cs : List Char) :
    trimStart (pad ++ cs) = trimStart cs :=
  List.dropWhile_append_of_pos (List.all_eq_true.1 hpad)

theorem trimEnd_append_of_all {pad : List Char} (hpad : pad.all isBlank = true) (cs : List Char) :
    trimEnd (cs ++ pad) = trimEnd cs := by
  rw [← List.all_reverse] at hpad
  have hreverse := trimStart_of_all_append hpad cs.reverse
  simp only [trimStart] at hreverse
  simp [trimEnd, hreverse]

theorem exists_trimStart (cs : List Char) : ∃ pad, pad.all isBlank = true ∧ cs = pad ++ trimStart cs :=
  ⟨cs.takeWhile isBlank, List.all_takeWhile, List.takeWhile_append_dropWhile.symm⟩

theorem exists_trimEnd (cs : List Char) : ∃ pad, pad.all isBlank = true ∧ cs = trimEnd cs ++ pad := by
  obtain ⟨pad, hpad, hcs⟩ := exists_trimStart cs.reverse
  refine ⟨pad.reverse, by rwa [List.all_reverse], ?_⟩
  rw [trimEnd, ← List.reverse_append]
  exact List.reverse_eq_iff.1 hcs

/-- Blanks before a text make no difference to what is left of it, nor do blanks behind it. -/
theorem trim_of_all_append {pad : List Char} (hpad : pad.all isBlank = true) (cs : List Char) :
    trim (pad ++ cs) = trim cs := by
  rw [trim, trimStart_of_all_append hpad, trim]

theorem trim_append_of_all {pad : List Char} (hpad : pad.all isBlank = true) (cs : List Char) :
    trim (cs ++ pad) = trim cs := by
  rw [trim, trim, trimStart, trimStart, List.dropWhile_append]
  split
  · next hnil =>
    rw [List.isEmpty_iff.1 hnil, List.dropWhile_eq_nil_iff.2 (List.all_eq_true.1 hpad)]
  · exact trimEnd_append_of_all hpad _

theorem trim_trimStart (cs : List Char) : trim (trimStart cs) = trim cs := by
  obtain ⟨pad, hpad, hcs⟩ := exists_trimStart cs
  calc trim (trimStart cs) = trim (pad ++ trimStart cs) := (trim_of_all_append hpad _).symm
    _ = trim cs := by rw [← hcs]

theorem trim_trimEnd (cs : List Char) : trim (trimEnd cs) = trim cs := by
  obtain ⟨pad, hpad, hcs⟩ := exists_trimEnd cs
  calc trim (trimEnd cs) = trim (trimEnd cs ++ pad) := (trim_append_of_all hpad _).symm
    _ = trim cs := by rw [← hcs]

theorem trim_trim (cs : List Char) : trim (trim cs) = trim cs :=
  (trim_trimEnd (trimStart cs)).trans (trim_trimStart cs)

theorem trimStart_of_forall (h : ∀ c ∈ cs, isBlank c = false) : trimStart cs = cs := by
  cases cs with
  | nil => rfl
  | cons c rest =>
    rw [trimStart, List.dropWhile_cons, h c List.mem_cons_self, if_neg Bool.false_ne_true]

theorem trim_of_forall (h : ∀ c ∈ cs, isBlank c = false) : trim cs = cs := by
  have hreverse : cs.reverse.dropWhile isBlank = cs.reverse :=
    trimStart_of_forall fun c hc => h c (List.mem_reverse.1 hc)
  rw [trim, trimStart_of_forall h, trimEnd, hreverse, List.reverse_reverse]

theorem trim_subset (cs : List Char) : trim cs ⊆ cs := by
  intro c hc
  have hstart : c ∈ trimStart cs :=
    List.mem_reverse.1 ((List.dropWhile_sublist isBlank).subset (List.mem_reverse.1 hc))
  exact (List.dropWhile_sublist isBlank).subset hstart

/-! ## Separators -/

theorem cut_append_cons (h : sep ∉ a) (b : List Char) : cut sep (a ++ sep :: b) = some (a, b) := by
  induction a with
  | nil => simp [cut]
  | cons c a ih =>
    obtain ⟨hc, ha⟩ := List.ne_and_not_mem_of_not_mem_cons h
    simp only [List.cons_append, cut, if_neg (Ne.symm hc), ih ha, Option.map_some]

theorem cut_eq_none (h : sep ∉ cs) : cut sep cs = none := by
  cases hcut : cut sep cs with
  | none => rfl
  | some sides =>
    rw [(cut_eq_some hcut).1] at h
    exact absurd (List.mem_append_right _ List.mem_cons_self) h

theorem pieces_append_cons (h : sep ∉ a) (b : List Char) :
    pieces sep (a ++ sep :: b) = a :: pieces sep b := by
  induction a with
  | nil => simp [pieces]
  | cons c a ih =>
    obtain ⟨hc, ha⟩ := List.ne_and_not_mem_of_not_mem_cons h
    simp only [List.cons_append, pieces, if_neg (Ne.symm hc), ih ha]

theorem pieces_of_not_mem (h : sep ∉ cs) : pieces sep cs = [cs] := by
  induction cs with
  | nil => rfl
  | cons c cs ih =>
    obtain ⟨hc, hcs⟩ := List.ne_and_not_mem_of_not_mem_cons h
    simp only [pieces, if_neg (Ne.symm hc), ih hcs]

theorem not_mem_of_mem_pieces {p : List Char} (h : p ∈ pieces sep cs) : sep ∉ p := by
  induction cs generalizing p with
  | nil =>
    rw [pieces, List.mem_singleton] at h
    exact h ▸ List.not_mem_nil
  | cons c cs ih =>
    by_cases hc : c = sep
    · rw [pieces, if_pos hc] at h
      rcases List.mem_cons.1 h with rfl | h
      · exact List.not_mem_nil
      · exact ih h
    · obtain ⟨q, qs, hqs⟩ := List.exists_cons_of_ne_nil (pieces_ne_nil sep cs)
      simp only [pieces, if_neg hc, hqs] at h ih
      rcases List.mem_cons.1 h with rfl | h
      · exact List.not_mem_cons_of_ne_of_not_mem (Ne.symm hc) (ih List.mem_cons_self)
      · exact ih (List.mem_cons_of_mem q h)

theorem pieces_join {ps : List (List Char)} (hne : ps ≠ []) (hps : ∀ p ∈ ps, sep ∉ p) :
    pieces sep (join [sep] ps) = ps := by
  induction ps with
  | nil => exact absurd rfl hne
  | cons p rest ih =>
    obtain ⟨hp, hrest⟩ := List.forall_mem_cons.1 hps
    cases rest with
    | nil => exact pieces_of_not_mem hp
    | cons q qs =>
      rw [join, List.append_assoc, List.singleton_append, pieces_append_cons hp,
        ih (List.cons_ne_nil q qs) hrest]

theorem join_eq_intercalate (glue : List Char) (ps : List (List Char)) :
    join glue ps = glue.intercalate ps := by
  induction ps with
  | nil => rfl
  | cons p rest ih =>
    cases rest with
    | nil => simp [join]
    | cons q qs => rw [join, ih, List.intercalate_cons_cons]

end DeviceHub.Text
