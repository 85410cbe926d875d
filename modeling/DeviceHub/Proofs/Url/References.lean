import DeviceHub.Url.Parse

/-!
# Where references lead

A reference that is read against a base either says only where on the base's server something is, or
it names a server itself: by a scheme of its own, or by two slashes in front. In the first case scheme,
host and port are those of the base. In the second the base lends its scheme at most, and its host and
port have no say.

Files are left out. They have no server, and no request is sent to them.

* `namesServer`: whether a reference names a server.
* `origin_join`: a reference that names no server stays on the server of its base.
* `join_of_namesServer`: one that does leads from every base of the same scheme to the same place.
* `namesServer_of_segment`: a text that begins with a plain segment names no server, whatever follows.
-/
namespace DeviceHub.Url

/-- How many slashes of either kind stand in front. -/
def slashes (cs : List Char) : Nat := (cs.takeWhile fun c => c = '/' || c = '\\').length

/-- Whether a reference says itself which server it means. With the scheme of its base and at most one
slash behind it, it does not. -/
def namesServer (base : Url) (reference : String) : Bool :=
  let cs := stripped reference
  match scheme? cs with
  | some (scheme, rest) =>
    !(schemeKind scheme = .network && base.scheme = scheme && slashes rest < 2)
  | none => 2 ≤ slashes cs

/-! ## Slashes -/

theorem slashes_cons (c : Char) (cs : List Char) :
    slashes (c :: cs) = if (c = '/' || c = '\\') = true then slashes cs + 1 else 0 := by
  unfold slashes
  rw [List.takeWhile_cons]
  split
  · rfl
  · rfl

theorem slashes_append_cons {c : Char} (hc : ¬(c = '/' || c = '\\') = true) (a b : List Char) :
    slashes (a ++ c :: b) = slashes a := by
  induction a with
  | nil =>
    rw [List.nil_append, slashes_cons, if_neg hc]
    rfl
  | cons d a ih => rw [List.cons_append, slashes_cons, slashes_cons, ih]

/-- A text up to the first separator. -/
def before (sep : Char) (cs : List Char) : List Char := ((Text.cut sep cs).map Prod.fst).getD cs

theorem slashes_before {sep : Char} (hsep : ¬(sep = '/' || sep = '\\') = true) (cs : List Char) :
    slashes (before sep cs) = slashes cs := by
  unfold before
  cases h : Text.cut sep cs with
  | none => rfl
  | some p =>
    obtain ⟨hcs, -⟩ := Text.cut_eq_some h
    have hslashes := slashes_append_cons hsep p.1 p.2
    rw [← hcs] at hslashes
    exact hslashes.symm

theorem splitTail_fst (cs : List Char) : (splitTail cs).1 = before '?' (before '#' cs) := by
  unfold splitTail before
  cases Text.cut '#' cs with
  | none => cases h : Text.cut '?' cs <;> simp [h]
  | some p => cases h : Text.cut '?' p.1 <;> simp [h]

/-- Query and fragment take no slash from the front. -/
theorem slashes_splitTail (cs : List Char) : slashes (splitTail cs).1 = slashes cs := by
  rw [splitTail_fst, slashes_before (by decide), slashes_before (by decide)]

/-! ## Bases that are no files -/

variable {base other u : Url} {cs : List Char}

/-- With one slash in front or none, only path, query and fragment are replaced. -/
theorem origin_relativeTo (h : relativeTo base cs = .ok u) (hslashes : slashes cs < 2) :
    u.origin = base.origin := by
  rw [← slashes_splitTail] at hslashes
  unfold relativeTo at h
  generalize splitTail cs = tail at h hslashes
  obtain ⟨front, query, fragment⟩ := tail
  simp only at h hslashes
  split at h
  · cases h
    split <;> rfl
  · next c r =>
    split at h
    · next hc =>
      split at h
      · next d r' =>
        have hd : ¬(d = '/' || d = '\\') = true := by
          intro hd
          rw [slashes_cons, if_pos hc, slashes_cons, if_pos hd] at hslashes
          omega
        rw [if_neg hd] at h
        cases h
        rfl
      · cases h
        rfl
    · cases h
      rfl

/-- With two slashes in front, nothing of the base counts but its scheme. -/
theorem relativeTo_of_two_le (hslashes : 2 ≤ slashes cs) (hscheme : other.scheme = base.scheme) :
    relativeTo other cs = relativeTo base cs := by
  rw [← slashes_splitTail] at hslashes
  unfold relativeTo
  generalize splitTail cs = tail at hslashes ⊢
  obtain ⟨front, query, fragment⟩ := tail
  simp only [hscheme] at hslashes ⊢
  cases front with
  | nil => simp [slashes] at hslashes
  | cons c r =>
    cases r with
    | nil =>
      rw [slashes_cons] at hslashes
      split at hslashes <;> simp [slashes] at hslashes
    | cons d r =>
      rw [slashes_cons, slashes_cons] at hslashes
      split at hslashes
      · next hc =>
        split at hslashes
        · next hd => simp only [hc, hd, if_true]
        · omega
      · omega

/-! ## Files -/

theorem scheme_file_relative {front : List Char} {base : Option Url}
    {query fragment : Option (List Char)} (hbase : ∀ b, base = some b → b.scheme = "file")
    (h : file.relative base front query fragment = .ok u) : u.scheme = "file" := by
  unfold file.relative at h
  simp only at h
  split at h
  · split at h
    · cases h
      rfl
    · split at h
      · next b =>
        split at h <;> cases h
        · rfl
        · exact hbase b rfl
      · cases h
        rfl
  · next b =>
    cases h
    split <;> exact hbase b rfl
  · cases h
    rfl

/-- What is read as a file is one. -/
theorem scheme_file {base : Option Url} (hbase : ∀ b, base = some b → b.scheme = "file")
    (h : file base cs = .ok u) : u.scheme = "file" := by
  unfold file at h
  generalize splitTail cs = tail at h
  obtain ⟨front, query, fragment⟩ := tail
  simp only at h
  split at h
  · split at h
    · split at h
      · cases h
        rfl
      · cases hhost : fileHost _ with
        | error e =>
          rw [hhost] at h
          cases h
        | ok host =>
          rw [hhost] at h
          cases h
          rfl
    · exact scheme_file_relative hbase h
  · exact scheme_file_relative hbase h

/-! ## References -/

variable {reference : String}

/-- A reference that names no server is about the server of its base. -/
theorem origin_join (h : base.join reference = .ok u) (hfile : u.scheme ≠ "file")
    (hnames : base.namesServer reference = false) : u.origin = base.origin := by
  unfold join parseAgainst at h
  unfold namesServer at hnames
  simp only at h hnames
  cases hscheme : scheme? (stripped reference) with
  | some p =>
    obtain ⟨scheme, rest⟩ := p
    simp only [hscheme, Bool.not_eq_false', Bool.and_eq_true, decide_eq_true_eq] at h hnames
    obtain ⟨⟨hkind, hsame⟩, hslashes⟩ := hnames
    unfold behindScheme at h
    simp only [hkind] at h
    rw [if_pos ⟨hslashes, hsame⟩] at h
    exact origin_relativeTo h hslashes
  | none =>
    simp only [hscheme, decide_eq_false_iff_not, Nat.not_le] at h hnames
    split at h
    · cases h
      rfl
    · split at h
      · cases h
      · split at h
        · next hbase => exact absurd (scheme_file (fun b hb => by cases hb; exact hbase) h) hfile
        · exact origin_relativeTo h hnames

/-- A reference that names a server leads to the same place from every base of the scheme. -/
theorem join_of_namesServer (h : base.join reference = .ok u) (hfile : u.scheme ≠ "file")
    (hnames : base.namesServer reference = true) (hscheme : other.scheme = base.scheme)
    (hplain : other.isPlain = base.isPlain) : other.join reference = .ok u := by
  unfold join parseAgainst at h ⊢
  unfold namesServer at hnames
  simp only at h hnames ⊢
  cases hread : scheme? (stripped reference) with
  | some p =>
    obtain ⟨scheme, rest⟩ := p
    simp only [hread] at h hnames ⊢
    unfold behindScheme at h ⊢
    cases hkind : schemeKind scheme with
    | file =>
      simp only [hkind] at h
      refine absurd (scheme_file (fun b hb => ?_) h) hfile
      simpa using (Option.filter_eq_some_iff.1 hb).2
    | network =>
      simp only [hkind] at h hnames ⊢
      simp only [decide_true, Bool.true_and, Bool.not_eq_true', Bool.and_eq_false_iff,
        decide_eq_false_iff_not] at hnames
      have hown : ¬(slashes rest < 2 ∧ base.scheme = scheme) :=
        fun hboth => hnames.elim (fun hne => hne hboth.2) (fun hle => hle hboth.1)
      unfold slashes at hown
      rw [if_neg hown] at h
      rw [hscheme, if_neg hown]
      exact h
    | other =>
      simp only [hkind] at h ⊢
      exact h
  | none =>
    simp only [hread, decide_eq_true_eq] at h hnames ⊢
    have hhash : ¬(stripped reference).head? = some '#' := by
      intro hhash
      obtain ⟨r, hr⟩ := List.head?_eq_some_iff.1 hhash
      simp [hr, slashes] at hnames
    rw [if_neg hhash] at h ⊢
    rw [hplain, hscheme]
    split at h
    · cases h
    · next hopen =>
      rw [if_neg hopen]
      split at h
      · next hbase => exact absurd (scheme_file (fun b hb => by cases hb; exact hbase) h) hfile
      · next hbase =>
        rw [if_neg hbase, relativeTo_of_two_le hnames hscheme]
        exact h

/-! ## Plain segments -/

/-- Whether a character can stand in a segment without any meaning of its own. -/
def isSegmentChar (c : Char) : Bool :=
  isLetter c || Decimal.isDigit c || c = '-' || c = '_' || c = '.'

variable {segment rest : List Char}

theorem toNat_of_isSegmentChar {c : Char} (h : isSegmentChar c = true) : 32 < c.toNat := by
  simp only [isSegmentChar, isLetter, Decimal.isDigit, Bool.or_eq_true, Bool.and_eq_true,
    decide_eq_true_eq] at h
  rcases h with (((h | h) | h) | h) | h
  · rcases h with h | h
    · exact Nat.lt_of_lt_of_le (by decide) (show 'a'.toNat ≤ c.toNat from h.1)
    · exact Nat.lt_of_lt_of_le (by decide) (show 'A'.toNat ≤ c.toNat from h.1)
  · exact Nat.lt_of_lt_of_le (by decide) (show '0'.toNat ≤ c.toNat from h.1)
  all_goals
    subst h
    decide

theorem dropWhile_append_cons {p : Char → Bool} {c : Char} (hc : p c = false) (a b : List Char) :
    (a ++ c :: b).dropWhile p = a.dropWhile p ++ c :: b := by
  rw [List.dropWhile_append]
  split
  · next hempty => rw [List.isEmpty_iff.1 hempty, List.dropWhile_cons_of_neg (by simp [hc]),
      List.nil_append]
  · rfl

/-- A segment in front and the slash behind it are kept. -/
theorem stripped_of_segment {text : String} (htext : text.toList = segment ++ '/' :: rest)
    (hsegment : ∀ c ∈ segment, isSegmentChar c = true) :
    ∃ rest', stripped text = segment ++ '/' :: rest' := by
  let isEdge (c : Char) : Bool := c.toNat ≤ 32
  have hfront : (segment ++ '/' :: rest).dropWhile isEdge = segment ++ '/' :: rest := by
    cases segment with
    | nil => rfl
    | cons c s =>
      have hc := toNat_of_isSegmentChar (hsegment c List.mem_cons_self)
      exact List.dropWhile_cons_of_neg (by simp [isEdge, hc])
  have hback : ((segment ++ '/' :: rest).reverse.dropWhile isEdge).reverse =
      segment ++ '/' :: (rest.reverse.dropWhile isEdge).reverse := by
    rw [List.reverse_append, List.reverse_cons, List.append_assoc, List.singleton_append,
      dropWhile_append_cons rfl]
    simp
  have hkept : ∀ c ∈ segment, decide (c ≠ '\t' ∧ c ≠ '\n' ∧ c ≠ '\r') = true := by
    intro c hc
    have hlarge := toNat_of_isSegmentChar (hsegment c hc)
    refine decide_eq_true ⟨?_, ?_, ?_⟩ <;> rintro rfl <;> exact absurd hlarge (by decide)
  unfold stripped
  simp only [htext]
  rw [hfront, hback, List.filter_append, List.filter_eq_self.2 hkept, List.filter_cons_of_pos rfl]
  exact ⟨_, rfl⟩

theorem scheme?_of_segment (hsegment : ∀ c ∈ segment, isSegmentChar c = true) :
    scheme? (segment ++ '/' :: rest) = none := by
  have hhead : ∀ p : Char → Bool, p '/' = false →
      ∃ c r, (segment ++ '/' :: rest).dropWhile p = c :: r ∧ c ≠ ':' := by
    intro p hp
    rw [dropWhile_append_cons hp]
    cases hdrop : segment.dropWhile p with
    | nil => exact ⟨'/', rest, rfl, by decide⟩
    | cons c r =>
      refine ⟨c, _, rfl, ?_⟩
      rintro rfl
      have hmem : ':' ∈ segment := (List.dropWhile_suffix p).subset (hdrop ▸ List.mem_cons_self)
      exact absurd (hsegment ':' hmem) (by decide)
  unfold scheme?
  simp only
  split
  · split
    · obtain ⟨c, r, hdrop, hc⟩ := hhead
        (fun c => isLetter c || Decimal.isDigit c || c = '+' || c = '-' || c = '.') rfl
      split
      · next hcolon =>
        rw [hdrop] at hcolon
        cases hcolon
        exact absurd rfl hc
      · rfl
    · rfl
  · rfl

/-- What begins with a plain segment names no server. -/
theorem namesServer_of_segment {text : String} (base : Url)
    (htext : text.toList = segment ++ '/' :: rest)
    (hsegment : ∀ c ∈ segment, isSegmentChar c = true) (hne : segment ≠ []) :
    base.namesServer text = false := by
  obtain ⟨rest', hstripped⟩ := stripped_of_segment htext hsegment
  unfold namesServer
  simp only [hstripped, scheme?_of_segment hsegment, decide_eq_false_iff_not]
  cases segment with
  | nil => exact absurd rfl hne
  | cons c s =>
    have hc : ¬(c = '/' || c = '\\') = true := by
      intro hslash
      simp only [Bool.or_eq_true, decide_eq_true_eq] at hslash
      rcases hslash with rfl | rfl
      · exact absurd (hsegment '/' List.mem_cons_self) (by decide)
      · exact absurd (hsegment '\\' List.mem_cons_self) (by decide)
    rw [List.cons_append, slashes_cons, if_neg hc]
    omega

end DeviceHub.Url
