import DeviceHub.Proofs.Normalize.Channels

/-!
# Updates that give a snapshot

A snapshot is told by what is new in it. Whoever has put together the updates so far, the last value
of every channel counting, and adds what is new in the next snapshot, has the next snapshot, if the two
have the same channels. A value that counts as the same as the one before is not told, so what is put
together agrees with the snapshot up to that.

* `agree_append`: what is new in a snapshot is all that there is to tell.
* `noneRepeated_append`: nothing is told that was told last.
-/
namespace DeviceHub

theorem Snapshot.changes_ordered {s : Snapshot} (hs : s.fields.Ordered)
    (previous : Option Snapshot) : Dict.Ordered (s.changes previous) := hs.filter _

/-- What a snapshot reports anew about a channel. -/
theorem Snapshot.get?_changes {s : Snapshot} (hs : s.fields.Ordered) (previous : Option Snapshot)
    (c : String) : Dict.get? (s.changes previous) c =
      (s.fields.get? c).filter (Snapshot.isNews previous c) :=
  hs.get?_filter _ c

/-- The channels of a snapshot; none without one. -/
def Snapshot.fieldsOf (s : Option Snapshot) : Dict FieldValue := s.elim [] (·.fields)

theorem Snapshot.isNews_of_get? {previous : Option Snapshot} {c : String} {old : FieldValue}
    (h : (Snapshot.fieldsOf previous).get? c = some old) (v : FieldValue) :
    Snapshot.isNews previous c v = !old.same v := by
  cases previous with
  | none => cases h
  | some p =>
    have h : p.fields.get? c = some old := h
    simp [Snapshot.isNews, h]

/-- Updates give the channels that are kept, the last value of every channel counting. -/
def Agree (updates : List (String × FieldValue)) (kept : Dict FieldValue) : Prop :=
  ∀ c, Option.Rel (fun told v => told.same v = true) ((Dict.ofList updates).get? c) (kept.get? c)

/-- Every update is the first of its channel or has another value than the last. -/
def NoneRepeated (updates : List (String × FieldValue)) : Prop :=
  ∀ before c v after, updates = before ++ (c, v) :: after →
    (Dict.ofList before).get? c = none ∨
      ∃ last, (Dict.ofList before).get? c = some last ∧ last.same v = false

section

variable {updates : List (String × FieldValue)} {previous : Option Snapshot} {s : Snapshot}
  {schema : Schema}

theorem agree_append (ha : Agree updates (Snapshot.fieldsOf previous))
    (hp : ∀ p, previous = some p → p.Fits schema) (hs : s.Fits schema) :
    Agree (updates ++ s.changes previous) s.fields := by
  intro c
  have hchanges := Snapshot.changes_ordered hs.ordered previous
  rw [hchanges.get?_ofList_append, Snapshot.get?_changes hs.ordered]
  have hc := ha c
  cases hv : s.fields.get? c with
  | none =>
    -- the channel is none of the schema's, so the snapshot before did not have it either
    have hkept : (Snapshot.fieldsOf previous).get? c = none := by
      cases previous with
      | none => rfl
      | some p =>
        have hnot : c ∉ schema.channels := by rw [← hs.channels, hv]; simp
        rw [← (hp p rfl).channels] at hnot
        exact Option.not_isSome_iff_eq_none.1 hnot
    rw [hkept] at hc
    generalize (Dict.ofList updates).get? c = told at hc
    cases hc
    exact .none
  | some v =>
    cases hnews : Snapshot.isNews previous c v with
    | true =>
      simp only [Option.filter_some, hnews, if_true, Option.some_or]
      exact .some (hs.same c v hv)
    | false =>
      simp only [Option.filter_some, hnews, Bool.false_eq_true, if_false, Option.none_or]
      cases hold : (Snapshot.fieldsOf previous).get? c with
      | none =>
        cases previous with
        | none => cases hnews
        | some p =>
          have hold : p.fields.get? c = none := hold
          simp [Snapshot.isNews, hold] at hnews
      | some old =>
        rw [Snapshot.isNews_of_get? hold, Bool.not_eq_false'] at hnews
        rw [hold] at hc
        generalize (Dict.ofList updates).get? c = told at hc
        cases hc with
        | some hsame => exact .some (FieldValue.same_trans hsame hnews)

/-- What a new snapshot tells of a channel is not what was told of it last. -/
theorem news_ne_last (ha : Agree updates (Snapshot.fieldsOf previous)) (hs : s.fields.Ordered)
    (first : List (String × FieldValue)) {c : String} {v : FieldValue}
    {after : List (String × FieldValue)} (hchanges : s.changes previous = first ++ (c, v) :: after) :
    (Dict.ofList (updates ++ first)).get? c = none ∨
      ∃ last, (Dict.ofList (updates ++ first)).get? c = some last ∧ last.same v = false := by
  have hordered : Dict.Ordered (first ++ (c, v) :: after) :=
    hchanges ▸ Snapshot.changes_ordered hs previous
  have hpair := List.pairwise_append.1 hordered
  -- what the snapshot has told already is about other channels
  have hfirst : Dict.get? first c = none := Dict.get?_eq_none fun e he heq =>
    absurd (hpair.2.2 e he _ List.mem_cons_self) (by rw [heq]; exact String.lt_irrefl c)
  rw [Dict.Ordered.get?_ofList_append hpair.1, hfirst, Option.none_or]
  have hmem : (c, v) ∈ s.changes previous := by rw [hchanges]; simp
  have hnews : Snapshot.isNews previous c v = true := (Snapshot.mem_changes.1 hmem).2
  have hc := ha c
  cases hold : (Snapshot.fieldsOf previous).get? c with
  | none =>
    rw [hold] at hc
    generalize (Dict.ofList updates).get? c = told at hc
    cases hc
    exact .inl rfl
  | some old =>
    rw [hold] at hc
    generalize (Dict.ofList updates).get? c = told at hc
    cases hc with
    | @some last _ hsame =>
      refine .inr ⟨last, rfl, ?_⟩
      rw [Snapshot.isNews_of_get? hold, Bool.not_eq_true'] at hnews
      -- the last value told was that of the snapshot before, from which this one differs
      cases hlast : last.same v with
      | false => rfl
      | true =>
        rw [FieldValue.same_comm] at hsame
        rw [FieldValue.same_trans hsame hlast] at hnews
        cases hnews

theorem noneRepeated_append (ha : Agree updates (Snapshot.fieldsOf previous))
    (hn : NoneRepeated updates) (hs : s.fields.Ordered) :
    NoneRepeated (updates ++ s.changes previous) := by
  intro before c v after heq
  rcases List.append_eq_append_iff.1 heq with ⟨first, rfl, hchanges⟩ | ⟨rest, rfl, hrest⟩
  · exact news_ne_last ha hs first hchanges
  · cases rest with
    | nil =>
      rw [List.append_nil] at ha
      have := news_ne_last ha hs [] hrest.symm
      rwa [List.append_nil] at this
    | cons e rest =>
      cases hrest
      exact hn before c v rest rfl

end

end DeviceHub
