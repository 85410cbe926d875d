import DeviceHub.Proofs.Dicts
import DeviceHub.Proofs.Normalize.Channels

/-!
# Lists of fields

The fields of a schema know nothing of each other. What a payload comes to for one list of fields and
another after it is what it comes to for each, the second laid over the first; and it fails as the first
does, or as the second if that is the only one to fail. In which order the fields stand is of no
importance unless two of them share a channel, or fail.

* `collect_over`: what is collected for a list lies over what was there before.
* `exists_collect_iff`, `collect_of_values`: when all fields are found, and what is collected then.
* `byFields_normalize`: the three kinds of payload are collected from in one way.
* `fields_independent`: lists of fields, put together and permuted.
-/
namespace DeviceHub

namespace Normalize

variable {value : FieldSpec → Except NormalizeError FieldValue} {specs specs' : List FieldSpec}
  {fields fields' found : Dict FieldValue} {channel : String}

/-! ## Two lists, one after the other -/

/-- By induction on the fields: what lies over something still does with one more field in both. -/
theorem collect_over {before laid laid' : Dict FieldValue}
    (hlaid : ∀ c, fields.get? c = (laid.get? c).or (before.get? c))
    (hfound : collect value laid specs = .ok laid') (h : collect value fields specs = .ok fields') :
    ∀ c, fields'.get? c = (laid'.get? c).or (before.get? c) := by
  induction specs generalizing fields laid with
  | nil =>
    cases h
    cases hfound
    exact hlaid
  | cons spec rest ih =>
    obtain ⟨v, hv, h⟩ := collect_cons h
    obtain ⟨v', hv', hfound⟩ := collect_cons hfound
    rw [hv] at hv'
    cases hv'
    refine ih (fun c => ?_) hfound h
    rw [Dict.get?_insert, Dict.get?_insert]
    split
    · rfl
    · exact hlaid c

/-- A list is found after another when it is found alone, and with the same fault if it is not. -/
theorem collect_from (value : FieldSpec → Except NormalizeError FieldValue)
    (fields : Dict FieldValue) (specs : List FieldSpec) :
    (∃ e, collect value fields specs = .error e ∧ collect value [] specs = .error e) ∨
      ∃ fields' found, collect value fields specs = .ok fields' ∧ collect value [] specs = .ok found ∧
        ∀ c, fields'.get? c = (found.get? c).or (fields.get? c) := by
  cases h : collect value fields specs with
  | error e => exact .inl ⟨e, rfl, (collect_eq_error_iff fields []).1 h⟩
  | ok fields' =>
    cases hfound : collect value [] specs with
    | error e =>
      rw [(collect_eq_error_iff [] fields).1 hfound] at h
      cases h
    | ok found =>
      have hlaid : ∀ c, fields.get? c = (Dict.get? [] c).or (fields.get? c) := fun c => rfl
      exact .inr ⟨fields', found, rfl, rfl, collect_over hlaid hfound h⟩

/-! ## One list in another order -/

theorem exists_collect_iff (fields : Dict FieldValue) :
    (∃ fields', collect value fields specs = .ok fields') ↔
      ∀ spec ∈ specs, ∃ v, value spec = .ok v := by
  induction specs generalizing fields with
  | nil => simp [collect]
  | cons spec rest ih =>
    rw [List.forall_mem_cons]
    constructor
    · rintro ⟨fields', h⟩
      obtain ⟨v, hv, h⟩ := collect_cons h
      exact ⟨⟨v, hv⟩, (ih _).1 ⟨fields', h⟩⟩
    · rintro ⟨⟨v, hv⟩, hrest⟩
      obtain ⟨fields', h⟩ := (ih (fields.insert spec.channel v)).2 hrest
      refine ⟨fields', ?_⟩
      simp only [collect, hv]
      exact h

/-- When no two fields share a channel, each has its own value. -/
theorem collect_get?_of_nodup (hnodup : (specs.map (·.channel)).Nodup)
    (h : collect value fields specs = .ok fields') {spec : FieldSpec} (hspec : spec ∈ specs)
    {v : FieldValue} (hv : value spec = .ok v) : fields'.get? spec.channel = some v := by
  obtain ⟨before, after, rfl⟩ := List.append_of_mem hspec
  refine collect_found_get? hv h fun later hlater heq => ?_
  rw [List.map_append, List.map_cons, List.nodup_append] at hnodup
  exact (List.nodup_cons.1 hnodup.2.1).1 (List.mem_map.2 ⟨later, hlater, heq⟩)

/-- Fields that say what is found for each of a list, and nothing else, are what is collected. -/
theorem collect_of_values (hnodup : (specs.map (·.channel)).Nodup) (hd : fields.Ordered)
    (hvalues : ∀ spec ∈ specs, ∃ v, value spec = .ok v ∧ fields.get? spec.channel = some v)
    (hothers : ∀ c, c ∉ specs.map (·.channel) → fields.get? c = none) :
    collect value [] specs = .ok fields := by
  obtain ⟨fields', h⟩ := (exists_collect_iff []).2 fun spec hspec =>
    (hvalues spec hspec).imp fun v hv => hv.1
  have hsame : fields' = fields := by
    refine (collect_ordered h List.Pairwise.nil).ext hd fun c => ?_
    by_cases hc : c ∈ specs.map (·.channel)
    · obtain ⟨spec, hspec, rfl⟩ := List.mem_map.1 hc
      obtain ⟨v, hv, hfield⟩ := hvalues spec hspec
      rw [hfield, collect_get?_of_nodup hnodup h hspec hv]
    · rw [hothers c hc, collect_keeps h fun spec hspec heq => hc (List.mem_map.2 ⟨spec, hspec, heq⟩)]
      rfl
  rw [h, hsame]

theorem collect_perm (hnodup : (specs.map (·.channel)).Nodup) (hperm : specs.Perm specs')
    (h : collect value [] specs = .ok fields) : collect value [] specs' = .ok fields := by
  have hchannels := hperm.map (·.channel)
  refine collect_of_values (hchannels.nodup_iff.1 hnodup) (collect_ordered h List.Pairwise.nil)
    (fun spec hspec => ?_) fun c hc => ?_
  · have hspec := hperm.mem_iff.2 hspec
    obtain ⟨v, hv⟩ := (exists_collect_iff []).1 ⟨fields, h⟩ spec hspec
    exact ⟨v, hv, collect_get?_of_nodup hnodup h hspec hv⟩
  · refine collect_keeps h fun spec hspec heq => hc (hchannels.mem_iff.1 ?_)
    exact List.mem_map.2 ⟨spec, hspec, heq⟩

/-! ## Payloads -/

/-- How what comes of a payload depends on the list of fields: not at all, or by what is collected. -/
inductive ByFields (identity : Identity) (capturedAt : Instant)
    (result : List FieldSpec → Except NormalizeError Snapshot) : Prop where
  | refused (e : NormalizeError) (h : ∀ specs, result specs = .error e)
  | collected (value : FieldSpec → Except NormalizeError FieldValue) (online : Bool)
      (h : ∀ specs, result specs = (collect value [] specs).map fun fields =>
        ⟨identity.device, identity.deviceType, capturedAt, fields, online⟩)

theorem byFields_of_reads {payload : Payload} {root onlineField : Option String}
    (h : Reads ⟨root, onlineField, []⟩ payload value) (identity : Identity) (capturedAt : Instant) :
    ByFields identity capturedAt fun specs =>
      normalize payload ⟨root, onlineField, specs⟩ identity capturedAt := by
  obtain ⟨flag, hrun⟩ := normalize_of_reads h identity capturedAt
  cases flag with
  | error e => exact .refused e hrun
  | ok online => exact .collected value online hrun

/-- The root and the flag decide once for all lists whether there is anything to collect. -/
theorem byFields_normalize (payload : Payload) (root onlineField : Option String)
    (identity : Identity) (capturedAt : Instant) :
    ByFields identity capturedAt fun specs =>
      normalize payload ⟨root, onlineField, specs⟩ identity capturedAt := by
  cases payload with
  | json v =>
    cases hnode : node v root with
    | error e =>
      refine .refused e fun specs => ?_
      simp only [normalize, fieldsAndFlag, hnode, bind, Except.bind]
    | ok n => exact byFields_of_reads (.json hnode) identity capturedAt
  | keyValue entries => exact byFields_of_reads (.keyValue entries) identity capturedAt
  | binary mediaType data => exact byFields_of_reads (.binary mediaType data) identity capturedAt

end Normalize

/-! ## Independence -/

/-- How what comes of two lists of fields makes what comes of both together. -/
structure Normalize.Combine (first second both : Except NormalizeError Snapshot) : Prop where
  succeeds : (∃ s, both = .ok s) ↔ (∃ s₁, first = .ok s₁) ∧ ∃ s₂, second = .ok s₂
  fails : ∀ e, both = .error e ↔ first = .error e ∨ (∃ s₁, first = .ok s₁) ∧ second = .error e
  online : ∀ s s₁ s₂, both = .ok s → first = .ok s₁ → second = .ok s₂ →
    s₁.online = s.online ∧ s₂.online = s.online
  /-- The fields of the second lie over those of the first. -/
  fields : ∀ s s₁ s₂, both = .ok s → first = .ok s₁ → second = .ok s₂ →
    s.fields.Ordered ∧ ∀ c, s.fields.get? c = (s₂.fields.get? c).or (s₁.fields.get? c)

namespace Normalize

theorem combine_of_error (e : NormalizeError) : Combine (.error e) (.error e) (.error e) := by
  constructor <;> simp

theorem combine_collect (value : FieldSpec → Except NormalizeError FieldValue) (online : Bool)
    (identity : Identity) (capturedAt : Instant) (first second : List FieldSpec) :
    let snapshot := fun specs => (collect value [] specs).map fun fields =>
      (⟨identity.device, identity.deviceType, capturedAt, fields, online⟩ : Snapshot)
    Combine (snapshot first) (snapshot second) (snapshot (first ++ second)) := by
  intro snapshot
  simp only [snapshot, collect_append]
  cases hfirst : collect value [] first with
  | error e => constructor <;> simp [Except.map, Except.bind]
  | ok fields =>
    simp only [Except.bind]
    rcases collect_from value fields second with
      ⟨e, hboth, hsecond⟩ | ⟨fields', found, hboth, hsecond, hlaid⟩
    · rw [hboth, hsecond]
      constructor <;> simp [Except.map]
    · have hordered := collect_ordered hboth (collect_ordered hfirst List.Pairwise.nil)
      rw [hboth, hsecond]
      refine ⟨by simp [Except.map], by simp [Except.map], ?_, ?_⟩
      · rintro _ _ _ ⟨⟩ ⟨⟩ ⟨⟩
        exact ⟨rfl, rfl⟩
      · rintro _ _ _ ⟨⟩ ⟨⟩ ⟨⟩
        exact ⟨hordered, hlaid⟩

end Normalize

/-- Whatever the payload: what it comes to for a list of fields and another after it follows from what
it comes to for each. When no two fields share a channel, their order makes no difference. -/
theorem fields_independent (payload : Payload) (root onlineField : Option String)
    (identity : Identity) (capturedAt : Instant) :
    let result := fun specs => normalize payload ⟨root, onlineField, specs⟩ identity capturedAt
    (∀ first second, Normalize.Combine (result first) (result second) (result (first ++ second))) ∧
    ∀ specs specs', (specs.map (·.channel)).Nodup → specs.Perm specs' →
      ∀ s, result specs = .ok s ↔ result specs' = .ok s := by
  intro result
  cases Normalize.byFields_normalize payload root onlineField identity capturedAt with
  | refused e hresult =>
    have hresult : ∀ specs, result specs = .error e := hresult
    refine ⟨fun first second => ?_, fun specs specs' _ _ s => by rw [hresult, hresult]⟩
    rw [hresult, hresult, hresult]
    exact Normalize.combine_of_error e
  | collected value online hresult =>
    simp only [result, hresult, Normalize.map_eq_ok]
    refine ⟨Normalize.combine_collect value online identity capturedAt, ?_⟩
    intro specs specs' hnodup hperm s
    have hnodup' : (specs'.map (·.channel)).Nodup := (hperm.map _).nodup_iff.1 hnodup
    exact ⟨fun ⟨fields, h, hs⟩ => ⟨fields, Normalize.collect_perm hnodup hperm h, hs⟩,
      fun ⟨fields, h, hs⟩ => ⟨fields, Normalize.collect_perm hnodup' hperm.symm h, hs⟩⟩

/-- A boiler that reports its mode, but nothing at the place where a later field looks for it: the later
field has the channel. Without that field the other two may change places. -/
theorem fields_independent_boiler :
    let mode : FieldSpec := ⟨"mode", ["mode"], .text, false⟩
    let level : FieldSpec := ⟨"level", ["level"], .integer, true⟩
    let manual : FieldSpec := ⟨"mode", ["manual.mode"], .text, false⟩
    let result := fun specs => normalize
      (.json (.object [("level", .text "3"), ("mode", .text "eco")])) ⟨none, none, specs⟩
      ⟨"hub", "b1", "boiler"⟩ .epoch
    let s : Snapshot :=
      ⟨"b1", "boiler", .epoch, [("level", .integer 3), ("mode", .text "eco")], true⟩
    ([mode, level].map (·.channel)).Nodup ∧ [mode, level].Perm [level, mode] ∧
    result [level, mode] = .ok s ∧
    ∃ both, result ([mode, level] ++ [manual]) = .ok both ∧
      both.fields.get? "mode" = some .undefined ∧ both.fields.get? "level" = some (.integer 3) := by
  intro mode level manual result s
  obtain ⟨hcombine, hperm⟩ := fields_independent
    (.json (.object [("level", .text "3"), ("mode", .text "eco")])) none none
    ⟨"hub", "b1", "boiler"⟩ .epoch
  have hnodup : ([mode, level].map (·.channel)).Nodup := by decide
  have hswap : [mode, level].Perm [level, mode] := .swap level mode []
  have hfirst : result [mode, level] = .ok s := by decide +kernel
  have hsecond : result [manual] = .ok { s with fields := [("mode", .undefined)] } := by rfl
  obtain ⟨both, hboth⟩ := (hcombine _ _).succeeds.2 ⟨⟨s, hfirst⟩, ⟨_, hsecond⟩⟩
  have hfields := ((hcombine _ _).fields _ _ _ hboth hfirst hsecond).2
  exact ⟨hnodup, hswap, (hperm _ _ hnodup hswap s).1 hfirst, both, hboth,
    (hfields "mode").trans rfl, (hfields "level").trans rfl⟩

end DeviceHub
