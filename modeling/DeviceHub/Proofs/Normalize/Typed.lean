import DeviceHub.Proofs.Normalize.Channels

/-!
# What normalization promises

Whatever a vendor sends, a snapshot has the types that its schema declares, and an error says what is
wrong with the payload at the place it names. Of several fields with one channel the last one counts.

* `FieldSpec.Admits`: what a channel may hold, by the field that declares it.
* `Snapshot.Typed`: a snapshot has the channels of its schema and on each what is declared there; a
  channel shows as `null` when it is undefined and only then.
* `NormalizeError.Explains`: what an error says about the payload.
* `normalize_sound`: every snapshot is typed, and every error explains itself.
-/
namespace DeviceHub

/-! ## Types of values -/

/-- Whether a number is one of its format: an integer of 64 bits with sign, a finite decimal. -/
def FieldValue.inRange : FieldValue → Bool
  | .integer n => Decimal.fitsInt64 n
  | .decimal x => x.isFinite
  | _ => true

/-- A value of a kind. -/
def FieldValue.IsOf (v : FieldValue) (kind : FieldKind) : Prop :=
  v.kind? = some kind ∧ v.inRange = true

/-- What a field may hold: a value of its kind, or nothing unless it is required. -/
def FieldSpec.Admits (spec : FieldSpec) (v : FieldValue) : Prop :=
  (v = .undefined ∧ spec.required = false) ∨ v.IsOf spec.kind

/-- The field that declares a channel: the last one of that name. -/
def Schema.declares? (schema : Schema) (channel : String) : Option FieldSpec :=
  schema.fields.reverse.find? fun spec => spec.channel = channel

theorem FieldValue.toJson_inRange {v : FieldValue} (h : v.inRange = true) :
    v.toJson.inRange = true := by
  cases v with
  | integer n =>
    simp only [inRange, Decimal.fitsInt64, Bool.and_eq_true, decide_eq_true_eq] at h
    simp [toJson, Json.integer, Json.inRange, Json.numbers, Json.Number.inRange]
    omega
  | decimal x => simpa [toJson, Json.inRange, Json.numbers, Json.Number.inRange, inRange] using h
  | undefined | text | boolean | binary => rfl

theorem FieldValue.toJson_eq_null {v : FieldValue} : v.toJson = .null ↔ v = .undefined := by
  cases v <;> simp [toJson, Json.integer]

theorem FieldSpec.Admits.inRange {spec : FieldSpec} {v : FieldValue} (h : spec.Admits v) :
    v.inRange = true := by
  rcases h with ⟨rfl, -⟩ | h
  · rfl
  · exact h.2

namespace Normalize

/-! ## Conversions give values of the kind -/

theorem integral?_fits {x : Binary64} {n : Int} (h : integral? x = some n) :
    Decimal.fitsInt64 n = true := by
  have hbound : -integralBound < n ∧ n < integralBound := by
    simpa using (Option.filter_eq_some_iff.1 h).2
  simp only [integralBound] at hbound
  simp only [Decimal.fitsInt64, Bool.and_eq_true, decide_eq_true_eq]
  omega

theorem integerOfText?_fits {cs : List Char} {n : Int} (h : integerOfText? cs = some n) :
    Decimal.fitsInt64 n = true := by
  unfold integerOfText? at h
  split at h
  · next m hm => cases h; exact (Option.filter_eq_some_iff.1 hm).2
  · obtain ⟨x, -, hx⟩ := Option.bind_eq_some_iff.1 h
    exact integral?_fits hx

theorem int64?_fits {m : Json.Number} {n : Int} (h : m.int64? = some n) :
    Decimal.fitsInt64 n = true := by
  cases m with
  | integer m =>
    simp only [Json.Number.int64?] at h
    split at h
    · next hm => cases h; simpa [Decimal.fitsInt64] using hm
    · cases h
  | decimal x => cases h

theorem integerOfNumber?_fits {m : Json.Number} {n : Int} (h : integerOfNumber? m = some n) :
    Decimal.fitsInt64 n = true := by
  unfold integerOfNumber? at h
  split at h
  · next k hk => cases h; exact int64?_fits hk
  · exact integral?_fits h

theorem bytesOfText?_isOf {cs : List Char} {v : FieldValue} (h : bytesOfText? cs = some v) :
    v.IsOf .binary := by
  obtain ⟨data, -, rfl⟩ := Option.map_eq_some_iff.1 h
  exact ⟨rfl, rfl⟩

theorem ofText?_isOf {kind : FieldKind} {s : String} {v : FieldValue}
    (h : ofText? kind s = some v) : v.IsOf kind := by
  cases kind with
  | integer =>
    obtain ⟨n, hn, rfl⟩ := Option.map_eq_some_iff.1 h
    exact ⟨rfl, integerOfText?_fits hn⟩
  | decimal =>
    obtain ⟨x, hx, rfl⟩ := Option.map_eq_some_iff.1 h
    exact ⟨rfl, (Option.filter_eq_some_iff.1 hx).2⟩
  | text => cases h; exact ⟨rfl, rfl⟩
  | boolean => obtain ⟨b, -, rfl⟩ := Option.map_eq_some_iff.1 h; exact ⟨rfl, rfl⟩
  | binary => exact bytesOfText?_isOf h

theorem ofJson?_isOf {kind : FieldKind} {j : Json} {v : FieldValue} (hj : j.inRange = true)
    (h : ofJson? kind j = some v) : v.IsOf kind := by
  unfold ofJson? at h
  split at h
  · obtain ⟨b, -, rfl⟩ := Option.map_eq_some_iff.1 h; exact ⟨rfl, rfl⟩
  · obtain ⟨n, hn, rfl⟩ := Option.map_eq_some_iff.1 h; exact ⟨rfl, integerOfNumber?_fits hn⟩
  · next m =>
    cases h
    exact ⟨rfl, Json.Number.binary64_isFinite (Json.inRange_iff.1 hj m List.mem_cons_self)⟩
  · cases h; exact ⟨rfl, rfl⟩
  · cases h; exact ⟨rfl, rfl⟩
  · exact bytesOfText?_isOf h
  · exact ofText?_isOf h
  · cases h

/-! ## Looking things up -/

theorem isNull_iff {v : Json} : v.isNull = true ↔ v = .null := by
  cases v <;> simp [Json.isNull]

theorem reported_eq_some {v w : Json} {path : String} :
    reported v path = some w ↔ lookup v path = some w ∧ w ≠ .null := by
  rw [reported, Option.filter_eq_some_iff, Bool.not_eq_true', ← Bool.not_eq_true, isNull_iff]

theorem reported_eq_none {v : Json} {path : String} :
    reported v path = none ↔ lookup v path = none ∨ lookup v path = some .null := by
  cases h : lookup v path with
  | none => simp [reported, h]
  | some w => simp [reported, h, isNull_iff]

theorem inRange_reported {v w : Json} {path : String} (hv : v.inRange = true)
    (h : reported v path = some w) : w.inRange = true :=
  Json.inRange_iff.2 fun n hn =>
    Json.inRange_iff.1 hv n (numbers_lookup (reported_eq_some.1 h).1 hn)

theorem firstFound_mem {α : Type} {find : String → Option α} {paths : List String}
    {path : String} {a : α} (h : firstFound find paths = some (path, a)) : path ∈ paths := by
  induction paths with
  | nil => cases h
  | cons p rest ih =>
    simp only [firstFound] at h
    split at h
    · cases h; exact List.mem_cons_self
    · exact List.mem_cons_of_mem _ (ih h)

theorem firstFound_eq_none {α : Type} {find : String → Option α} {paths : List String}
    (h : firstFound find paths = none) : ∀ path ∈ paths, find path = none := by
  induction paths with
  | nil => simp
  | cons p rest ih =>
    simp only [firstFound] at h
    split at h
    · cases h
    · next hp => simpa using ⟨hp, ih h⟩

/-! ## What a field gives -/

theorem absent_eq_ok {spec : FieldSpec} {v : FieldValue} (h : absent spec = .ok v) :
    spec.Admits v := by
  unfold absent at h
  split at h
  · cases h
  · next hrequired => cases h; exact .inl ⟨rfl, by simpa using hrequired⟩

theorem absent_eq_error {spec : FieldSpec} {e : NormalizeError} (h : absent spec = .error e) :
    spec.required = true ∧ e = .missingField spec.channel spec.paths := by
  unfold absent at h
  split at h
  · next hrequired => cases h; exact ⟨hrequired, rfl⟩
  · cases h

theorem converted_eq_error {spec : FieldSpec} {path found : String} {o : Option FieldValue}
    {e : NormalizeError} (h : converted spec path found o = .error e) :
    o = none ∧ e = .invalidValue spec.channel path spec.kind found := by
  cases o <;> cases h
  exact ⟨rfl, rfl⟩

theorem jsonField_admits {n : Json} (hn : n.inRange = true) {spec : FieldSpec} {v : FieldValue}
    (h : jsonField n spec = .ok v) : spec.Admits v := by
  unfold jsonField at h
  split at h
  · next path j hj =>
    have hreported := inRange_reported hn (firstFound_eq_some hj)
    exact .inr (ofJson?_isOf hreported (converted_eq_ok h))
  · exact absent_eq_ok h

theorem entryField_admits {root : Option String} {entries : Dict String} {spec : FieldSpec}
    {v : FieldValue} (h : entryField root entries spec = .ok v) : spec.Admits v := by
  unfold entryField at h
  split at h
  · exact .inr (ofText?_isOf (converted_eq_ok h))
  · exact absent_eq_ok h

theorem bytesField_admits {mediaType : String} {data : List UInt8} {spec : FieldSpec}
    {v : FieldValue} (h : bytesField mediaType data spec = .ok v) : spec.Admits v := by
  unfold bytesField at h
  split at h
  · next hclaims => cases h; exact .inr ⟨congrArg some hclaims.1.symm, rfl⟩
  · exact absent_eq_ok h

theorem reads_admits {payload : Payload} {schema : Schema}
    {value : FieldSpec → Except NormalizeError FieldValue} (hp : payload.inRange = true)
    (h : Reads schema payload value) {spec : FieldSpec} {v : FieldValue}
    (hv : value spec = .ok v) : spec.Admits v := by
  cases h with
  | json hn =>
    rcases node_cases hn with rfl | ⟨path, -, hfound⟩
    · exact jsonField_admits hp hv
    · exact jsonField_admits (inRange_reported hp hfound) hv
  | keyValue entries => exact entryField_admits hv
  | binary mediaType data => exact bytesField_admits hv

/-! ## Collecting -/

/-- What is collected on a channel comes from the last field of that channel, or was there before. -/
theorem collect_get? {value : FieldSpec → Except NormalizeError FieldValue}
    {specs : List FieldSpec} {fields fields' : Dict FieldValue}
    (h : collect value fields specs = .ok fields') {c : String} {v : FieldValue}
    (hv : fields'.get? c = some v) :
    (∃ spec, specs.reverse.find? (fun spec => spec.channel = c) = some spec ∧ value spec = .ok v) ∨
      (specs.reverse.find? (fun spec => spec.channel = c) = none ∧ fields.get? c = some v) := by
  induction specs generalizing fields with
  | nil => cases h; exact .inr ⟨rfl, hv⟩
  | cons spec rest ih =>
    obtain ⟨w, hw, h⟩ := collect_cons h
    rw [List.reverse_cons, List.find?_append]
    rcases ih h with ⟨later, hlater, hvalue⟩ | ⟨hnone, hbefore⟩
    · exact .inl ⟨later, by rw [hlater]; rfl, hvalue⟩
    · rw [Dict.get?_insert] at hbefore
      split at hbefore
      · next hc => cases hbefore; exact .inl ⟨spec, by simp [hnone, hc], hw⟩
      · next hc => exact .inr ⟨by simp [hnone, hc], hbefore⟩

theorem collect_eq_error {value : FieldSpec → Except NormalizeError FieldValue}
    {specs : List FieldSpec} {fields : Dict FieldValue} {e : NormalizeError}
    (h : collect value fields specs = .error e) : ∃ spec ∈ specs, value spec = .error e := by
  induction specs generalizing fields with
  | nil => cases h
  | cons spec rest ih =>
    simp only [collect] at h
    cases hv : value spec with
    | error e' => rw [hv] at h; cases h; exact ⟨spec, List.mem_cons_self, hv⟩
    | ok v =>
      rw [hv] at h
      obtain ⟨later, hlater, he⟩ := ih h
      exact ⟨later, List.mem_cons_of_mem _ hlater, he⟩

/-- Why a payload has no fields for a schema: its root is not there, its word on being reachable is
not understood, or one of the fields is not found. -/
inductive Fails (schema : Schema) : Payload → NormalizeError → Prop
  | root {v : Json} {root : String} (hroot : schema.root = some root)
    (h : reported v root = none) : Fails schema (.json v) (.missingRoot root)
  | flag {v n w : Json} {path : String} (hn : node v schema.root = .ok n)
    (hpath : schema.onlineField = some path) (hw : reported n path = some w)
    (h : boolOfJson? w = none) :
    Fails schema (.json v) (.invalidValue "online" path .boolean (describe w))
  | field {payload : Payload} {value : FieldSpec → Except NormalizeError FieldValue}
    {spec : FieldSpec} {e : NormalizeError} (hreads : Reads schema payload value)
    (hspec : spec ∈ schema.fields) (h : value spec = .error e) : Fails schema payload e

theorem node_eq_error {v : Json} {root : Option String} {e : NormalizeError}
    (h : node v root = .error e) :
    ∃ path, root = some path ∧ reported v path = none ∧ e = .missingRoot path := by
  cases root with
  | none => cases h
  | some path =>
    rw [node] at h
    split at h
    · cases h
    · next hnone => cases h; exact ⟨path, rfl, hnone, rfl⟩

theorem onlineFlag_eq_error {n : Json} {field : Option String} {e : NormalizeError}
    (h : onlineFlag n field = .error e) :
    ∃ path w, field = some path ∧ reported n path = some w ∧ boolOfJson? w = none ∧
      e = .invalidValue "online" path .boolean (describe w) := by
  cases field with
  | none => cases h
  | some path =>
    rw [onlineFlag] at h
    split at h
    · cases h
    · next w hw =>
      split at h
      · cases h
      · next hb => cases h; exact ⟨path, w, rfl, hw, hb, rfl⟩

theorem fieldsAndFlag_eq_error {payload : Payload} {schema : Schema} {e : NormalizeError}
    (h : fieldsAndFlag payload schema = .error e) : Fails schema payload e := by
  cases payload with
  | json v =>
    simp only [fieldsAndFlag, bind, Except.bind] at h
    split at h
    · next e' hnode =>
      cases h
      obtain ⟨path, hroot, hnone, rfl⟩ := node_eq_error hnode
      exact .root hroot hnone
    · next n hn =>
      split at h
      · next e' hflag =>
        cases h
        obtain ⟨path, w, hpath, hw, hb, rfl⟩ := onlineFlag_eq_error hflag
        exact .flag hn hpath hw hb
      · split at h
        · next e' hcollect =>
          cases h
          obtain ⟨spec, hspec, he⟩ := collect_eq_error hcollect
          exact .field (.json hn) hspec he
        · cases h
  | keyValue entries =>
    simp only [fieldsAndFlag, bind, Except.bind] at h
    split at h
    · next e' hcollect =>
      cases h
      obtain ⟨spec, hspec, he⟩ := collect_eq_error hcollect
      exact .field (.keyValue entries) hspec he
    · cases h
  | binary mediaType data =>
    simp only [fieldsAndFlag, bind, Except.bind] at h
    split at h
    · next e' hcollect =>
      cases h
      obtain ⟨spec, hspec, he⟩ := collect_eq_error hcollect
      exact .field (.binary mediaType data) hspec he
    · cases h

/-! ## What an error says -/

/-- A payload does not report a field: none of its paths leads to a value that is not null, or, when the
payload is bytes, the field does not claim all of them. -/
def Silent (schema : Schema) (spec : FieldSpec) : Payload → Prop
  | .json v => ∃ n, node v schema.root = .ok n ∧
      ∀ path ∈ spec.paths, lookup n path = none ∨ lookup n path = some .null
  | .keyValue entries => ∀ path ∈ spec.paths, entries.get? (keyOf schema.root path) = none
  | .binary .. => ¬(spec.kind = .binary ∧ wholePayload ∈ spec.paths)

/-- A payload holds a value at a path that is not null and is none of a kind. -/
def Misfit (schema : Schema) (path : String) (kind : FieldKind) (found : String) : Payload → Prop
  | .json v => ∃ n w, node v schema.root = .ok n ∧ lookup n path = some w ∧ w ≠ .null ∧
      ofJson? kind w = none ∧ found = describe w
  | .keyValue entries =>
    ∃ s, entries.get? path = some s ∧ ofText? kind s = none ∧ found = "'" ++ s ++ "'"
  | .binary .. => False

/-- The path at which a payload has the value of a path of a schema. -/
def placeOf (schema : Schema) (path : String) : Payload → String
  | .keyValue _ => keyOf schema.root path
  | .json _ | .binary .. => path

end Normalize

/-- What an error says about a payload and the schema that it does not fit. -/
def NormalizeError.Explains (payload : Payload) (schema : Schema) : NormalizeError → Prop
  | .missingRoot root => schema.root = some root ∧
      ∃ v, payload = .json v ∧
        (Normalize.lookup v root = none ∨ Normalize.lookup v root = some .null)
  | .missingField channel paths => ∃ spec ∈ schema.fields,
      spec.channel = channel ∧ spec.paths = paths ∧ spec.required = true ∧
        Normalize.Silent schema spec payload
  | .invalidValue channel path expected found =>
      Normalize.Misfit schema path expected found payload ∧
        ((channel = "online" ∧ expected = .boolean ∧ schema.onlineField = some path) ∨
          ∃ spec ∈ schema.fields, spec.channel = channel ∧ spec.kind = expected ∧
            ∃ p ∈ spec.paths, path = Normalize.placeOf schema p payload)

namespace Normalize

theorem explains_of_absent {payload : Payload} {schema : Schema} {spec : FieldSpec}
    {e : NormalizeError} (hspec : spec ∈ schema.fields) (hsilent : Silent schema spec payload)
    (h : absent spec = .error e) : e.Explains payload schema := by
  obtain ⟨hrequired, rfl⟩ := absent_eq_error h
  exact ⟨spec, hspec, rfl, rfl, hrequired, hsilent⟩

theorem jsonField_explains {v n : Json} {schema : Schema} {spec : FieldSpec} {e : NormalizeError}
    (hn : node v schema.root = .ok n) (hspec : spec ∈ schema.fields)
    (h : jsonField n spec = .error e) : e.Explains (.json v) schema := by
  unfold jsonField at h
  split at h
  · next path w hw =>
    obtain ⟨hmisfit, rfl⟩ := converted_eq_error h
    obtain ⟨hlookup, hnull⟩ := reported_eq_some.1 (firstFound_eq_some hw)
    exact ⟨⟨n, w, hn, hlookup, hnull, hmisfit, rfl⟩,
      .inr ⟨spec, hspec, rfl, rfl, path, firstFound_mem hw, rfl⟩⟩
  · next hnone =>
    refine explains_of_absent hspec ⟨n, hn, fun path hpath => ?_⟩ h
    exact reported_eq_none.1 (firstFound_eq_none hnone path hpath)

theorem entryField_explains {entries : Dict String} {schema : Schema} {spec : FieldSpec}
    {e : NormalizeError} (hspec : spec ∈ schema.fields)
    (h : entryField schema.root entries spec = .error e) :
    e.Explains (.keyValue entries) schema := by
  unfold entryField at h
  split at h
  · next key s hs =>
    obtain ⟨hmisfit, rfl⟩ := converted_eq_error h
    obtain ⟨path, hpath, rfl⟩ := List.mem_map.1 (firstFound_mem hs)
    exact ⟨⟨s, firstFound_eq_some hs, hmisfit, rfl⟩,
      .inr ⟨spec, hspec, rfl, rfl, path, hpath, rfl⟩⟩
  · next hnone =>
    refine explains_of_absent hspec (fun path hpath => ?_) h
    exact firstFound_eq_none hnone _ (List.mem_map_of_mem hpath)

theorem bytesField_explains {mediaType : String} {data : List UInt8} {schema : Schema}
    {spec : FieldSpec} {e : NormalizeError} (hspec : spec ∈ schema.fields)
    (h : bytesField mediaType data spec = .error e) :
    e.Explains (.binary mediaType data) schema := by
  unfold bytesField at h
  split at h
  · cases h
  · next hclaims => exact explains_of_absent hspec hclaims h

theorem Fails.explains {payload : Payload} {schema : Schema} {e : NormalizeError}
    (h : Fails schema payload e) : e.Explains payload schema := by
  cases h with
  | root hroot h => exact ⟨hroot, _, rfl, reported_eq_none.1 h⟩
  | flag hn hpath hw h =>
    obtain ⟨hlookup, hnull⟩ := reported_eq_some.1 hw
    exact ⟨⟨_, _, hn, hlookup, hnull, by simp [ofJson?, h], rfl⟩, .inl ⟨rfl, rfl, hpath⟩⟩
  | field hreads hspec h =>
    cases hreads with
    | json hn => exact jsonField_explains hn hspec h
    | keyValue entries => exact entryField_explains hspec h
    | binary mediaType data => exact bytesField_explains hspec h

end Normalize

/-! ## The snapshot -/

/-- The JSON form of a channel, as the JSON form of the snapshot has it. -/
def Snapshot.channelJson? (s : Snapshot) (channel : String) : Option Json :=
  (s.toJson.member? "fields").bind fun fields => fields.member? channel

theorem Snapshot.channelJson?_eq (s : Snapshot) (channel : String) :
    s.channelJson? channel = (s.fields.get? channel).map (·.toJson) := by
  rw [← Dict.get?_mapValues]
  simp [channelJson?, toJson, Json.member?, Dict.get?]

/-- A snapshot of a device at a time, with the types that a schema declares. -/
structure Snapshot.Typed (s : Snapshot) (schema : Schema) (identity : Identity)
    (capturedAt : Instant) : Prop where
  device : s.device = identity.device
  deviceType : s.deviceType = identity.deviceType
  capturedAt : s.capturedAt = capturedAt
  ordered : s.fields.Ordered
  channels : ∀ c, c ∈ s.fields.keys ↔ c ∈ schema.channels
  declared : ∀ c v, s.fields.get? c = some v →
    ∃ spec, schema.declares? c = some spec ∧ spec.Admits v
  compact : ∀ c j, s.channelJson? c = some j →
    (j.compact = "null" ↔ s.fields.get? c = some .undefined)
  indented : ∀ c j level, s.channelJson? c = some j →
    (j.indented level = "null" ↔ s.fields.get? c = some .undefined)

variable {payload : Payload} {schema : Schema} {identity : Identity} {capturedAt : Instant}
  {s : Snapshot} {e : NormalizeError}

theorem normalize_capturedAt (h : normalize payload schema identity capturedAt = .ok s) :
    s.capturedAt = capturedAt := by
  simp only [normalize, bind, Except.bind] at h
  split at h
  · cases h
  · cases h; rfl

theorem normalize_declared (hp : payload.inRange = true)
    (h : normalize payload schema identity capturedAt = .ok s) {c : String} {v : FieldValue}
    (hv : s.fields.get? c = some v) : ∃ spec, schema.declares? c = some spec ∧ spec.Admits v := by
  simp only [normalize, bind, Except.bind] at h
  split at h
  · cases h
  · next found hfound =>
    cases h
    obtain ⟨value, hreads, hcollect⟩ := Normalize.fieldsAndFlag_eq_ok hfound
    rcases Normalize.collect_get? hcollect hv with ⟨spec, hspec, hvalue⟩ | ⟨-, hbefore⟩
    · exact ⟨spec, hspec, Normalize.reads_admits hp hreads hvalue⟩
    · simp [Dict.get?] at hbefore

theorem normalize_explains (h : normalize payload schema identity capturedAt = .error e) :
    e.Explains payload schema := by
  simp only [normalize, bind, Except.bind] at h
  split at h
  · next e' he => cases h; exact (Normalize.fieldsAndFlag_eq_error he).explains
  · cases h

theorem normalize_typed (hp : payload.inRange = true)
    (h : normalize payload schema identity capturedAt = .ok s) :
    s.Typed schema identity capturedAt := by
  have hfits := normalize_fits (Payload.isFinite_of_inRange hp) h
  have hshown : ∀ {c j}, s.channelJson? c = some j →
      j.inRange = true ∧ (j = .null ↔ s.fields.get? c = some .undefined) := by
    intro c j hj
    obtain ⟨v, hv, rfl⟩ := Option.map_eq_some_iff.1 (s.channelJson?_eq c ▸ hj)
    obtain ⟨spec, -, hadmits⟩ := normalize_declared hp h hv
    exact ⟨FieldValue.toJson_inRange hadmits.inRange, by rw [FieldValue.toJson_eq_null, hv]; simp⟩
  exact {
    device := normalize_device h
    deviceType := normalize_deviceType h
    capturedAt := normalize_capturedAt h
    ordered := hfits.ordered
    channels := fun c => Dict.contains_iff_mem_keys.symm.trans (hfits.channels c)
    declared := fun c v hv => normalize_declared hp h hv
    compact := fun c j hj => (Json.compact_eq_null (hshown hj).1).trans (hshown hj).2
    indented := fun c j level hj => (Json.indented_eq_null level (hshown hj).1).trans (hshown hj).2 }

/-- Normalization is sound: a snapshot has the types of its schema, an error names what is wrong. -/
theorem normalize_sound (payload : Payload) (schema : Schema) (identity : Identity)
    (capturedAt : Instant) :
    (∀ s, payload.inRange = true → normalize payload schema identity capturedAt = .ok s →
      s.Typed schema identity capturedAt) ∧
    ∀ e, normalize payload schema identity capturedAt = .error e → e.Explains payload schema :=
  ⟨fun _ hp h => normalize_typed hp h, fun _ h => normalize_explains h⟩

/-- A meter whose switch is declared twice. -/
def meterSchema : Schema := ⟨none, none, [⟨"power", ["on"], .text, false⟩,
  ⟨"power", ["on"], .boolean, true⟩, ⟨"serial", ["serial"], .text, false⟩,
  ⟨"mode", ["mode"], .integer, false⟩]⟩

/-- The later declaration counts, the largest number of 64 bits stays as written, and a null leaves its
channel undefined. -/
theorem normalize_sound_meter :
    let payload := Payload.json (.object [("mode", .null), ("on", .integer 1),
      ("serial", .integer 0xffffffffffffffff)])
    let s : Snapshot := ⟨"m1", "meter", .epoch, [("mode", .undefined), ("power", .boolean true),
      ("serial", .text "18446744073709551615")], true⟩
    payload.inRange = true ∧
      normalize payload meterSchema ⟨"hub", "m1", "meter"⟩ .epoch = .ok s ∧
      s.Typed meterSchema ⟨"hub", "m1", "meter"⟩ .epoch := by
  intro payload s
  have hp : payload.inRange = true := by decide
  have hs : normalize payload meterSchema ⟨"hub", "m1", "meter"⟩ .epoch = .ok s := by rfl
  exact ⟨hp, hs, (normalize_sound payload meterSchema _ _).1 s hp hs⟩

end DeviceHub
