import DeviceHub.Hub.Cycle
import DeviceHub.Proofs.Json.Finite

/-!
# The channels of a normalized snapshot

A snapshot says something about every channel of its schema and about no other, whatever the payload
was: a channel that the payload does not report is undefined, not absent. Two snapshots of one task
can therefore be compared channel by channel.

* `normalize_fits`: the channels are those of the schema, ascending, and no value is a NaN, so that
  each value is the same as itself.
* `normalize_device`: the snapshot is about the device that was asked for.
* `readAnswer_fits`, `readAnswer_device`: so is the snapshot of every answer to a cycle.
* `collect_append`, `collect_found_get?`, `collect_failed`: one field among those before and after it.
-/
namespace DeviceHub

def Schema.channels (s : Schema) : List String := s.fields.map (·.channel)

/-- A snapshot has just the channels of a schema, ascending, and a comparable value on each. -/
structure Snapshot.Fits (s : Snapshot) (schema : Schema) : Prop where
  ordered : s.fields.Ordered
  channels : ∀ c, (s.fields.get? c).isSome = true ↔ c ∈ schema.channels
  same : ∀ c v, s.fields.get? c = some v → v.same v = true

namespace Normalize

/-! ## Collecting fields -/

theorem collect_cons {value : FieldSpec → Except NormalizeError FieldValue}
    {fields fields' : Dict FieldValue} {spec : FieldSpec} {rest : List FieldSpec}
    (h : collect value fields (spec :: rest) = .ok fields') :
    ∃ v, value spec = .ok v ∧ collect value (fields.insert spec.channel v) rest = .ok fields' := by
  simp only [collect] at h
  cases hv : value spec with
  | error e => rw [hv] at h; cases h
  | ok v => rw [hv] at h; exact ⟨v, rfl, h⟩

theorem collect_ordered {value : FieldSpec → Except NormalizeError FieldValue}
    {specs : List FieldSpec} {fields fields' : Dict FieldValue}
    (h : collect value fields specs = .ok fields') (hf : fields.Ordered) : fields'.Ordered := by
  induction specs generalizing fields with
  | nil => cases h; exact hf
  | cons spec rest ih =>
    obtain ⟨v, -, h⟩ := collect_cons h
    exact ih h (hf.insert spec.channel v)

theorem collect_channels {value : FieldSpec → Except NormalizeError FieldValue}
    {specs : List FieldSpec} {fields fields' : Dict FieldValue}
    (h : collect value fields specs = .ok fields') (c : String) :
    (fields'.get? c).isSome = true ↔
      (fields.get? c).isSome = true ∨ c ∈ specs.map (·.channel) := by
  induction specs generalizing fields with
  | nil => cases h; simp
  | cons spec rest ih =>
    obtain ⟨v, -, h⟩ := collect_cons h
    rw [ih h, Dict.get?_insert, List.map_cons, List.mem_cons]
    by_cases hc : spec.channel = c
    · simp [hc]
    · simp [hc, Ne.symm hc]

/-- What holds of every value found holds of every value collected. -/
theorem collect_values {value : FieldSpec → Except NormalizeError FieldValue}
    {P : FieldValue → Prop} (hvalue : ∀ spec v, value spec = .ok v → P v) {specs : List FieldSpec}
    {fields fields' : Dict FieldValue} (h : collect value fields specs = .ok fields')
    (hf : ∀ c v, fields.get? c = some v → P v) : ∀ c v, fields'.get? c = some v → P v := by
  induction specs generalizing fields with
  | nil => cases h; exact hf
  | cons spec rest ih =>
    obtain ⟨v, hv, h⟩ := collect_cons h
    refine ih h fun c w hw => ?_
    rw [Dict.get?_insert] at hw
    split at hw
    · cases hw; exact hvalue spec v hv
    · exact hf c w hw

section

variable {value : FieldSpec → Except NormalizeError FieldValue} {spec : FieldSpec}
  {before after : List FieldSpec}

theorem collect_append (before after : List FieldSpec) (fields : Dict FieldValue) :
    collect value fields (before ++ after) =
      (collect value fields before).bind fun fields' => collect value fields' after := by
  induction before generalizing fields with
  | nil => rfl
  | cons spec rest ih =>
    simp only [List.cons_append, collect]
    cases value spec with
    | error e => rfl
    | ok v => exact ih _

/-- Whether a field is found does not depend on what was collected before it. -/
theorem collect_eq_error_iff {specs : List FieldSpec} {e : NormalizeError}
    (fields fields' : Dict FieldValue) :
    collect value fields specs = .error e ↔ collect value fields' specs = .error e := by
  induction specs generalizing fields fields' with
  | nil => simp [collect]
  | cons spec rest ih =>
    simp only [collect]
    cases value spec with
    | error e' => rfl
    | ok v => exact ih _ _

theorem collect_keeps {specs : List FieldSpec} {fields fields' : Dict FieldValue} {c : String}
    (h : collect value fields specs = .ok fields') (hc : ∀ spec ∈ specs, spec.channel ≠ c) :
    fields'.get? c = fields.get? c := by
  induction specs generalizing fields with
  | nil =>
    cases h
    rfl
  | cons spec rest ih =>
    obtain ⟨hspec, hrest⟩ := List.forall_mem_cons.1 hc
    obtain ⟨v, -, h⟩ := collect_cons h
    rw [ih h hrest, Dict.get?_insert, if_neg hspec]

/-- A field that is found is no reason for a list to fail. -/
theorem collect_found_eq_error {v : FieldValue} {e : NormalizeError} (hv : value spec = .ok v)
    (fields : Dict FieldValue) : collect value fields (before ++ spec :: after) = .error e ↔
      collect value fields (before ++ after) = .error e := by
  rw [collect_append, collect_append]
  cases collect value fields before with
  | error e' => rfl
  | ok fields' =>
    simp only [Except.bind, collect, hv]
    exact collect_eq_error_iff _ _

/-- Its value stays unless a later field takes the channel. -/
theorem collect_found_get? {v : FieldValue} {fields fields' : Dict FieldValue}
    (hv : value spec = .ok v) (h : collect value fields (before ++ spec :: after) = .ok fields')
    (hlater : ∀ later ∈ after, later.channel ≠ spec.channel) :
    fields'.get? spec.channel = some v := by
  rw [collect_append] at h
  cases hbefore : collect value fields before with
  | error e =>
    rw [hbefore] at h
    cases h
  | ok fields₁ =>
    rw [hbefore] at h
    obtain ⟨v', hv', hafter⟩ := collect_cons h
    rw [hv] at hv'
    cases hv'
    rw [collect_keeps hafter hlater, Dict.get?_insert, if_pos rfl]

/-- A field that fails makes a list fail when no earlier one does. -/
theorem collect_failed {e : NormalizeError} (hv : value spec = .error e) (fields : Dict FieldValue) :
    collect value fields (before ++ spec :: after) =
      (collect value fields before).bind fun _ => .error e := by
  rw [collect_append]
  simp only [collect, hv]
  rfl

end

/-! ## No value is a NaN -/

theorem binary64_ne_nan {n : Json.Number} (h : n.isFinite = true) : n.binary64 ≠ .nan := by
  cases n with
  | integer n =>
    simp only [Json.Number.binary64, Binary64.ofInt]
    cases Magnitude.ofNat n.natAbs <;> simp [Binary64.ofMagnitude?]
  | decimal x => rintro rfl; cases h

theorem bytesOfText?_ne_nan {cs : List Char} {v : FieldValue} (h : bytesOfText? cs = some v) :
    v ≠ .decimal .nan := by
  obtain ⟨data, -, rfl⟩ := Option.map_eq_some_iff.1 h
  simp

theorem ofText?_ne_nan {kind : FieldKind} {s : String} {v : FieldValue}
    (h : ofText? kind s = some v) : v ≠ .decimal .nan := by
  cases kind with
  | integer | boolean => obtain ⟨x, -, rfl⟩ := Option.map_eq_some_iff.1 h; simp
  | text => cases h; simp
  | binary => exact bytesOfText?_ne_nan h
  | decimal =>
    obtain ⟨x, hx, rfl⟩ := Option.map_eq_some_iff.1 h
    have := (Option.filter_eq_some_iff.1 hx).2
    rintro heq
    cases heq
    cases this

theorem ofJson?_ne_nan {kind : FieldKind} {j : Json} {v : FieldValue} (hj : j.isFinite = true)
    (h : ofJson? kind j = some v) : v ≠ .decimal .nan := by
  unfold ofJson? at h
  split at h
  · obtain ⟨x, -, rfl⟩ := Option.map_eq_some_iff.1 h; simp
  · obtain ⟨x, -, rfl⟩ := Option.map_eq_some_iff.1 h; simp
  · cases h; simpa using binary64_ne_nan hj
  · cases h; simp
  · cases h; simp
  · exact bytesOfText?_ne_nan h
  · exact ofText?_ne_nan h
  · cases h

theorem absent_ne_nan {spec : FieldSpec} {v : FieldValue} (h : absent spec = .ok v) :
    v ≠ .decimal .nan := by
  unfold absent at h
  split at h <;> cases h
  simp

theorem converted_eq_ok {spec : FieldSpec} {path found : String} {o : Option FieldValue}
    {v : FieldValue} (h : converted spec path found o = .ok v) : o = some v := by
  cases o <;> cases h
  rfl

theorem firstFound_eq_some {α : Type} {find : String → Option α} {paths : List String}
    {path : String} {a : α} (h : firstFound find paths = some (path, a)) : find path = some a := by
  induction paths with
  | nil => cases h
  | cons p rest ih =>
    simp only [firstFound] at h
    split at h
    · next b hb => cases h; exact hb
    · exact ih h

theorem numbers_walk {v w : Json} {path : List String} (h : walk v path = some w) :
    w.numbers ⊆ v.numbers := by
  induction path generalizing v with
  | nil => cases h; exact List.Subset.refl _
  | cons segment rest ih =>
    obtain ⟨inner, hinner, h⟩ := Option.bind_eq_some_iff.1 h
    exact List.Subset.trans (ih h) (Json.numbers_member? hinner)

theorem numbers_lookup {v w : Json} {path : String} (h : lookup v path = some w) :
    w.numbers ⊆ v.numbers := by
  unfold lookup at h
  split at h
  · cases h; exact List.Subset.refl _
  · split at h
    · next found hfound => cases h; exact Json.numbers_member? hfound
    · split at h
      · exact numbers_walk h
      · cases h

theorem reported_isFinite {v w : Json} {path : String} (hv : v.isFinite = true)
    (h : reported v path = some w) : w.isFinite = true := by
  have hw : w.numbers ⊆ v.numbers := numbers_lookup (Option.filter_eq_some_iff.1 h).1
  exact (Json.isFinite_iff w).2 fun n hn => (Json.isFinite_iff v).1 hv n (hw hn)

theorem jsonField_ne_nan {node : Json} (hn : node.isFinite = true) (spec : FieldSpec)
    (v : FieldValue) (h : jsonField node spec = .ok v) : v ≠ .decimal .nan := by
  unfold jsonField at h
  split at h
  · next path j hj =>
    exact ofJson?_ne_nan (reported_isFinite hn (firstFound_eq_some hj)) (converted_eq_ok h)
  · exact absent_ne_nan h

theorem entryField_ne_nan {root : Option String} {entries : Dict String} (spec : FieldSpec)
    (v : FieldValue) (h : entryField root entries spec = .ok v) : v ≠ .decimal .nan := by
  unfold entryField at h
  split at h
  · exact ofText?_ne_nan (converted_eq_ok h)
  · exact absent_ne_nan h

theorem bytesField_ne_nan {mediaType : String} {data : List UInt8} (spec : FieldSpec)
    (v : FieldValue) (h : bytesField mediaType data spec = .ok v) : v ≠ .decimal .nan := by
  unfold bytesField at h
  split at h
  · cases h; simp
  · exact absent_ne_nan h

/-! ## The fields of a payload -/

/-- How a schema finds the value of a field in a payload. -/
inductive Reads (schema : Schema) :
    Payload → (FieldSpec → Except NormalizeError FieldValue) → Prop
  | json {v n : Json} (h : node v schema.root = .ok n) : Reads schema (.json v) (jsonField n)
  | keyValue (entries : Dict String) :
    Reads schema (.keyValue entries) (entryField schema.root entries)
  | binary (mediaType : String) (data : List UInt8) :
    Reads schema (.binary mediaType data) (bytesField mediaType data)

/-- The fields of every kind of payload are collected in one way. -/
theorem fieldsAndFlag_eq_ok {payload : Payload} {schema : Schema} {fields : Dict FieldValue}
    {online : Bool} (h : fieldsAndFlag payload schema = .ok (fields, online)) :
    ∃ value, Reads schema payload value ∧ collect value [] schema.fields = .ok fields := by
  cases payload with
  | json j =>
    simp only [fieldsAndFlag, bind, Except.bind] at h
    split at h
    · cases h
    · next n hn =>
      split at h
      · cases h
      · split at h
        · cases h
        · next fields' hf => cases h; exact ⟨_, .json hn, hf⟩
  | keyValue entries =>
    simp only [fieldsAndFlag, bind, Except.bind] at h
    split at h
    · cases h
    · next fields' hf => cases h; exact ⟨_, .keyValue entries, hf⟩
  | binary mediaType data =>
    simp only [fieldsAndFlag, bind, Except.bind] at h
    split at h
    · cases h
    · next fields' hf => cases h; exact ⟨_, .binary mediaType data, hf⟩

theorem node_cases {v n : Json} {root : Option String} (h : node v root = .ok n) :
    n = v ∨ ∃ path, root = some path ∧ reported v path = some n := by
  cases root with
  | none => cases h; exact .inl rfl
  | some path =>
    rw [node] at h
    split at h
    · next found hfound => cases h; exact .inr ⟨path, rfl, hfound⟩
    · cases h

theorem reads_ne_nan {payload : Payload} {schema : Schema}
    {value : FieldSpec → Except NormalizeError FieldValue} (hp : payload.isFinite = true)
    (h : Reads schema payload value) (spec : FieldSpec) (v : FieldValue) (hv : value spec = .ok v) :
    v ≠ .decimal .nan := by
  cases h with
  | json hn =>
    rcases node_cases hn with rfl | ⟨path, -, hfound⟩
    · exact jsonField_ne_nan hp spec v hv
    · exact jsonField_ne_nan (reported_isFinite hp hfound) spec v hv
  | keyValue entries => exact entryField_ne_nan spec v hv
  | binary mediaType data => exact bytesField_ne_nan spec v hv

theorem map_eq_error {ε α β : Type} {f : α → β} {x : Except ε α} {e : ε} :
    x.map f = .error e ↔ x = .error e := by
  cases x <;> simp [Except.map]

theorem map_eq_ok {ε α β : Type} {f : α → β} {x : Except ε α} {b : β} :
    x.map f = .ok b ↔ ∃ a, x = .ok a ∧ f a = b := by
  cases x <;> simp [Except.map]

end Normalize

/-! ## The snapshot -/

variable {payload : Payload} {schema : Schema} {identity : Identity} {capturedAt : Instant}
  {s : Snapshot}

theorem normalize_eq_ok : normalize payload schema identity capturedAt = .ok s ↔
    ∃ fields online, Normalize.fieldsAndFlag payload schema = .ok (fields, online) ∧
      s = ⟨identity.device, identity.deviceType, capturedAt, fields, online⟩ := by
  simp only [normalize, bind, Except.bind]
  cases Normalize.fieldsAndFlag payload schema with
  | error e => simp
  | ok found =>
    obtain ⟨fields, online⟩ := found
    constructor
    · intro h
      cases h
      exact ⟨fields, online, rfl, rfl⟩
    · rintro ⟨_, _, hfound, rfl⟩
      cases hfound
      rfl

theorem normalize_of_node {v n : Json} (hn : Normalize.node v schema.root = .ok n) :
    normalize (.json v) schema identity capturedAt =
      (Normalize.onlineFlag n schema.onlineField).bind fun online =>
        (Normalize.collect (Normalize.jsonField n) [] schema.fields).map fun fields =>
          ⟨identity.device, identity.deviceType, capturedAt, fields, online⟩ := by
  simp only [normalize, Normalize.fieldsAndFlag, hn, bind, Except.bind]
  cases Normalize.onlineFlag n schema.onlineField with
  | error e => rfl
  | ok online => cases Normalize.collect (Normalize.jsonField n) [] schema.fields <;> rfl

/-- For all lists of fields alike: the flag is read first, then the fields in their order. -/
theorem normalize_of_reads {value : FieldSpec → Except NormalizeError FieldValue}
    (h : Normalize.Reads schema payload value) (identity : Identity) (capturedAt : Instant) :
    ∃ flag : Except NormalizeError Bool, ∀ specs,
      normalize payload { schema with fields := specs } identity capturedAt =
        flag.bind fun online => (Normalize.collect value [] specs).map fun fields =>
          ⟨identity.device, identity.deviceType, capturedAt, fields, online⟩ := by
  cases h with
  | @json v n hnode =>
    refine ⟨Normalize.onlineFlag n schema.onlineField, fun specs => ?_⟩
    have hspecs : Normalize.node v ({ schema with fields := specs } : Schema).root = .ok n := hnode
    exact normalize_of_node hspecs
  | keyValue entries =>
    refine ⟨.ok true, fun specs => ?_⟩
    simp only [normalize, Normalize.fieldsAndFlag, bind, Except.bind]
    cases Normalize.collect (Normalize.entryField schema.root entries) [] specs <;> rfl
  | binary mediaType data =>
    refine ⟨.ok true, fun specs => ?_⟩
    simp only [normalize, Normalize.fieldsAndFlag, bind, Except.bind]
    cases Normalize.collect (Normalize.bytesField mediaType data) [] specs <;> rfl

theorem normalize_device (h : normalize payload schema identity capturedAt = .ok s) :
    s.device = identity.device := by
  simp only [normalize, bind, Except.bind] at h
  split at h
  · cases h
  · cases h; rfl

theorem normalize_deviceType (h : normalize payload schema identity capturedAt = .ok s) :
    s.deviceType = identity.deviceType := by
  simp only [normalize, bind, Except.bind] at h
  split at h
  · cases h
  · cases h; rfl

theorem normalize_fits (hp : payload.isFinite = true)
    (h : normalize payload schema identity capturedAt = .ok s) : s.Fits schema := by
  simp only [normalize, bind, Except.bind] at h
  split at h
  · cases h
  · next found hfound =>
    cases h
    obtain ⟨value, hreads, hcollect⟩ := Normalize.fieldsAndFlag_eq_ok hfound
    refine ⟨Normalize.collect_ordered hcollect List.Pairwise.nil, fun c => ?_, fun c v hv => ?_⟩
    · rw [Normalize.collect_channels hcollect c]
      simp [Dict.get?, Schema.channels]
    · have hvalue := Normalize.reads_ne_nan hp hreads
      have hnan := Normalize.collect_values hvalue hcollect (by simp [Dict.get?]) c v hv
      exact FieldValue.same_self hnan

/-- Whether an answer is one that a client can give. The type of JSON numbers has room for what is no
number, but no JSON text writes it (`fetch_isFinite`), and no value of a client holds it. -/
def answerIsFinite : Except RequestError Payload → Bool
  | .ok payload => payload.isFinite
  | .error _ => true

theorem readAnswer_eq_ok {answer : Except RequestError Payload}
    (h : readAnswer schema identity capturedAt answer = .ok s) :
    ∃ payload, answer = .ok payload ∧ normalize payload schema identity capturedAt = .ok s := by
  cases answer with
  | error e => cases h
  | ok payload =>
    simp only [readAnswer] at h
    split at h
    · next hs => cases h; exact ⟨payload, rfl, hs⟩
    · cases h

theorem readAnswer_device {answer : Except RequestError Payload}
    (h : readAnswer schema identity capturedAt answer = .ok s) : s.device = identity.device := by
  obtain ⟨payload, -, hs⟩ := readAnswer_eq_ok h
  exact normalize_device hs

theorem readAnswer_deviceType {answer : Except RequestError Payload}
    (h : readAnswer schema identity capturedAt answer = .ok s) :
    s.deviceType = identity.deviceType := by
  obtain ⟨payload, -, hs⟩ := readAnswer_eq_ok h
  exact normalize_deviceType hs

theorem readAnswer_fits {answer : Except RequestError Payload} (ha : answerIsFinite answer = true)
    (h : readAnswer schema identity capturedAt answer = .ok s) : s.Fits schema := by
  obtain ⟨payload, rfl, hs⟩ := readAnswer_eq_ok h
  exact normalize_fits ha hs

end DeviceHub
