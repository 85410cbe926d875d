import DeviceHub.Proofs.Normalize.Fields
import DeviceHub.Proofs.Normalize.Integers
import DeviceHub.Proofs.Normalize.Typed

/-!
# Rendered snapshots

The JSON form of a snapshot's fields is itself a payload: read with one field for each channel, at the
place where the channel is rendered, it gives the fields back. A channel name with dots is found as the
key that it is, and an undefined channel, rendered as `null`, is again one that is not reported.

Bytes are rendered as an object and do not come back, and the name `.` stands for the whole payload.

* `Snapshot.renderedFields`: the fields that read a rendered snapshot.
* `ofJson?_toJson`: a value of a kind is read back from its rendering.
* `normalize_rendered`: so are all fields of a snapshot.
-/
namespace DeviceHub

/-- The field that reads a channel where a snapshot renders it. -/
def FieldSpec.rendered (spec : FieldSpec) : FieldSpec := ⟨spec.channel, [spec.channel], spec.kind, false⟩

/-- For each channel of a snapshot the field that reads its rendering, of the kind that its schema
declares. -/
def Snapshot.renderedFields (s : Snapshot) (schema : Schema) : List FieldSpec :=
  s.fields.keys.filterMap fun c => (schema.declares? c).map (·.rendered)

theorem Schema.declares?_eq_some {schema : Schema} {channel : String} {spec : FieldSpec}
    (h : schema.declares? channel = some spec) : spec ∈ schema.fields ∧ spec.channel = channel :=
  ⟨List.mem_reverse.1 (List.mem_of_find?_eq_some h), by simpa using List.find?_some h⟩

namespace Normalize

variable {fields : Dict FieldValue} {spec : FieldSpec} {v : FieldValue}

theorem ofJson?_toJson {kind : FieldKind} (hkind : kind ≠ .binary) (hv : v.IsOf kind) :
    ofJson? kind v.toJson = some v := by
  obtain ⟨hkind?, hrange⟩ := hv
  cases v with
  | undefined => cases hkind?
  | integer n =>
    cases hkind?
    have hfits : Decimal.fitsInt64 n = true := hrange
    simp only [FieldValue.toJson, Json.integer, ofJson?, integerOfNumber?_integer, if_pos hfits,
      Option.map_some]
  | decimal x | text s | boolean b =>
    cases hkind?
    rfl
  | binary mediaType data =>
    cases hkind?
    exact absurd rfl hkind

/-- A channel stands under its name, whatever dots are in it. -/
theorem lookup_rendered (hspec : spec.channel ≠ wholePayload)
    (hv : fields.get? spec.channel = some v) :
    lookup (.object (fields.mapValues (·.toJson))) spec.channel = some v.toJson := by
  simp only [lookup, if_neg hspec, Json.member?, Dict.get?_mapValues, hv, Option.map_some]

theorem jsonField_rendered (hkind : spec.kind ≠ .binary) (hspec : spec.channel ≠ wholePayload)
    (hv : fields.get? spec.channel = some v) (hadmits : spec.Admits v) :
    jsonField (.object (fields.mapValues (·.toJson))) spec.rendered = .ok v := by
  have hlookup := lookup_rendered hspec hv
  rcases hadmits with ⟨rfl, -⟩ | hv
  · have hsilent := reported_eq_none.2 (.inr hlookup)
    simp only [jsonField, FieldSpec.rendered, firstFound, hsilent, absent, Bool.false_eq_true,
      if_false]
  · have hnull : v.toJson ≠ .null := fun hnull => by
      rw [FieldValue.toJson_eq_null.1 hnull] at hv
      cases hv.1
    have hfound := reported_eq_some.2 ⟨hlookup, hnull⟩
    simp only [jsonField, FieldSpec.rendered, firstFound, hfound, ofJson?_toJson hkind hv, converted]

end Normalize

variable {payload : Payload} {schema : Schema} {identity : Identity} {capturedAt : Instant}
  {s : Snapshot}

/-- Each channel has one field. -/
theorem channels_renderedFields (hp : payload.inRange = true)
    (h : normalize payload schema identity capturedAt = .ok s) :
    (s.renderedFields schema).map (·.channel) = s.fields.keys := by
  have hdeclared : ∀ c ∈ s.fields.keys,
      ((schema.declares? c).map (·.rendered)).map (·.channel) = some c := by
    intro c hc
    obtain ⟨v, hv⟩ := Option.isSome_iff_exists.1 (Dict.contains_iff_mem_keys.2 hc)
    obtain ⟨spec, hspec, -⟩ := normalize_declared hp h hv
    simp [hspec, FieldSpec.rendered, (Schema.declares?_eq_some hspec).2]
  rw [Snapshot.renderedFields, List.map_filterMap, List.filterMap_congr hdeclared]
  exact List.filterMap_some

theorem mem_renderedFields {spec : FieldSpec} (h : spec ∈ s.renderedFields schema) :
    ∃ declared v, schema.declares? declared.channel = some declared ∧ spec = declared.rendered ∧
      s.fields.get? declared.channel = some v := by
  obtain ⟨c, hc, hspec⟩ := List.mem_filterMap.1 h
  obtain ⟨declared, hdeclared, rfl⟩ := Option.map_eq_some_iff.1 hspec
  obtain ⟨v, hv⟩ := Option.isSome_iff_exists.1 (Dict.contains_iff_mem_keys.2 hc)
  obtain rfl := (Schema.declares?_eq_some hdeclared).2
  exact ⟨declared, v, hdeclared, rfl, hv⟩

/-- What a snapshot's fields are rendered to is a payload that comes to the same fields again. -/
theorem normalize_rendered (hp : payload.inRange = true)
    (hkinds : ∀ spec ∈ schema.fields, spec.kind ≠ .binary)
    (hchannels : ∀ spec ∈ schema.fields, spec.channel ≠ wholePayload)
    (h : normalize payload schema identity capturedAt = .ok s) {specs : List FieldSpec}
    (hspecs : specs.Perm (s.renderedFields schema)) (identity' : Identity) (capturedAt' : Instant) :
    (s.renderedFields schema).map (·.channel) = s.fields.keys ∧
    ∃ rendered, s.toJson.member? "fields" = some rendered ∧
      normalize (.json rendered) ⟨none, none, specs⟩ identity' capturedAt' =
        .ok ⟨identity'.device, identity'.deviceType, capturedAt', s.fields, true⟩ := by
  have htyped := normalize_typed hp h
  have hrendered := channels_renderedFields hp h
  refine ⟨hrendered, .object (s.fields.mapValues (·.toJson)), rfl, ?_⟩
  have hnames : (specs.map (·.channel)).Perm s.fields.keys := hrendered ▸ hspecs.map _
  have hcollect : Normalize.collect (Normalize.jsonField (.object (s.fields.mapValues (·.toJson)))) []
      specs = .ok s.fields := by
    refine Normalize.collect_of_values (hnames.nodup_iff.2 htyped.ordered.keys_nodup) htyped.ordered
      (fun spec hspec => ?_) fun c hc => ?_
    · obtain ⟨declared, v, hdeclared, rfl, hv⟩ := mem_renderedFields (hspecs.mem_iff.1 hspec)
      obtain ⟨spec, hspec', hadmits⟩ := normalize_declared hp h hv
      obtain rfl : declared = spec := Option.some.inj (hdeclared.symm.trans hspec')
      have hmem := (Schema.declares?_eq_some hdeclared).1
      exact ⟨v, Normalize.jsonField_rendered (hkinds declared hmem) (hchannels declared hmem) hv hadmits,
        hv⟩
    · rw [hnames.mem_iff, ← Dict.contains_iff_mem_keys] at hc
      exact Option.not_isSome_iff_eq_none.1 hc
  rw [normalize_of_node rfl]
  simp only [Normalize.onlineFlag, Except.bind, hcollect, Except.map]

/-- A line of text from an air purifier, rendered and read back by fields in another order: a level read
as a decimal and a switch read as a word, a channel with a dot, one that was not reported. -/
theorem normalize_rendered_purifier :
    let payload := Payload.keyValue [("air.level", "21.0"), ("air.on", " Off ")]
    let schema : Schema := ⟨some "air", none, [⟨"level", ["level"], .text, false⟩,
      ⟨"level", ["level"], .integer, true⟩, ⟨"fan.on", ["power", "on"], .boolean, true⟩,
      ⟨"note", ["note"], .text, false⟩]⟩
    let fields : Dict FieldValue :=
      [("fan.on", .boolean false), ("level", .integer 21), ("note", .undefined)]
    let specs : List FieldSpec := [⟨"level", ["level"], .integer, false⟩,
      ⟨"note", ["note"], .text, false⟩, ⟨"fan.on", ["fan.on"], .boolean, false⟩]
    normalize payload schema ⟨"hub", "p1", "purifier"⟩ .epoch =
      .ok ⟨"p1", "purifier", .epoch, fields, true⟩ ∧
    normalize (.json (.object [("fan.on", .bool false), ("level", .integer 21), ("note", .null)]))
      ⟨none, none, specs⟩ ⟨"hub", "p2", "copy"⟩ .epoch = .ok ⟨"p2", "copy", .epoch, fields, true⟩ := by
  intro payload schema fields specs
  have hs : normalize payload schema ⟨"hub", "p1", "purifier"⟩ .epoch =
    .ok ⟨"p1", "purifier", .epoch, fields, true⟩ := by decide +kernel
  have hspecs : specs.Perm (Snapshot.renderedFields ⟨"p1", "purifier", .epoch, fields, true⟩ schema) :=
    by decide
  obtain ⟨-, rendered, hrendered, h⟩ := normalize_rendered (by rfl) (by decide) (by decide) hs hspecs
    ⟨"hub", "p2", "copy"⟩ .epoch
  cases hrendered
  exact ⟨hs, h⟩

end DeviceHub
