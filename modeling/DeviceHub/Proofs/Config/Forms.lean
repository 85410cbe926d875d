import DeviceHub.Config.Codec
import DeviceHub.Proofs.Json.Records

/-!
# Schemas and envelopes in configurations

Schemas and envelopes are written in full and read leniently. What is written is read back
(`forms_read_back`), also after a source has put the members of its records in another order or has
left out what is null, and an envelope that is written out is never taken for the name of one.

* `FieldSpec.readsBack`, `Schema.readsBack`, `Envelope.readsBack`: records are read back.
* `FieldSpec.decode_one_path`, `FieldSpec.decode_one_path_listed`: one path may stand alone or in a
  list, under either key or in its place.
* `EnvelopeSection.readsBack`: a choice is read back as the one that was made.
-/
namespace DeviceHub

open Json Json.Decode

/-! ## Schemas -/

theorem Json.Decode.readsBack_oneOrMany :
    ReadsBack oneOrMany fun ss => .array (ss.map .text) where
  ne_null _ := Json.noConfusion
  reads ss := by
    intro w hw
    have hlist := readsBack_text.list.reads ss w hw
    cases hw with
    | same => simp only [oneOrMany, hlist]
    | array => simp only [oneOrMany, hlist]

theorem FieldKind.readsBack (dialect : Dialect) :
    ReadsBack (FieldKind.decode dialect) fun k => .text k.name :=
  readsBack_choice dialect fun k => by cases k <;> rfl

namespace FieldSpec

theorem keys_nodup (dialect : Dialect) :
    ([field "channel" text, fieldWithAlias "paths" "path" oneOrMany,
      field "kind" (FieldKind.decode dialect), field "required" bool].flatMap Field.keys).Nodup := by
  simp [field, fieldWithAlias]

theorem readsBack (dialect : Dialect) : ReadsBack (decode dialect) toJson where
  ne_null _ := Json.noConfusion
  reads f := by
    intro w hw
    have hkind := FieldKind.readsBack dialect
    obtain ⟨found, hrecord, hfound⟩ := record_restated (keys_nodup dialect)
      (.cons (writes_field "channel" (readsBack_text.reads f.channel))
      (.cons (writes_fieldWithAlias "paths" "path" (readsBack_oneOrMany.reads f.paths))
      (.cons (writes_field "kind" (hkind.reads f.kind))
      (.cons (writes_field "required" (readsBack_bool.reads f.required)) .nil)))) hw
    have h0 : found.required 0 text = .ok f.channel := hfound.required readsBack_text rfl
    have h1 : found.required 1 oneOrMany = .ok f.paths := hfound.required readsBack_oneOrMany rfl
    have h2 : found.required 2 (FieldKind.decode dialect) = .ok f.kind := hfound.required hkind rfl
    have h3 : found.withDefault 3 bool false = .ok f.required :=
      hfound.withDefault readsBack_bool rfl false
    simp only [decode, hrecord, h0, h1, h2, h3, bind, Except.bind]

/-- A path alone is the same as a list of that path, under either of the two keys and whatever else
the record says, be it right or wrong. -/
theorem decode_one_path (dialect : Dialect) (before after : Dict Json) {key key' : String}
    (hkey : key ∈ ["paths", "path"]) (hkey' : key' ∈ ["paths", "path"]) (path : String) :
    decode dialect (.object (before ++ (key, .text path) :: after)) =
      decode dialect (.object (before ++ (key', .array [.text path]) :: after)) := by
  have hone : (fieldWithAlias "paths" "path" oneOrMany).test (.text path) = .ok () := rfl
  have hlist : (fieldWithAlias "paths" "path" oneOrMany).test (.array [.text path]) = .ok () := rfl
  rcases record_differ (i := 1) (keys_nodup dialect) rfl hkey hkey' hone hlist before after with
    ⟨fault, h, h'⟩ | ⟨values, hlt, h, h'⟩
  · simp only [decode, h, h']
  · simp only [decode, h, h', bind, Except.bind, required_set_self hlt]
    simp only [required_set_ne (by decide : 1 ≠ 0), required_set_ne (by decide : 1 ≠ 2),
      withDefault_set_ne (by decide : 1 ≠ 3)]
    rfl

/-- The same for a record that is given as the list of its fields. -/
theorem decode_one_path_listed (dialect : Dialect) (channel : Json) (rest : List Json)
    (path : String) :
    decode dialect (.array (channel :: .text path :: rest)) =
      decode dialect (.array (channel :: .array [.text path] :: rest)) := by
  have hone : (fieldWithAlias "paths" "path" oneOrMany).test (.text path) = .ok () := rfl
  have hlist : (fieldWithAlias "paths" "path" oneOrMany).test (.array [.text path]) = .ok () := rfl
  simp only [decode, record, scanItems, hone, hlist]
  cases within (toString 0) ((Decode.field "channel" text).test channel) with
  | error fault => rfl
  | ok =>
    cases scanItems (0 + 1 + 1)
        [Decode.field "kind" (FieldKind.decode dialect), Decode.field "required" bool] rest with
    | error fault => rfl
    | ok values => rfl

end FieldSpec

theorem Schema.readsBack (dialect : Dialect) : ReadsBack (Schema.decode dialect) Schema.toJson where
  ne_null _ := Json.noConfusion
  reads s := by
    intro w hw
    have hfields := (FieldSpec.readsBack dialect).list
    obtain ⟨found, hrecord, hfound⟩ := record_restated (by simp [Decode.field])
      (.cons (writes_field "root" (readsBack_text.optional s.root))
      (.cons (writes_field "online_field" (readsBack_text.optional s.onlineField))
      (.cons (writes_field "fields" (hfields.reads s.fields)) .nil))) hw
    have h0 : found.optional 0 text = .ok s.root := hfound.optional readsBack_text rfl
    have h1 : found.optional 1 text = .ok s.onlineField := hfound.optional readsBack_text rfl
    have h2 : found.required 2 (list (FieldSpec.decode dialect)) = .ok s.fields :=
      hfound.required hfields rfl
    simp only [Schema.decode, hrecord, h0, h1, h2, bind, Except.bind]

/-! ## Envelopes -/

theorem StateMatch.readsBack : ReadsBack StateMatch.decode StateMatch.toJson where
  ne_null _ := Json.noConfusion
  reads s := by
    intro w hw
    obtain ⟨found, hrecord, hfound⟩ := record_restated (by simp [Decode.field])
      (.cons (writes_field "field" (readsBack_text.reads s.field))
      (.cons (writes_field "value" (readsBack_text.reads s.value)) .nil)) hw
    have h0 : found.required 0 text = .ok s.field := hfound.required readsBack_text rfl
    have h1 : found.required 1 text = .ok s.value := hfound.required readsBack_text rfl
    simp only [StateMatch.decode, hrecord, h0, h1, bind, Except.bind]

theorem Envelope.readsBack : ReadsBack Envelope.decode Envelope.toJson where
  ne_null _ := Json.noConfusion
  reads e := by
    intro w hw
    have hcodes := readsBack_text.list
    obtain ⟨found, hrecord, hfound⟩ := record_restated (by simp [Decode.field])
      (.cons (writes_field "field" (readsBack_text.reads e.field))
      (.cons (writes_field "ok_codes" (hcodes.reads e.okCodes))
      (.cons (writes_field "auth_codes" (hcodes.reads e.authCodes))
      (.cons (writes_field "offline_codes" (hcodes.reads e.offlineCodes))
      (.cons (writes_field "message_field" (readsBack_text.optional e.messageField))
      (.cons (writes_field "offline_state" (StateMatch.readsBack.optional e.offlineState))
        .nil)))))) hw
    have h0 : found.required 0 text = .ok e.field := hfound.required readsBack_text rfl
    have h1 : found.required 1 (list text) = .ok e.okCodes := hfound.required hcodes rfl
    have h2 : found.withDefault 2 (list text) [] = .ok e.authCodes :=
      hfound.withDefault hcodes rfl []
    have h3 : found.withDefault 3 (list text) [] = .ok e.offlineCodes :=
      hfound.withDefault hcodes rfl []
    have h4 : found.optional 4 text = .ok e.messageField := hfound.optional readsBack_text rfl
    have h5 : found.optional 5 StateMatch.decode = .ok e.offlineState :=
      hfound.optional StateMatch.readsBack rfl
    simp only [Envelope.decode, hrecord, h0, h1, h2, h3, h4, h5, bind, Except.bind]

/-- An envelope that is written out is an object, and so is no name. -/
theorem EnvelopeSection.readsBack : ReadsBack EnvelopeSection.decode EnvelopeSection.toJson where
  ne_null e := by cases e <;> exact Json.noConfusion
  reads e := by
    intro w hw
    cases e with
    | builtin name =>
      cases hw
      rfl
    | «inline» e =>
      have hread := Envelope.readsBack.reads e w hw
      obtain ⟨members, rfl, -⟩ := sameMembers_of_restates hw
      simp only [EnvelopeSection.decode, hread]

/-! ## Both -/

/-- Schemas, envelopes and choices of an envelope are read back from what they are written as, and from
all that restates it, in every dialect; a field may have one path alone in place of a list. -/
theorem forms_read_back (dialect : Dialect) :
    (∀ (schema : Schema) (v : Json), Restates schema.toJson v →
      Schema.decode dialect v = .ok schema) ∧
    (∀ (e : Envelope) (v : Json), Restates e.toJson v → Envelope.decode v = .ok e) ∧
    (∀ (before after : Dict Json) (key key' path : String),
      key ∈ ["paths", "path"] → key' ∈ ["paths", "path"] →
      FieldSpec.decode dialect (.object (before ++ (key, .text path) :: after)) =
        FieldSpec.decode dialect (.object (before ++ (key', .array [.text path]) :: after))) ∧
    (∀ (channel : Json) (rest : List Json) (path : String),
      FieldSpec.decode dialect (.array (channel :: .text path :: rest)) =
        FieldSpec.decode dialect (.array (channel :: .array [.text path] :: rest))) ∧
    ∀ (e : EnvelopeSection) (v : Json), Restates e.toJson v → EnvelopeSection.decode v = .ok e :=
  ⟨(Schema.readsBack dialect).reads, Envelope.readsBack.reads,
    fun before after _ _ path hkey hkey' =>
      FieldSpec.decode_one_path dialect before after hkey hkey' path,
    FieldSpec.decode_one_path_listed dialect,
    EnvelopeSection.readsBack.reads⟩

/-- A schema with its members the other way round and without its null, an envelope without its
null, and a path under its second key. -/
theorem forms_read_back_pump :
    let spec : FieldSpec := ⟨"level", ["tank.level"], .integer, true⟩
    let specForm : Dict Json := [("required", .bool true), ("kind", .text "integer"),
      ("paths", .array [.text "tank.level"]), ("channel", .text "level")]
    let schema : Schema := ⟨none, some "up", [spec]⟩
    let schemaForm : Dict Json :=
      [("fields", .array [.object specForm]), ("online_field", .text "up")]
    let codes : Json := .array [.text "0102", .text "0110"]
    let envelopeForm : Dict Json := [("field", .text "resultCode"),
      ("ok_codes", .array [.text "0000", .text "0001"]), ("auth_codes", codes),
      ("offline_codes", .array [.text "0106"]), ("message_field", .text "returnMsg")]
    (Restates schema.toJson (.object schemaForm) ∧
      Schema.decode .plain (.object schemaForm) = .ok schema) ∧
    (Restates Envelope.thinq.toJson (.object envelopeForm) ∧
      Envelope.decode (.object envelopeForm) = .ok .thinq ∧
      EnvelopeSection.decode (.object envelopeForm) = .ok (.inline .thinq)) ∧
    "path" ∈ ["paths", "path"] ∧ "paths" ∈ ["paths", "path"] ∧
    FieldSpec.decode .plain (.object (specForm.take 2 ++ ("path", .text "tank.level") ::
      specForm.drop 3)) = FieldSpec.decode .plain (.object specForm) ∧
    FieldSpec.decode .plain (.object specForm) = .ok spec := by
  intro spec specForm schema schemaForm codes envelopeForm
  have hsame : ∀ vs : List Json, List.Forall₂ Restates vs vs := fun vs =>
    List.forall₂_same.2 fun v _ => .same v
  have hspec : Restates spec.toJson (.object specForm) :=
    @Restates.object _ specForm [] specForm (List.reverse_perm _).symm (by simp) rfl (hsame _)
  have hfields : Restates (.array [spec.toJson]) (.array [.object specForm]) :=
    .array (.cons hspec .nil)
  have hschema : Restates schema.toJson (.object schemaForm) :=
    @Restates.object _ [("fields", .array [spec.toJson]), ("online_field", .text "up")]
      [("root", .null)] schemaForm (List.reverse_perm _).symm (by simp) rfl
      (.cons hfields (.cons (.same _) .nil))
  have henvelope : Restates Envelope.thinq.toJson (.object envelopeForm) :=
    @Restates.object _ envelopeForm [("offline_state", .null)] envelopeForm (.refl _) (by simp) rfl
      (hsame _)
  obtain ⟨hschemas, henvelopes, hpaths, -, hsections⟩ := forms_read_back .plain
  exact ⟨⟨hschema, hschemas schema _ hschema⟩,
    ⟨henvelope, henvelopes .thinq _ henvelope, hsections (.inline .thinq) _ henvelope⟩,
    by decide, by decide, hpaths (specForm.take 2) (specForm.drop 3) "path" "paths" "tank.level"
      (by decide) (by decide), (FieldSpec.readsBack .plain).reads spec _ hspec⟩

end DeviceHub
