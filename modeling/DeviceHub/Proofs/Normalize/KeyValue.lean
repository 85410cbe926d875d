import DeviceHub.KeyValue
import DeviceHub.Proofs.Normalize.Channels
import DeviceHub.Proofs.Text.Trimming

/-!
# key=value payloads and JSON payloads

A device that answers with key=value lines might as well have answered with a JSON object that has the
entries for text members: below the root, when the schema has one, under what is left of their keys
(`jsonOf`). The two payloads are searched and converted in different ways. A schema that does not name
the whole payload, nor asks whether the device is online, cannot tell them apart: both give the same
snapshot, or fail for the same field and the same reason (`keyValue_agrees_json`).

* `trimmed_of_parse`: entries have no blanks around their values.
* `reported_flat`: in an object of texts no path leads further than to a member.
* `get?_below`: what is below a root, under its own key.
* `alike_field`, `collect_alike`: one field, and all fields.
-/
namespace DeviceHub

namespace KeyValue

/-- A value has no blanks around it. -/
def Trimmed (e : String × String) : Prop := Text.trim e.2.toList = e.2.toList

theorem trimmed_of_entry {line : List Char} {e : String × String} (h : entry? line = .ok e) :
    Trimmed e := by
  unfold entry? at h
  split at h
  · cases h
    simp only [Trimmed, String.toList_ofList, Text.trim_trim]
  · cases h

theorem trimmed_of_entries {lines : List (List Char)} {es : List (String × String)}
    (h : entries? lines = .ok es) : ∀ e ∈ es, Trimmed e := by
  induction lines generalizing es with
  | nil =>
    cases h
    exact fun e he => absurd he List.not_mem_nil
  | cons line rest ih =>
    simp only [entries?] at h
    split at h
    · exact ih h
    · cases hentry : entry? (Text.trim line) with
      | error fault =>
        rw [hentry] at h
        cases h
      | ok e =>
        cases hrest : entries? rest with
        | error fault =>
          rw [hentry, hrest] at h
          cases h
        | ok later =>
          rw [hentry, hrest] at h
          cases h
          exact List.forall_mem_cons.2 ⟨trimmed_of_entry hentry, ih hrest⟩

theorem trimmed_of_parse {text : String} {entries : Dict String} (h : parse text = .ok entries) :
    ∀ e ∈ entries, Trimmed e := by
  unfold parse at h
  cases hentries : entries? (lines text.toList) with
  | error fault =>
    rw [hentries] at h
    cases h
  | ok es =>
    rw [hentries] at h
    simp only [bind, Except.bind] at h
    split at h
    · cases h
    · cases h
      exact fun e he => trimmed_of_entries hentries e (Dict.mem_ofList he)

end KeyValue

namespace Normalize

/-! ## Objects of texts -/

/-- What stands behind a beginning. -/
def behind? (start key : String) : Option String :=
  if start.toList.isPrefixOf key.toList then
    some (String.ofList (key.toList.drop start.toList.length))
  else none

/-- The entries with keys below a root, each under the rest of its key. -/
def below (root : String) (entries : Dict String) : Dict String :=
  entries.filterMap fun e => (behind? (root ++ ".") e.1).map fun key => (key, e.2)

/-- The object that has texts for members. -/
def flat (entries : Dict String) : Json := .object (entries.mapValues .text)

/-- The entries among which a schema looks for its fields. -/
def scope (root : Option String) (entries : Dict String) : Dict String :=
  match root with
  | none => entries
  | some r => below r entries

/-- A JSON payload that says the same as some entries. -/
def jsonOf (root : Option String) (entries : Dict String) : Json :=
  match root with
  | none => flat entries
  | some r => .object [(r, flat (below r entries))]

theorem behind?_eq_some {start key rest : String} :
    behind? start key = some rest ↔ key = start ++ rest := by
  unfold behind?
  rw [← String.toList_inj, String.toList_append]
  constructor
  · intro h
    split at h
    · next hstart =>
      obtain ⟨tail, htail⟩ := List.isPrefixOf_iff_prefix.1 hstart
      cases h
      rw [String.toList_ofList, ← htail, List.drop_left]
    · cases h
  · intro h
    rw [h, if_pos (List.isPrefixOf_iff_prefix.2 (List.prefix_append ..)), List.drop_left,
      String.ofList_toList]

theorem get?_below (root : String) (entries : Dict String) (path : String) :
    (below root entries).get? path = entries.get? (root ++ "." ++ path) := by
  induction entries with
  | nil => rfl
  | cons e rest ih =>
    obtain ⟨key, value⟩ := e
    have hkey : behind? (root ++ ".") key = some path ↔ key = root ++ "." ++ path := behind?_eq_some
    simp only [below, List.filterMap_cons, Dict.get?] at ih ⊢
    cases hbehind : behind? (root ++ ".") key with
    | none =>
      rw [hbehind] at hkey
      rw [if_neg fun h => absurd (hkey.2 h) (Option.some_ne_none path).symm]
      exact ih
    | some found =>
      rw [hbehind, Option.some.injEq] at hkey
      simp only [Option.map_some, Dict.get?, hkey, ih]

theorem get?_scope (root : Option String) (entries : Dict String) (path : String) :
    (scope root entries).get? path = entries.get? (keyOf root path) := by
  cases root with
  | none => rfl
  | some r => exact get?_below r entries path

theorem member?_flat (entries : Dict String) (key : String) :
    (flat entries).member? key = (entries.get? key).map .text :=
  Dict.get?_mapValues ..

/-- A text with a separator has more pieces than one. -/
theorem pieces_of_mem {sep : Char} {cs : List Char} (h : sep ∈ cs) :
    ∃ p q ps, Text.pieces sep cs = p :: q :: ps := by
  obtain ⟨a, b, rfl, ha⟩ := List.eq_append_cons_of_mem h
  obtain ⟨q, ps, hrest⟩ := List.exists_cons_of_ne_nil (Text.pieces_ne_nil sep b)
  exact ⟨a, q, ps, by rw [Text.pieces_append_cons ha, hrest]⟩

/-- Texts have no members, so a walk of more than one step leads nowhere. -/
theorem walk_flat {entries : Dict String} {path : String} (h : path.toList.contains '.' = true) :
    walk (flat entries) (segments path) = none := by
  obtain ⟨p, q, ps, hpieces⟩ := pieces_of_mem (List.contains_iff_mem.1 h)
  simp only [segments, hpieces, List.map_cons, walk, member?_flat]
  cases entries.get? (String.ofList p) with
  | none => rfl
  | some s => rfl

theorem reported_flat (entries : Dict String) {path : String} (hpath : path ≠ wholePayload) :
    reported (flat entries) path = (entries.get? path).map .text := by
  unfold reported lookup
  rw [if_neg hpath, member?_flat]
  cases entries.get? path with
  | some s => rfl
  | none =>
    simp only [Option.map_none]
    split
    · next hdots =>
      rw [walk_flat hdots]
      rfl
    · rfl

/-- A root leads to its own object. -/
theorem node_jsonOf {root : Option String} (hroot : root ≠ some wholePayload)
    (entries : Dict String) : node (jsonOf root entries) root = .ok (flat (scope root entries)) := by
  cases root with
  | none => rfl
  | some r =>
    have hr : r ≠ wholePayload := fun h => hroot (congrArg some h)
    simp only [node, jsonOf, reported, lookup, if_neg hr, Json.member?, Dict.get?, if_true]
    rfl

/-! ## One field -/

theorem ofJson?_text (kind : FieldKind) {s : String} (hs : Text.trim s.toList = s.toList) :
    ofJson? kind (.text s) = ofText? kind s := by
  cases kind with
  | binary =>
    simp only [ofJson?, ofText?, hs]
  | integer | decimal | text | boolean => rfl

/-- The same fault of a field, in the words of the two kinds of payload. -/
inductive SameFault (root : Option String) (spec : FieldSpec) :
    NormalizeError → NormalizeError → Prop where
  | missing : SameFault root spec (.missingField spec.channel spec.paths)
      (.missingField spec.channel spec.paths)
  | invalid {path : String} (found : String) (declared : path ∈ spec.paths) :
      SameFault root spec
        (.invalidValue spec.channel (keyOf root path) spec.kind ("'" ++ found ++ "'"))
        (.invalidValue spec.channel path spec.kind ("string '" ++ found ++ "'"))

/-- The same value, or the same fault. -/
def Alike (root : Option String) (spec : FieldSpec)
    (result result' : Except NormalizeError FieldValue) : Prop :=
  (∃ v, result = .ok v ∧ result' = .ok v) ∨
    ∃ e e', result = .error e ∧ result' = .error e' ∧ SameFault root spec e e'

/-- The first path that leads to something does so in both payloads. -/
theorem firstFound_flat (root : Option String) (entries : Dict String) {paths : List String}
    (hpaths : wholePayload ∉ paths) :
    (firstFound entries.get? (paths.map (keyOf root)) = none ∧
        firstFound (reported (flat (scope root entries))) paths = none) ∨
      ∃ path ∈ paths, ∃ key s, (key, s) ∈ entries ∧ key = keyOf root path ∧
        firstFound entries.get? (paths.map (keyOf root)) = some (key, s) ∧
        firstFound (reported (flat (scope root entries))) paths = some (path, .text s) := by
  induction paths with
  | nil => exact .inl ⟨rfl, rfl⟩
  | cons path rest ih =>
    obtain ⟨hpath, hrest⟩ := List.ne_and_not_mem_of_not_mem_cons hpaths
    have hreported := reported_flat (scope root entries) (Ne.symm hpath)
    rw [get?_scope] at hreported
    simp only [List.map_cons, firstFound]
    cases hget : entries.get? (keyOf root path) with
    | some s =>
      rw [hget] at hreported
      simp only [hreported, Option.map_some]
      exact .inr ⟨path, List.mem_cons_self, _, s, Dict.mem_of_get? hget, rfl, rfl, rfl⟩
    | none =>
      rw [hget] at hreported
      simp only [hreported, Option.map_none]
      rcases ih hrest with hnone | ⟨found, hmem, hfound⟩
      · exact .inl hnone
      · exact .inr ⟨found, List.mem_cons_of_mem _ hmem, hfound⟩

theorem alike_field {root : Option String} {entries : Dict String}
    (htrimmed : ∀ e ∈ entries, KeyValue.Trimmed e) {spec : FieldSpec}
    (hpaths : wholePayload ∉ spec.paths) :
    Alike root spec (entryField root entries spec) (jsonField (flat (scope root entries)) spec) := by
  unfold entryField jsonField
  rcases firstFound_flat root entries hpaths with
    ⟨hentry, hjson⟩ | ⟨path, hpath, key, s, hs, rfl, hentry, hjson⟩
  · rw [hentry, hjson]
    simp only [absent]
    split
    · exact .inr ⟨_, _, rfl, rfl, .missing⟩
    · exact .inl ⟨.undefined, rfl, rfl⟩
  · rw [hentry, hjson]
    simp only [ofJson?_text spec.kind (htrimmed _ hs)]
    cases ofText? spec.kind s with
    | some v => exact .inl ⟨v, rfl, rfl⟩
    | none => exact .inr ⟨_, _, rfl, rfl, .invalid s hpath⟩

/-! ## All fields -/

/-- Two ways to find values fail for the same field of a list, the first one that fails. -/
def FailsAlike (root : Option String) (value value' : FieldSpec → Except NormalizeError FieldValue)
    (fields : List FieldSpec) (e e' : NormalizeError) : Prop :=
  ∃ before spec after, fields = before ++ spec :: after ∧
    (∀ earlier ∈ before, ∃ v, value earlier = .ok v ∧ value' earlier = .ok v) ∧
    value spec = .error e ∧ value' spec = .error e' ∧ SameFault root spec e e'

/-- By induction on the fields: up to the first fault the values collected are the same. -/
theorem collect_alike {root : Option String}
    {value value' : FieldSpec → Except NormalizeError FieldValue} {specs : List FieldSpec}
    (h : ∀ spec ∈ specs, Alike root spec (value spec) (value' spec)) (fields : Dict FieldValue) :
    (∃ fields', collect value fields specs = .ok fields' ∧
        collect value' fields specs = .ok fields') ∨
      ∃ e e', collect value fields specs = .error e ∧ collect value' fields specs = .error e' ∧
        FailsAlike root value value' specs e e' := by
  induction specs generalizing fields with
  | nil => exact .inl ⟨fields, rfl, rfl⟩
  | cons spec rest ih =>
    obtain ⟨hspec, hrest⟩ := List.forall_mem_cons.1 h
    simp only [collect]
    rcases hspec with ⟨v, hv, hv'⟩ | ⟨e, e', he, he', hsame⟩
    · rw [hv, hv']
      rcases ih hrest (fields.insert spec.channel v) with
        hok | ⟨e, e', hcollect, hcollect', before, faulty, after, rfl, hbefore, hfaulty⟩
      · exact .inl hok
      · refine .inr ⟨e, e', hcollect, hcollect', spec :: before, faulty, after, rfl, ?_, hfaulty⟩
        exact List.forall_mem_cons.2 ⟨⟨v, hv, hv'⟩, hbefore⟩
    · rw [he, he']
      refine .inr ⟨e, e', rfl, rfl, [], spec, rest, rfl, ?_, he, he', hsame⟩
      exact fun earlier hearlier => absurd hearlier List.not_mem_nil

end Normalize

open Normalize (entryField jsonField flat scope jsonOf FailsAlike)

/-! ## The payloads -/

/-- A schema that looks for fields in a payload, not for the payload, and asks for nothing else. -/
structure Schema.FieldsOnly (schema : Schema) : Prop where
  root : schema.root ≠ some wholePayload
  online : schema.onlineField = none
  paths : ∀ spec ∈ schema.fields, wholePayload ∉ spec.paths

/-- What some entries come to, and the JSON payload that says the same: one snapshot, or two errors
that blame the same field for the same fault. -/
inductive Normalize.Agree (schema : Schema) (entries : Dict String) :
    Except NormalizeError Snapshot → Except NormalizeError Snapshot → Prop where
  | snapshot (s : Snapshot) : Agree schema entries (.ok s) (.ok s)
  | fault {e e' : NormalizeError}
      (same : FailsAlike schema.root (entryField schema.root entries)
        (jsonField (flat (scope schema.root entries))) schema.fields e e') :
      Agree schema entries (.error e) (.error e')

theorem keyValue_agrees_json {text : String} {entries : Dict String}
    (hparse : KeyValue.parse text = .ok entries) {schema : Schema} (hschema : schema.FieldsOnly)
    (identity : Identity) (capturedAt : Instant) :
    Normalize.Agree schema entries (normalize (.keyValue entries) schema identity capturedAt)
      (normalize (.json (jsonOf schema.root entries)) schema identity capturedAt) := by
  have hfields : ∀ spec ∈ schema.fields, Normalize.Alike schema.root spec
      (entryField schema.root entries spec) (jsonField (flat (scope schema.root entries)) spec) :=
    fun spec hspec =>
      Normalize.alike_field (KeyValue.trimmed_of_parse hparse) (hschema.paths spec hspec)
  simp only [normalize, Normalize.fieldsAndFlag, Normalize.node_jsonOf hschema.root, hschema.online,
    Normalize.onlineFlag, bind, Except.bind]
  rcases Normalize.collect_alike hfields [] with
    ⟨fields, hentry, hjson⟩ | ⟨e, e', hentry, hjson, hsame⟩
  · rw [hentry, hjson]
    exact .snapshot _
  · rw [hentry, hjson]
    exact .fault hsame

/-- A heater whose fields stand below a root. -/
def heaterSchema : Schema := ⟨some "unit", none, [⟨"level", ["state.level"], .integer, true⟩,
  ⟨"power", ["power", "state.on"], .boolean, true⟩]⟩

/-- Both payloads of a heater that is neither on nor off blame its power. -/
theorem keyValue_agrees_json_heater :
    let entries : Dict String := [("unit.state.level", "3.0"), ("unit.state.on", "maybe")]
    let heater : Identity := ⟨"hub", "d", "heater"⟩
    KeyValue.parse "unit.state.on = maybe\n\nunit.state.level = 3.0\n" = .ok entries ∧
      heaterSchema.FieldsOnly ∧
      Normalize.Agree heaterSchema entries
        (.error (.invalidValue "power" "unit.state.on" .boolean "'maybe'"))
        (.error (.invalidValue "power" "state.on" .boolean "string 'maybe'")) ∧
      normalize (.json (jsonOf heaterSchema.root entries)) heaterSchema heater .epoch =
        .error (.invalidValue "power" "state.on" .boolean "string 'maybe'") := by
  intro entries heater
  have hparse : KeyValue.parse "unit.state.on = maybe\n\nunit.state.level = 3.0\n" = .ok entries := by
    rfl
  have hschema : heaterSchema.FieldsOnly := ⟨by decide, rfl, by decide⟩
  have hagree := keyValue_agrees_json hparse hschema heater .epoch
  have hentry : normalize (.keyValue entries) heaterSchema heater .epoch =
      .error (.invalidValue "power" "unit.state.on" .boolean "'maybe'") := by
    decide +kernel
  have hjson : normalize (.json (jsonOf heaterSchema.root entries)) heaterSchema heater .epoch =
      .error (.invalidValue "power" "state.on" .boolean "string 'maybe'") := by
    decide +kernel
  rw [hentry, hjson] at hagree
  exact ⟨hparse, hschema, hagree, hjson⟩

end DeviceHub
