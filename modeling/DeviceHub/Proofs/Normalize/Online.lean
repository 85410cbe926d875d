import DeviceHub.Proofs.Normalize.Channels
import Mathlib.Data.List.Forall2

/-!
# Whether a device is online

A schema may name the place at which a vendor says whether a device can be reached. In a JSON payload
what stands there is what the snapshot says, a device of which nothing is said is online, and a
payload with something else there has no snapshot. Among key=value entries nobody looks: the device is
online whatever they say, so what they say counts exactly when it is yes (`online_heeded`).

* `Spells`: what spells a truth value.
* `boolOfJson?_eq_some`: that is what is read as one.
* `Payload.flag?`: what a payload says of the device being reachable, where the schema has it.
* `normalize_json_eq_ok`, `normalize_online_of_ne_json`: what becomes of it in a JSON payload and in
  others.
-/
namespace DeviceHub

namespace Normalize

/-! ## Spellings -/

/-- The words for a truth value. -/
def words : Bool → List String
  | true => ["true", "1", "on"]
  | false => ["false", "0", "off"]

/-- A text is a word, each letter small or capital. -/
def IsWord (s w : List Char) : Prop := List.Forall₂ (fun c d => c = d ∨ c = d.toUpper) s w

/-- What spells a truth value: the value itself, one or zero, and a word with blanks around it. -/
inductive Spells : Json → Bool → Prop
  | value (b : Bool) : Spells (.bool b) b
  | one : Spells (Json.integer 1) true
  | zero : Spells (Json.integer 0) false
  | word {s w : String} {b : Bool} (hw : w ∈ words b) (h : IsWord (Text.trim s.toList) w.toList) :
    Spells (.text s) b

theorem toLower_eq_iff {c d : Char} (hd : ¬d.isUpper = true) :
    c.toLower = d ↔ c = d ∨ c = d.toUpper := by
  unfold Char.isUpper at hd
  unfold Char.toLower Char.toUpper
  simp only [← Char.val_inj] at *
  -- both case maps add or take away 32, which turns letters into letters only
  split <;> split <;> grind

theorem asciiLower_eq_iff {s w : List Char} (hw : ∀ d ∈ w, ¬d.isUpper = true) :
    Text.asciiLower s = w ↔ IsWord s w := by
  unfold Text.asciiLower IsWord
  induction w generalizing s with
  | nil => simp
  | cons d w ih =>
    obtain ⟨hd, hw⟩ := List.forall_mem_cons.1 hw
    cases s with
    | nil => simp
    | cons c s => rw [List.map_cons, List.cons.injEq, toLower_eq_iff hd, ih hw, List.forall₂_cons]

theorem isUpper_of_words {b : Bool} {w : String} (hw : w ∈ words b) :
    ∀ d ∈ w.toList, ¬d.isUpper = true := by
  cases b <;> simp only [words, List.mem_cons, List.not_mem_nil, or_false] at hw <;>
    rcases hw with rfl | rfl | rfl <;> simp

theorem boolOfText?_eq_some {s : String} {b : Bool} :
    boolOfText? s = some b ↔ ∃ w ∈ words b, IsWord (Text.trim s.toList) w.toList := by
  have hword : ∀ w ∈ words b, (IsWord (Text.trim s.toList) w.toList ↔
      String.ofList (Text.asciiLower (Text.trim s.toList)) = w) := by
    intro w hw
    rw [← asciiLower_eq_iff (isUpper_of_words hw), ← String.toList_inj, String.toList_ofList]
  have hmem : (∃ w ∈ words b, IsWord (Text.trim s.toList) w.toList) ↔
      String.ofList (Text.asciiLower (Text.trim s.toList)) ∈ words b := by
    constructor
    · rintro ⟨w, hw, h⟩
      rwa [(hword w hw).1 h]
    · exact fun h => ⟨_, h, (hword _ h).2 rfl⟩
  rw [hmem]
  unfold boolOfText?
  generalize String.ofList (Text.asciiLower (Text.trim s.toList)) = word
  cases b <;> simp only [words, List.mem_cons, List.not_mem_nil, or_false]
  · split
    · next h => rcases h with rfl | rfl | rfl <;> simp
    · split
      · next h => simp [h]
      · next h => simp [h]
  · split
    · next h => simp [h]
    · next h => split <;> simp [h]

theorem boolOfJson?_eq_some {v : Json} {b : Bool} : boolOfJson? v = some b ↔ Spells v b := by
  constructor
  · intro h
    unfold boolOfJson? at h
    split at h
    · cases h
      exact .value b
    · next n =>
      have hn : ∀ k, n.int64? = some k → n = .integer k := by
        intro k hk
        cases n with
        | integer m =>
          simp only [Json.Number.int64?] at hk
          split at hk
          · cases hk
            rfl
          · cases hk
        | decimal x => cases hk
      split at h
      · next hone =>
        cases h
        rw [hn _ hone]
        exact .one
      · next hzero =>
        cases h
        rw [hn _ hzero]
        exact .zero
      · cases h
    · obtain ⟨w, hw, hword⟩ := boolOfText?_eq_some.1 h
      exact .word hw hword
    · cases h
  · intro h
    cases h with
    | value | one | zero => rfl
    | word hw hword => exact boolOfText?_eq_some.2 ⟨_, hw, hword⟩

theorem boolOfJson?_eq_none {v : Json} : boolOfJson? v = none ↔ ∀ b, ¬Spells v b := by
  simp only [Option.eq_none_iff_forall_ne_some, ne_eq, boolOfJson?_eq_some]

/-! ## The flag of a JSON payload -/

theorem onlineFlag_eq_ok {n : Json} {field : Option String} {online : Bool} :
    onlineFlag n field = .ok online ↔
      match field.bind (reported n) with
      | some flag => Spells flag online
      | none => online = true := by
  cases field with
  | none => simp [onlineFlag, eq_comm]
  | some path =>
    simp only [onlineFlag, Option.bind_some]
    cases reported n path with
    | none => simp [eq_comm]
    | some flag =>
      simp only [← boolOfJson?_eq_some]
      cases boolOfJson? flag <;> simp

end Normalize

open Normalize (Spells node reported keyOf describe)

/-! ## What a payload says -/

/-- What a payload holds, other than null, at the place where the schema has the device's being
reachable: below the root like the fields. Bytes say nothing. -/
def Payload.flag? (schema : Schema) (payload : Payload) : Option Json :=
  schema.onlineField.bind fun path =>
    match payload with
    | .json v =>
      match node v schema.root with
      | .ok n => reported n path
      | .error _ => none
    | .keyValue entries => (entries.get? (keyOf schema.root path)).map .text
    | .binary .. => none

/-- A device is as reachable as its payload says; one of which it says nothing is online. -/
def Payload.Tells (payload : Payload) (schema : Schema) (online : Bool) : Prop :=
  match payload.flag? schema with
  | some flag => Spells flag online
  | none => online = true

/-- Entries say something else than that the device is online. -/
def Payload.Overlooked (schema : Schema) : Payload → Prop
  | .keyValue entries =>
    ∃ flag, Payload.flag? schema (.keyValue entries) = some flag ∧ ¬Spells flag true
  | .json _ | .binary .. => False

variable {schema : Schema} {identity : Identity} {capturedAt : Instant} {s : Snapshot}

theorem tells_of_node {v n : Json} (hn : node v schema.root = .ok n) {online : Bool} :
    Payload.Tells (.json v) schema online ↔
      Normalize.onlineFlag n schema.onlineField = .ok online := by
  have hflag : (Payload.json v).flag? schema = schema.onlineField.bind (reported n) := by
    simp only [Payload.flag?, hn]
  simp only [Payload.Tells, hflag, Normalize.onlineFlag_eq_ok]

/-- A JSON payload has a snapshot when it has one for a schema that does not ask whether the device is
online, and the snapshot says of that what the payload says. -/
theorem normalize_json_eq_ok {v : Json} :
    normalize (.json v) schema identity capturedAt = .ok s ↔
      Payload.Tells (.json v) schema s.online ∧
        normalize (.json v) { schema with onlineField := none } identity capturedAt =
          .ok { s with online := true } := by
  cases hn : node v schema.root with
  | error e => simp [normalize, Normalize.fieldsAndFlag, hn, bind, Except.bind]
  | ok n =>
    have hplain : node v ({ schema with onlineField := none } : Schema).root = .ok n := hn
    rw [tells_of_node hn, normalize_of_node hn, normalize_of_node hplain]
    cases Normalize.onlineFlag n schema.onlineField with
    | error e => simp [Except.bind]
    | ok online =>
      cases Normalize.collect (Normalize.jsonField n) [] schema.fields with
      | error e => simp [Except.bind, Except.map, Normalize.onlineFlag]
      | ok fields =>
        obtain ⟨device, deviceType, time, values, isOnline⟩ := s
        simp only [Except.bind, Except.map, Except.ok.injEq, Snapshot.mk.injEq,
          Normalize.onlineFlag, and_true]
        constructor
        · rintro ⟨hdevice, htype, htime, hvalues, honline⟩
          exact ⟨honline, hdevice, htype, htime, hvalues⟩
        · rintro ⟨honline, hdevice, htype, htime, hvalues⟩
          exact ⟨hdevice, htype, htime, hvalues, honline⟩

theorem normalize_json_refuses {v : Json} {path : String} {flag : Json}
    (hpath : schema.onlineField = some path) (hflag : (Payload.json v).flag? schema = some flag)
    (hspells : ∀ b, ¬Spells flag b) : normalize (.json v) schema identity capturedAt =
      .error (.invalidValue "online" path .boolean (describe flag)) := by
  simp only [Payload.flag?, hpath, Option.bind_some] at hflag
  split at hflag
  · next n hn =>
    rw [normalize_of_node hn, hpath]
    simp only [Normalize.onlineFlag, hflag, Normalize.boolOfJson?_eq_none.2 hspells]
    rfl
  · cases hflag

/-- Only a JSON payload can make a device be offline. -/
theorem normalize_online_of_ne_json {payload : Payload} (hpayload : ∀ v, payload ≠ .json v)
    (h : normalize payload schema identity capturedAt = .ok s) : s.online = true := by
  obtain ⟨fields, online, hfields, rfl⟩ := normalize_eq_ok.1 h
  cases payload with
  | json v => exact absurd rfl (hpayload v)
  | keyValue | binary =>
    simp only [Normalize.fieldsAndFlag, bind, Except.bind] at hfields
    split at hfields
    · cases hfields
    · cases hfields
      rfl

/-! ## What a snapshot says -/

/-- How a payload's word on its device being reachable is kept: a snapshot says the same unless entries
were overlooked, and in a JSON payload the word is all that the online field adds. -/
structure Payload.Heeded (payload : Payload) (schema : Schema) (identity : Identity)
    (capturedAt : Instant) : Prop where
  told : ∀ s, normalize payload schema identity capturedAt = .ok s →
    (payload.Tells schema s.online ↔ ¬payload.Overlooked schema)
  refused : ∀ v path flag, payload = .json v → schema.onlineField = some path →
    payload.flag? schema = some flag → (∀ b, ¬Spells flag b) →
      normalize payload schema identity capturedAt =
        .error (.invalidValue "online" path .boolean (describe flag))
  added : ∀ v s, payload = .json v → (normalize payload schema identity capturedAt = .ok s ↔
    payload.Tells schema s.online ∧
      normalize payload { schema with onlineField := none } identity capturedAt =
        .ok { s with online := true })

theorem online_heeded (payload : Payload) (schema : Schema) (identity : Identity)
    (capturedAt : Instant) : payload.Heeded schema identity capturedAt where
  told s h := by
    cases payload with
    | json v => simp only [Payload.Overlooked, not_false_iff, (normalize_json_eq_ok.1 h).1]
    | keyValue entries =>
      rw [normalize_online_of_ne_json (fun v => by simp) h]
      unfold Payload.Tells Payload.Overlooked
      cases hflag : (Payload.keyValue entries).flag? schema <;> simp [hflag]
    | binary mediaType data =>
      rw [normalize_online_of_ne_json (fun v => by simp) h]
      cases hfield : schema.onlineField <;>
        simp [Payload.Tells, Payload.Overlooked, Payload.flag?, hfield]
  refused := by
    rintro v path flag rfl hpath hflag hspells
    exact normalize_json_refuses hpath hflag hspells
  added := by
    rintro v s rfl
    exact normalize_json_eq_ok

/-- A camera with its state below a root. -/
def cameraSchema : Schema :=
  ⟨some "unit", some "net.up", [⟨"name", ["name"], .text, true⟩]⟩

/-- A JSON payload of a camera that is offline, in capitals and with a blank. -/
theorem online_heeded_camera :
    let v : Json := .object [("unit", .object [("name", .text "Gate"),
      ("net", .object [("up", .text " OFF")])])]
    let s : Snapshot := ⟨"c1", "camera", .epoch, [("name", .text "Gate")], false⟩
    normalize (.json v) cameraSchema ⟨"hub", "c1", "camera"⟩ .epoch = .ok s ∧
      Payload.Tells (.json v) cameraSchema s.online ∧ Spells (.text " OFF") false := by
  intro v s
  have hs : normalize (.json v) cameraSchema ⟨"hub", "c1", "camera"⟩ .epoch = .ok s := by rfl
  have hheeded := online_heeded (.json v) cameraSchema ⟨"hub", "c1", "camera"⟩ .epoch
  exact ⟨hs, (hheeded.told s hs).2 not_false, Normalize.boolOfJson?_eq_some.1 (by rfl)⟩

/-- The same camera with key=value lines counts as online. -/
theorem online_overlooked :
    let payload : Payload := .keyValue [("unit.name", "Gate"), ("unit.net.up", "off")]
    ∃ s, normalize payload cameraSchema ⟨"hub", "c1", "camera"⟩ .epoch = .ok s ∧
      s.online = true ∧ Spells (.text "off") false ∧
      payload.flag? cameraSchema = some (.text "off") ∧ ¬payload.Tells cameraSchema s.online := by
  intro payload
  have hoff : Spells (.text "off") false := Normalize.boolOfJson?_eq_some.1 (by rfl)
  refine ⟨⟨"c1", "camera", .epoch, [("name", .text "Gate")], true⟩, by rfl, rfl, hoff, by rfl, ?_⟩
  intro htells
  have hon : Spells (.text "off") true := htells
  have hread := Normalize.boolOfJson?_eq_some.2 hon
  rw [Normalize.boolOfJson?_eq_some.2 hoff] at hread
  cases hread

end DeviceHub
