import DeviceHub.Proofs.Json.Integers
import DeviceHub.Proofs.Normalize.Channels
import DeviceHub.Proofs.Text.Trimming

/-!
# Integers in payloads

Vendors send an integer as a JSON number, as a JSON text or in a key=value entry. A field of integers
takes each of them alike: one that fits 64 bits with sign comes through as it is, and every other one is
refused. Reading a numeral as binary64 is the second try, for decimals without a fraction. An integer
that the first try refused does not slip through there: rounded or not it is at least `2 ^ 60`, and the
second try takes nothing so large.

* `integral?_of_large`: the second try refuses what is large.
* `integerOfText?_toString`, `integerOfNumber?_of_read?`: what comes of a numeral.
* `Given`: the ways in which a payload gives an integer for a field.
* `normalize_integer`: what comes of the payload.
-/
namespace DeviceHub

/-! ## Blanks -/

namespace Text

theorem isBlank_of_isDigit {c : Char} (h : Decimal.isDigit c = true) : isBlank c = false := by
  have hdigit : 48 ≤ c.toNat ∧ c.toNat ≤ 57 := by
    simpa [Decimal.isDigit, Char.le_def, UInt32.le_iff_toNat_le] using h
  simp only [isBlank, Bool.or_eq_false_iff, Bool.and_eq_false_iff, decide_eq_false_iff_not,
    beq_eq_false_iff_ne]
  omega

end Text

namespace Normalize

/-- A text holds an integer: its numeral, and at most blanks around it. -/
def Holds (z : Int) (s : String) : Prop :=
  ∃ before after : List Char, before.all Text.isBlank = true ∧ after.all Text.isBlank = true ∧
    s.toList = before ++ (toString z).toList ++ after

theorem trim_of_holds {z : Int} {s : String} (h : Holds z s) :
    Text.trim s.toList = (toString z).toList := by
  obtain ⟨before, after, hbefore, hafter, hs⟩ := h
  have hdigits : ∀ c ∈ Nat.toDigits 10 z.natAbs, Text.isBlank c = false := fun c hc =>
    Text.isBlank_of_isDigit (Decimal.isDigit_of_mem_toDigits hc)
  rw [hs, Text.trim_append_of_all hafter, Text.trim_of_all_append hbefore]
  refine Text.trim_of_forall ?_
  rw [Decimal.toList_toString]
  split
  · exact List.forall_mem_cons.2 ⟨by decide, hdigits⟩
  · exact hdigits

/-! ## Numerals -/

/-- The magnitudes from `2 ^ 60` on are no integers for a channel, with a fraction or without. -/
theorem integral?_of_large {negative : Bool} {m : Magnitude} (h : 2 ^ 60 * Magnitude.one ≤ m.units) :
    integral? (.finite negative m) = none := by
  rw [integral?, Option.filter_eq_none_iff]
  intro n hn
  obtain ⟨k, hk, rfl⟩ := Option.map_eq_some_iff.1 hn
  obtain ⟨whole, hwhole, hcast⟩ := Option.bind_eq_some_iff.1 hk
  cases hcast
  have hlarge : 2 ^ 60 ≤ whole := by
    unfold Magnitude.toNat? at hwhole
    split at hwhole
    · cases hwhole
      exact (Nat.le_div_iff_mul_le Magnitude.one_pos).2 h
    · cases hwhole
  intro hbound
  have hbounds := of_decide_eq_true hbound
  unfold integralBound at hbounds
  split at hbounds <;> omega

theorem integral?_ofMagnitude? {negative : Bool} {o : Option Magnitude}
    (h : ∀ m, o = some m → 2 ^ 60 * Magnitude.one ≤ m.units) :
    integral? (.ofMagnitude? negative o) = none := by
  cases o with
  | none => rfl
  | some m => exact integral?_of_large (h m rfl)

variable {z : Int}

theorem fitsInt64_iff :
    Decimal.fitsInt64 z = true ↔ -0x8000000000000000 ≤ z ∧ z ≤ 0x7fffffffffffffff := by
  simp [Decimal.fitsInt64]

theorem two_pow_le_natAbs (h : ¬Decimal.fitsInt64 z = true) : 2 ^ 60 ≤ z.natAbs := by
  rw [fitsInt64_iff] at h
  omega

theorem integerOfText?_toString (z : Int) : integerOfText? (toString z).toList =
    if Decimal.fitsInt64 z then some z else none := by
  by_cases hfits : Decimal.fitsInt64 z = true
  · simp only [integerOfText?, Decimal.readInt64?, Decimal.readInt?_toString, Option.filter_some,
      if_pos hfits]
  · have hlarge : ∀ m, (⟨z.natAbs, 0⟩ : Scientific).magnitude? = some m →
        2 ^ 60 * Magnitude.one ≤ m.units := fun m hm =>
      Scientific.two_pow_le_magnitude? hm (two_pow_le_natAbs hfits)
    simp only [integerOfText?, Decimal.readInt64?, Decimal.readInt?_toString, Option.filter_some,
      Decimal.read?_toString, Option.bind_some, if_neg hfits]
    exact integral?_ofMagnitude? hlarge

theorem read?_of_fits (h : Decimal.fitsInt64 z = true) :
    Json.read? (toString z) = some (.integer z) := by
  have hbounds := fitsInt64_iff.1 h
  rw [Json.read?_toString, Json.Numeral.number?_ofInt hbounds.1 (by omega)]
  rfl

theorem integerOfNumber?_integer (z : Int) : integerOfNumber? (.integer z) =
    if Decimal.fitsInt64 z then some z else none := by
  by_cases hfits : Decimal.fitsInt64 z = true
  · simp [integerOfNumber?, Json.Number.int64?, fitsInt64_iff.1 hfits, hfits]
  · have hlarge : ∀ m, Magnitude.ofNat z.natAbs = some m → 2 ^ 60 * Magnitude.one ≤ m.units :=
      fun m hm => Magnitude.two_pow_le_ofNat hm (two_pow_le_natAbs hfits)
    simp only [integerOfNumber?, Json.Number.int64?, if_neg (mt fitsInt64_iff.2 hfits), if_neg hfits]
    exact integral?_ofMagnitude? hlarge

/-- An integer is read as itself, rounded to binary64, or not at all. -/
theorem integerOfNumber?_of_read? {n : Json.Number} (h : Json.read? (toString z) = some (.number n)) :
    integerOfNumber? n = if Decimal.fitsInt64 z then some z else none := by
  rw [Json.read?_toString] at h
  obtain ⟨n', hn', hnumber⟩ := Option.map_eq_some_iff.1 h
  cases hnumber
  by_cases hbounds : -0x8000000000000000 ≤ z ∧ z ≤ 0xffffffffffffffff
  · rw [Json.Numeral.number?_ofInt hbounds.1 hbounds.2] at hn'
    cases hn'
    exact integerOfNumber?_integer z
  · obtain ⟨negative, m, rfl, hm⟩ := Json.Numeral.two_pow_le_number?_ofInt hn' (by omega)
    have hfits : ¬Decimal.fitsInt64 z = true := by
      rw [fitsInt64_iff]
      omega
    rw [if_neg hfits]
    exact integral?_of_large hm

/-! ## Values -/

/-- A JSON value stands for an integer: a number whose token is the numeral, or a text that holds
it. -/
inductive Denotes (z : Int) : Json → Prop where
  | token {n : Json.Number} (h : Json.read? (toString z) = some (.number n)) : Denotes z (.number n)
  | text {s : String} (h : Holds z s) : Denotes z (.text s)

theorem ofText?_of_holds {s : String} (h : Holds z s) :
    ofText? .integer s = if Decimal.fitsInt64 z then some (.integer z) else none := by
  simp only [ofText?, trim_of_holds h, integerOfText?_toString]
  split <;> rfl

theorem ofJson?_of_denotes {v : Json} (h : Denotes z v) :
    ofJson? .integer v = if Decimal.fitsInt64 z then some (.integer z) else none := by
  cases h with
  | token hread =>
    simp only [ofJson?, integerOfNumber?_of_read? hread]
    split <;> rfl
  | text hholds => exact ofText?_of_holds hholds

/-- A payload gives an integer for a field: at a place, and under a name by which messages call what
was found there. -/
inductive Given (schema : Schema) (spec : FieldSpec) (z : Int) : Payload → String → String → Prop where
  | json {v n found : Json} {path : String} (hnode : node v schema.root = .ok n)
    (hfound : firstFound (reported n) spec.paths = some (path, found)) (hz : Denotes z found) :
    Given schema spec z (.json v) path (describe found)
  | entry {entries : Dict String} {key s : String}
    (hfound : firstFound entries.get? (spec.paths.map (keyOf schema.root)) = some (key, s))
    (hz : Holds z s) : Given schema spec z (.keyValue entries) key ("'" ++ s ++ "'")

variable {schema : Schema} {spec : FieldSpec} {payload : Payload} {place found : String}

theorem converted_integer (hkind : spec.kind = .integer) :
    converted spec place found (if Decimal.fitsInt64 z then some (.integer z) else none) =
      if Decimal.fitsInt64 z then .ok (.integer z)
      else .error (.invalidValue spec.channel place .integer found) := by
  split
  · rfl
  · rw [converted, hkind]

theorem field_of_given (hkind : spec.kind = .integer) (h : Given schema spec z payload place found) :
    ∃ value, Reads schema payload value ∧
      value spec = if Decimal.fitsInt64 z then .ok (.integer z)
        else .error (.invalidValue spec.channel place .integer found) := by
  cases h with
  | json hnode hfound hz =>
    refine ⟨_, .json hnode, ?_⟩
    simp only [jsonField, hfound, hkind, ofJson?_of_denotes hz, converted_integer hkind]
  | entry hfound hz =>
    refine ⟨_, .keyValue _, ?_⟩
    simp only [entryField, hfound, hkind, ofText?_of_holds hz, converted_integer hkind]

end Normalize

open Normalize (Given Holds describe)

variable {schema : Schema} {spec : FieldSpec} {payload : Payload} {place found : String} {z : Int}

/-- A field of integers that a payload gives an integer for. One that fits is taken as it is: its token
is read as it, the field is no reason for the payload to be refused, and its channel has the integer
unless a later field takes the channel. One that does not fit is refused as soon as the fields before
are in order. -/
theorem normalize_integer {before after : List FieldSpec}
    (hfields : schema.fields = before ++ spec :: after) (hkind : spec.kind = .integer)
    (hgiven : Given schema spec z payload place found) (identity : Identity) (capturedAt : Instant) :
    (Decimal.fitsInt64 z = true →
      Json.read? (toString z) = some (.integer z) ∧
      (∀ e, normalize payload schema identity capturedAt = .error e ↔
        normalize payload { schema with fields := before ++ after } identity capturedAt = .error e) ∧
      ∀ s, normalize payload schema identity capturedAt = .ok s →
        (∀ later ∈ after, later.channel ≠ spec.channel) →
        s.fields.get? spec.channel = some (.integer z)) ∧
    (Decimal.fitsInt64 z = false →
      normalize payload schema identity capturedAt =
        (normalize payload { schema with fields := before } identity capturedAt).bind fun _ =>
          .error (.invalidValue spec.channel place .integer found)) := by
  obtain ⟨value, hreads, hvalue⟩ := Normalize.field_of_given hkind hgiven
  obtain ⟨flag, hrun⟩ := normalize_of_reads hreads identity capturedAt
  have hwhole : normalize payload schema identity capturedAt = _ := hrun schema.fields
  rw [hfields] at hwhole
  rw [hwhole, hrun, hrun]
  constructor
  · intro hfits
    rw [hfits] at hvalue
    refine ⟨Normalize.read?_of_fits hfits, fun e => ?_, fun s hs hlater => ?_⟩
    · cases flag with
      | error e' => rfl
      | ok online =>
        simp only [Except.bind, Normalize.map_eq_error, Normalize.collect_found_eq_error hvalue]
    · cases flag with
      | error e => cases hs
      | ok online =>
        obtain ⟨fields, hcollect, rfl⟩ := Normalize.map_eq_ok.1 hs
        exact Normalize.collect_found_get? hvalue hcollect hlater
  · intro hfits
    rw [hfits] at hvalue
    rw [Normalize.collect_failed hvalue]
    cases flag with
    | error e => rfl
    | ok online => cases Normalize.collect value [] before <;> rfl

/-- A counter below a root, which may be given in two places. -/
def counterSchema : Schema := ⟨some "unit", none, [⟨"count", ["stat.count", "total"], .integer, true⟩,
  ⟨"name", ["name"], .text, false⟩]⟩

/-- The least integer comes through as a number. The one after the greatest is refused as a text with
blanks, and the one before the least is refused in an entry. -/
theorem normalize_integer_counter :
    let spec : FieldSpec := ⟨"count", ["stat.count", "total"], .integer, true⟩
    let least : Json := .object [("unit", .object [("stat",
      .object [("count", .integer (-9223372036854775808))])])]
    let above : Json := .object [("unit", .object [("total", .text " 9223372036854775808\n")])]
    let below : Dict String := [("unit.total", "-9223372036854775809")]
    let counter : Identity := ⟨"hub", "c1", "counter"⟩
    Given counterSchema spec (-9223372036854775808) (.json least) "stat.count"
        "number -9223372036854775808" ∧
      (∀ s, normalize (.json least) counterSchema counter .epoch = .ok s →
        s.fields.get? "count" = some (.integer (-9223372036854775808))) ∧
      normalize (.json above) counterSchema counter .epoch =
        .error (.invalidValue "count" "total" .integer "string ' 9223372036854775808\n'") ∧
      normalize (.keyValue below) counterSchema counter .epoch =
        .error (.invalidValue "count" "unit.total" .integer "'-9223372036854775809'") := by
  intro spec least above below counter
  have hfields : counterSchema.fields = [] ++ spec :: [⟨"name", ["name"], .text, false⟩] := rfl
  have hleast : Given counterSchema spec (-9223372036854775808) (.json least) "stat.count"
      "number -9223372036854775808" :=
    .json rfl rfl (.token (Normalize.read?_of_fits (by decide)))
  have hpadded : Holds 9223372036854775808 " 9223372036854775808\n" :=
    ⟨[' '], ['\n'], by decide, by decide, by rfl⟩
  have habove : Given counterSchema spec 9223372036854775808 (.json above) "total"
      "string ' 9223372036854775808\n'" := .json rfl rfl (.text hpadded)
  have hbare : Holds (-9223372036854775809) "-9223372036854775809" :=
    ⟨[], [], by decide, by decide, by rfl⟩
  have hbelow : Given counterSchema spec (-9223372036854775809) (.keyValue below) "unit.total"
      "'-9223372036854775809'" := .entry rfl hbare
  refine ⟨hleast, fun s hs => ?_, ?_, ?_⟩
  · exact ((normalize_integer hfields rfl hleast counter .epoch).1 (by decide)).2.2 s hs (by decide)
  · exact (normalize_integer hfields rfl habove counter .epoch).2 (by decide)
  · exact (normalize_integer hfields rfl hbelow counter .epoch).2 (by decide)

end DeviceHub
