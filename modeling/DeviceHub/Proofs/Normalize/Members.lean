import DeviceHub.Proofs.Normalize.Edits

/-!
# Members that do not count

Vendors send more than a schema asks for, and send null for what they do not know. A member under a key
that no lookup of a schema can ask for changes nothing, wherever in a payload it is added and whatever
it holds (`normalize_gained`). A null changes nothing where it stands, and may as well be left out,
with one exception (`normalize_dropped`): since a path is tried as a key before it is walked, a null
under a whole path hides what the segments of the path lead to, and comes out when the null is taken
away.

* `Gains`, `Drops`: a member is added to an object, a null is taken away from one.
* `Uncovers`: taking a null away lets a path lead to a value.
* `null_hides`: a null that is not the same as nothing.
-/
namespace DeviceHub

namespace Json

/-- A member is put into an object. -/
def Gains (key : String) (value : Json) (ms ns : Dict Json) : Prop := ns = ms.insert key value

/-- A member that is null is taken away from an object. -/
def Drops (key : String) (ms ns : Dict Json) : Prop := ms.get? key = some .null ∧ ns = ms.erase key

variable {E : Dict Json → Dict Json → Prop} {v w value : Json} {key other : String}

theorem keeps_gains (h : key ≠ other) : Keeps (Gains key value) other := by
  rintro ms ns rfl
  rw [Dict.get?_insert, if_neg h]

theorem keeps_drops : Keeps (Drops key) other := by
  rintro ms ns ⟨hnull, rfl⟩
  rw [Dict.get?_erase]
  split
  · next hkey =>
    rw [← hkey, hnull]
    rfl
  · rfl

/-- What a change makes of there being a member under a key, it makes of it in the whole value. -/
theorem Like.isSome_member? {R : Bool → Bool → Prop} (hrefl : ∀ b, R b b)
    (hE : ∀ ms ns, E ms ns → R (ms.get? other).isSome (ns.get? other).isSome) (h : Like E v w) :
    R (v.member? other).isSome (w.member? other).isSome := by
  rcases h with rfl | h
  · exact hrefl _
  · cases h with
    | object h => exact hE _ _ h
    | item => exact hrefl _
    | member before after k h =>
      simp only [Json.member?, Dict.get?_append, Dict.get?]
      cases Dict.get? before other with
      | some found => exact hrefl _
      | none => split <;> exact hrefl _

end Json

open Json (Edited Like Gains Drops)
open Normalize (Steady node walk segments)

variable {v w value : Json} {schema : Schema} {key path : String}

/-! ## Members that are not asked for -/

theorem steady_of_gains (h : Like (Gains key value) v w) (hpath : key ≠ path) :
    Steady v w path := by
  refine .inr (.inl (h.isSome_member? (fun _ => rfl) ?_))
  rintro ms ns rfl
  rw [Dict.get?_insert, if_neg hpath]

/-- Data that a schema does not ask for is ignored at any depth. -/
theorem normalize_gained (h : Edited (Gains key value) v w) (hkey : ¬schema.Asks key)
    (identity : Identity) (capturedAt : Instant) :
    normalize (.json w) schema identity capturedAt =
      normalize (.json v) schema identity capturedAt := by
  have hne : ∀ other, schema.Asks other → key ≠ other := by
    rintro other hother rfl
    exact hkey hother
  have hpath : ∀ path ∈ schema.lookupPaths, key ≠ path := fun path hpath =>
    hne path ⟨path, hpath, .inl rfl⟩
  refine (normalize_like (.inr h) (fun other hother => Json.keeps_gains (hne other hother)) ?_ ?_
    identity capturedAt).symm
  · intro path hroot
    exact steady_of_gains (.inr h) (hpath path (List.mem_append_left _ (Option.mem_toList.2 hroot)))
  · intro n n' hlike _ _ path hinner
    exact steady_of_gains hlike (hpath path (List.mem_append_right _ hinner.mem))

/-- A pump with its level inside its tank. -/
def pumpSchema : Schema :=
  ⟨some "unit", some "up", [⟨"level", ["tank.level", "fill"], .integer, true⟩]⟩

/-- Two levels below the payload, beside the value of the channel. -/
theorem normalize_gained_tank :
    let v : Json := .object [("unit", .object [("tank", .object [("level", .text "5")])])]
    let w : Json := .object [("unit", .object [("tank",
      .object [("level", .text "5"), ("raw", .array [.object [("level", .null)]])])])]
    Edited (Gains "raw" (.array [.object [("level", .null)]])) v w ∧ ¬pumpSchema.Asks "raw" ∧
      normalize (.json w) pumpSchema ⟨"hub", "p1", "pump"⟩ .epoch =
        normalize (.json v) pumpSchema ⟨"hub", "p1", "pump"⟩ .epoch ∧
      normalize (.json v) pumpSchema ⟨"hub", "p1", "pump"⟩ .epoch =
        .ok ⟨"p1", "pump", .epoch, [("level", .integer 5)], true⟩ := by
  intro v w
  have h : Edited (Gains "raw" (.array [.object [("level", .null)]])) v w :=
    .member [] [] "unit" (.member [] [] "tank" (.object rfl))
  have hkey : ¬pumpSchema.Asks "raw" := by
    unfold Schema.Asks
    decide
  exact ⟨h, hkey, normalize_gained h hkey _ _, by rfl⟩

/-! ## Nulls -/

/-- A null stood under a whole path in one value and nothing does in the other, and the segments of the
path lead to something that is not null. -/
structure Uncovers (v w : Json) (path : String) : Prop where
  looked : path ≠ wholePayload
  covered : v.member? path = some .null
  bare : w.member? path = none
  leads : ∃ found, walk v (segments path) = some found ∧ found ≠ .null

theorem isSome_of_drops (h : Like (Drops key) v w) (hw : (w.member? path).isSome = true) :
    (v.member? path).isSome = true := by
  refine h.isSome_member? (R := fun b b' => b' = true → b = true) (fun _ => id) ?_ hw
  rintro ms ns ⟨-, rfl⟩ hns
  rw [Dict.get?_erase] at hns
  split at hns
  · cases hns
  · exact hns

theorem steady_of_drops (h : Like (Drops key) v w) (hpath : ¬Uncovers v w path) :
    Steady v w path := by
  by_cases hwhole : path = wholePayload
  · exact .inl hwhole
  cases hleads : Json.said (walk v (segments path)) with
  | none => exact .inr (.inr hleads)
  | some found =>
    refine .inr (.inl ?_)
    have hmember := h.member? (Json.keeps_drops : Json.Keeps (Drops key) path)
    cases hw : w.member? path with
    | some member' => simpa using isSome_of_drops h (hw ▸ rfl)
    | none =>
      cases hv : v.member? path with
      | none => rfl
      | some member =>
        rw [hv, hw] at hmember
        cases hmember with
        | nothing hnone _ =>
          have hnull : member = .null := by simpa using Json.said_eq_none.1 hnone
          exact absurd ⟨hwhole, hnull ▸ hv, hw, found, Json.said_eq_some.1 hleads⟩ hpath

/-- Null counts as not reported, unless it hides a value from a path. -/
theorem normalize_dropped (h : Edited (Drops key) v w)
    (hroot : ∀ path ∈ schema.root, ¬Uncovers v w path)
    (hinner : ∀ n n', node v schema.root = .ok n → node w schema.root = .ok n' →
      ∀ path, schema.Tries n path → ¬Uncovers n n' path)
    (identity : Identity) (capturedAt : Instant) :
    normalize (.json w) schema identity capturedAt =
      normalize (.json v) schema identity capturedAt := by
  refine (normalize_like (.inr h) (fun _ _ => Json.keeps_drops) ?_ ?_ identity capturedAt).symm
  · intro path hpath
    exact steady_of_drops (.inr h) (hroot path hpath)
  · intro n n' hlike hv hw path hpath
    exact steady_of_drops hlike (hinner n n' hv hw path hpath)

/-- A pump without a tank: the null under the first path of its level hides nothing. -/
theorem normalize_dropped_level :
    let v : Json := .object [("unit", .object [("fill", .integer 5), ("tank.level", .null)])]
    let w : Json := .object [("unit", .object [("fill", .integer 5)])]
    Edited (Drops "tank.level") v w ∧
      (∀ path ∈ pumpSchema.root, ¬Uncovers v w path) ∧
      (∀ n n', node v pumpSchema.root = .ok n → node w pumpSchema.root = .ok n' →
        ∀ path, pumpSchema.Tries n path → ¬Uncovers n n' path) ∧
      normalize (.json w) pumpSchema ⟨"hub", "p1", "pump"⟩ .epoch =
        normalize (.json v) pumpSchema ⟨"hub", "p1", "pump"⟩ .epoch := by
  intro v w
  have h : Edited (Drops "tank.level") v w := .member [] [] "unit" (.object ⟨by rfl, by rfl⟩)
  have hroot : ∀ path ∈ pumpSchema.root, ¬Uncovers v w path := by
    rintro path hpath ⟨-, hcovered, -, -⟩
    cases hpath
    cases hcovered
  have hinner : ∀ n n', node v pumpSchema.root = .ok n → node w pumpSchema.root = .ok n' →
      ∀ path, pumpSchema.Tries n path → ¬Uncovers n n' path := by
    rintro n n' hn - path hpath ⟨-, hcovered, -, found, hfound, -⟩
    cases hn
    have hpaths : path = "up" ∨ path = "tank.level" ∨ path = "fill" := by
      simpa [Schema.innerPaths, pumpSchema] using hpath.mem
    rcases hpaths with rfl | rfl | rfl
    · cases hcovered
    · cases hfound
    · cases hcovered
  exact ⟨h, hroot, hinner, normalize_dropped h hroot hinner _ _⟩

/-- A null under a whole path is not the same as nothing: it hides the level inside the tank. -/
theorem null_hides :
    let v : Json := .object [("tank", .object [("level", .integer 5)]), ("tank.level", .null)]
    let w : Json := .object [("tank", .object [("level", .integer 5)])]
    let schema : Schema := ⟨none, none, [⟨"level", ["tank.level"], .integer, false⟩]⟩
    Edited (Drops "tank.level") v w ∧
      normalize (.json v) schema ⟨"hub", "p1", "pump"⟩ .epoch =
        .ok ⟨"p1", "pump", .epoch, [("level", .undefined)], true⟩ ∧
      normalize (.json w) schema ⟨"hub", "p1", "pump"⟩ .epoch =
        .ok ⟨"p1", "pump", .epoch, [("level", .integer 5)], true⟩ ∧
      normalize (.json w) schema ⟨"hub", "p1", "pump"⟩ .epoch ≠
        normalize (.json v) schema ⟨"hub", "p1", "pump"⟩ .epoch := by
  intro v w schema
  have hv : normalize (.json v) schema ⟨"hub", "p1", "pump"⟩ .epoch =
      .ok ⟨"p1", "pump", .epoch, [("level", .undefined)], true⟩ := by rfl
  have hw : normalize (.json w) schema ⟨"hub", "p1", "pump"⟩ .epoch =
      .ok ⟨"p1", "pump", .epoch, [("level", .integer 5)], true⟩ := by rfl
  refine ⟨.object ⟨by rfl, by rfl⟩, hv, hw, ?_⟩
  rw [hv, hw]
  simp

end DeviceHub
