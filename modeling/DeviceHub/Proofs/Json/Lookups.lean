import DeviceHub.Normalize
import DeviceHub.Proofs.Text.Trimming
import DeviceHub.Request.Envelope

/-!
# What stands at a path

Schemas and envelopes both name a value inside a JSON value by a path, and each searches for it in its
own way. Apart from the path that a schema has for the whole payload they mean the same
(`lookups_agree`): the member of that very key, be it null, and only when there is none the value at
the end of the path's segments.

* `Leads`: keys that lead from object to object.
* `Segmented`, `segmented_iff`: a path has its segments in one way only.
* `Stands`: what a path stands for.
* `walk_eq_some`, `foldlM_member?`: both searches follow the segments.
-/
namespace DeviceHub

namespace Json

/-- One key after the other leads from an object to a member of it. -/
inductive Leads : Json → List String → Json → Prop
  | here (v : Json) : Leads v [] v
  | inside {members : Dict Json} {key : String} {inner found : Json} {rest : List String}
    (hmember : members.get? key = some inner) (hrest : Leads inner rest found) :
    Leads (.object members) (key :: rest) found

/-- A path is made of segments, with dots between them and none inside. A segment may be empty. -/
structure Segmented (path : String) (segments : List String) : Prop where
  glued : ".".intercalate segments = path
  nonempty : segments ≠ []
  plain : ∀ s ∈ segments, '.' ∉ s.toList

/-- What a path stands for in a value: the member with that very key, or else what the path's segments
lead to. -/
inductive Stands : Json → String → Json → Prop
  | member {members : Dict Json} {path : String} {found : Json}
    (h : members.get? path = some found) : Stands (.object members) path found
  | walked {v found : Json} {path : String} {segments : List String}
    (hnone : ∀ members : Dict Json, v = .object members → members.get? path = none)
    (hpath : Segmented path segments) (h : Leads v segments found) : Stands v path found

variable {v found : Json} {key path : String} {keys : List String}

theorem member?_eq_some :
    v.member? key = some found ↔ ∃ members : Dict Json, v = .object members ∧
      members.get? key = some found := by
  cases v with
  | object members => simp [member?]
  | null | bool | number | text | array => simp [member?]

theorem member?_eq_none :
    v.member? key = none ↔ ∀ members : Dict Json, v = .object members → members.get? key = none := by
  cases v with
  | object members => simp [member?]
  | null | bool | number | text | array => simp [member?]

/-- A path is cut at its dots, and this is the only way to cut it. -/
theorem segmented_iff : Segmented path keys ↔ keys = Normalize.segments path := by
  constructor
  · rintro ⟨rfl, hne, hplain⟩
    have hpieces : ∀ p ∈ keys.map String.toList, '.' ∉ p := by simpa using hplain
    have hjoin : (".".intercalate keys).toList = Text.join ['.'] (keys.map String.toList) := by
      rw [String.toList_intercalate, Text.join_eq_intercalate]
      rfl
    rw [Normalize.segments, hjoin, Text.pieces_join (by simpa using hne) hpieces]
    simp
  · rintro rfl
    have htexts : (Normalize.segments path).map String.toList = Text.pieces '.' path.toList := by
      simp [Normalize.segments, Function.comp_def]
    refine ⟨?_, ?_, ?_⟩
    · rw [← String.toList_inj, String.toList_intercalate, htexts]
      exact (Text.join_eq_intercalate ['.'] _).symm.trans (Text.join_pieces '.' path.toList)
    · simpa [Normalize.segments] using Text.pieces_ne_nil '.' path.toList
    · intro s hs
      have hpiece : s.toList ∈ Text.pieces '.' path.toList := htexts ▸ List.mem_map_of_mem hs
      exact Text.not_mem_of_mem_pieces hpiece

end Json

open Json (Leads Segmented Stands)

variable {v found : Json} {path : String}

namespace Normalize

theorem walk_eq_some {keys : List String} : walk v keys = some found ↔ Leads v keys found := by
  induction keys generalizing v with
  | nil =>
    constructor
    · rintro ⟨⟩
      exact .here found
    · rintro ⟨⟩
      rfl
  | cons key rest ih =>
    rw [walk, Option.bind_eq_some_iff]
    constructor
    · rintro ⟨inner, hmember, hrest⟩
      obtain ⟨members, rfl, hget⟩ := Json.member?_eq_some.1 hmember
      exact .inside hget (ih.1 hrest)
    · rintro (_ | ⟨hget, hrest⟩)
      exact ⟨_, hget, ih.2 hrest⟩

/-- A path without dots is its only segment, so there is nothing else to search for. -/
theorem walk_segments_of_not_mem (hdots : '.' ∉ path.toList) (hnone : v.member? path = none) :
    walk v (segments path) = none := by
  rw [segments, Text.pieces_of_not_mem hdots, List.map_singleton, String.ofList_toList, walk, hnone]
  rfl

end Normalize

namespace Envelope

theorem foldlM_member? (keys : List String) (v : Json) :
    keys.foldlM (fun v key => v.member? key) v = Normalize.walk v keys := by
  induction keys generalizing v with
  | nil => rfl
  | cons key rest ih =>
    rw [List.foldlM_cons, Normalize.walk]
    exact congrArg _ (funext ih)

theorem find_of_member?_eq_none (h : v.member? path = none) :
    find v path = Normalize.walk v (Normalize.segments path) := by
  rw [find, h]
  exact foldlM_member? _ v

theorem find_eq_some : find v path = some found ↔ Stands v path found := by
  cases hmember : v.member? path with
  | some member =>
    obtain ⟨members, rfl, hget⟩ := Json.member?_eq_some.1 hmember
    rw [find, hmember, Option.some.injEq]
    constructor
    · rintro rfl
      exact .member hget
    · rintro (h | ⟨hnone, -, -⟩)
      · exact Option.some.inj (hget.symm.trans h)
      · exact absurd (hget.symm.trans (hnone members rfl)) (Option.some_ne_none member)
  | none =>
    have hnone := Json.member?_eq_none.1 hmember
    rw [find_of_member?_eq_none hmember, Normalize.walk_eq_some]
    constructor
    · exact .walked hnone (Json.segmented_iff.2 rfl)
    · rintro (h | ⟨-, hpath, hleads⟩)
      · exact absurd (h.symm.trans (hnone _ rfl)) (Option.some_ne_none found)
      · exact Json.segmented_iff.1 hpath ▸ hleads

end Envelope

/-- Schemas and envelopes find the same under a path, and that is what the path stands for. -/
theorem lookups_agree (v : Json) (hpath : path ≠ wholePayload) :
    Normalize.lookup v path = Envelope.find v path ∧
      ∀ found, Normalize.lookup v path = some found ↔ Stands v path found := by
  have heq : Normalize.lookup v path = Envelope.find v path := by
    rw [Normalize.lookup, if_neg hpath]
    cases hmember : v.member? path with
    | some member =>
      rw [Envelope.find, hmember]
    | none =>
      rw [Envelope.find_of_member?_eq_none hmember]
      by_cases hdots : '.' ∈ path.toList
      · exact if_pos (List.contains_iff_mem.2 hdots)
      · rw [Normalize.walk_segments_of_not_mem hdots hmember]
        exact ite_self none
  exact ⟨heq, fun found => heq ▸ Envelope.find_eq_some⟩

/-- A result code under an empty key, and a null beside it that hides another one. -/
theorem lookups_agree_code :
    let inner : Json := .object [("", .object [("code", .text "0102")]), ("code", .text "0106")]
    let v : Json := .object [("unit", inner), ("unit.code", .null)]
    "unit..code" ≠ wholePayload ∧ "unit.code" ≠ wholePayload ∧
      (Normalize.lookup v "unit..code" = Envelope.find v "unit..code" ∧
        ∀ found, Normalize.lookup v "unit..code" = some found ↔ Stands v "unit..code" found) ∧
      (Normalize.lookup v "unit.code" = Envelope.find v "unit.code" ∧
        ∀ found, Normalize.lookup v "unit.code" = some found ↔ Stands v "unit.code" found) ∧
      Envelope.find v "unit..code" = some (.text "0102") ∧
      Envelope.find v "unit.code" = some .null := by
  intro inner v
  have hwalked : "unit..code" ≠ wholePayload := by decide
  have hkey : "unit.code" ≠ wholePayload := by decide
  exact ⟨hwalked, hkey, lookups_agree v hwalked, lookups_agree v hkey, by rfl, by rfl⟩

/-- Envelopes have no path for the whole payload: a dot leads through two empty keys. -/
example : Normalize.lookup (.object []) wholePayload = some (.object []) ∧
    Envelope.find (.object []) wholePayload = none ∧
    Envelope.find (.object [("", .object [("", .null)])]) wholePayload = some .null :=
  ⟨rfl, rfl, rfl⟩

end DeviceHub
