import DeviceHub.Proofs.Normalize.Typed

/-!
# Payloads that differ in one object

Two JSON values may differ in one object, at any depth, and be alike otherwise. What a schema makes of
them is the same if the two forms of that object give the same under every key that the schema asks
for, a null counting as nothing there (`normalize_like`). One thing more matters: a path is tried as a
key before it is walked, so a null under a whole path, though it says nothing, stands in the way of the
walk. The paths for which that makes no difference are the steady ones.

* `Edited`, `Like`: values that differ in one object, and at most in one.
* `Akin`: what two lookups give, when they give like values or both nothing.
* `Like.member?`, `like_walk`, `like_lookup`: keys, segments and paths lead to such.
* `node_of_like`, `onlineFlag_of_like`, `jsonField_of_like`: so do the root and the online field, and
  the fields have the same values.
* `Schema.Tries`: the paths that count, which for a field end with the first that leads to a value.
-/
namespace DeviceHub

theorem Dict.get?_append {α : Type} (d e : Dict α) (key : String) :
    Dict.get? (d ++ e) key = (d.get? key).or (Dict.get? e key) := by
  induction d with
  | nil => rfl
  | cons entry rest ih =>
    obtain ⟨k, v⟩ := entry
    simp only [List.cons_append, Dict.get?]
    split
    · rfl
    · exact ih

namespace Json

/-! ## One object changed -/

/-- Two values are the same but for one object, the value itself or one inside it. -/
inductive Edited (E : Dict Json → Dict Json → Prop) : Json → Json → Prop
  | object {ms ns : Dict Json} (h : E ms ns) : Edited E (.object ms) (.object ns)
  | item {v w : Json} (before after : List Json) (h : Edited E v w) :
    Edited E (.array (before ++ v :: after)) (.array (before ++ w :: after))
  | member {v w : Json} (before after : Dict Json) (key : String) (h : Edited E v w) :
    Edited E (.object (before ++ (key, v) :: after)) (.object (before ++ (key, w) :: after))

/-- Two values are the same but for one object at most. -/
def Like (E : Dict Json → Dict Json → Prop) (v w : Json) : Prop := v = w ∨ Edited E v w

/-- What a value that may be there says; null says nothing. -/
def said (found : Option Json) : Option Json := found.filter fun v => !v.isNull

/-- Two lookups give like values, or nothing is said in both. -/
inductive Akin (E : Dict Json → Dict Json → Prop) : Option Json → Option Json → Prop
  | nothing {found found' : Option Json} (h : said found = none) (h' : said found' = none) :
    Akin E found found'
  | value {v w : Json} (h : Like E v w) : Akin E (some v) (some w)

/-- A change leaves alone what is said under a key. -/
def Keeps (E : Dict Json → Dict Json → Prop) (key : String) : Prop :=
  ∀ ms ns, E ms ns → said (ms.get? key) = said (ns.get? key)

variable {E : Dict Json → Dict Json → Prop} {v w : Json} {key : String}

theorem said_eq_none {found : Option Json} :
    said found = none ↔ found = none ∨ found = some .null := by
  cases found with
  | none => simp [said]
  | some v => simp [said, Normalize.isNull_iff]

theorem said_eq_some {found : Option Json} : said found = some v ↔ found = some v ∧ v ≠ .null := by
  rw [said, Option.filter_eq_some_iff, Bool.not_eq_true', ← Bool.not_eq_true, Normalize.isNull_iff]

theorem akin_refl (found : Option Json) : Akin E found found := by
  cases found with
  | none => exact .nothing rfl rfl
  | some v => exact .value (.inl rfl)

theorem akin_of_said_eq {found found' : Option Json} (h : said found = said found') :
    Akin E found found' := by
  cases hsaid : said found with
  | none => exact .nothing hsaid (h ▸ hsaid)
  | some v =>
    have hfound := (Option.filter_eq_some_iff.1 hsaid).1
    have hfound' := (Option.filter_eq_some_iff.1 (h ▸ hsaid)).1
    rw [hfound, hfound']
    exact .value (.inl rfl)

/-- Only the members, or the items, of a value differ, not what kind of value it is. -/
theorem Edited.cases_kind (h : Edited E v w) :
    (∃ ms ns, v = .object ms ∧ w = .object ns) ∨ ∃ vs ws, v = .array vs ∧ w = .array ws := by
  cases h with
  | object | member => exact .inl ⟨_, _, rfl, rfl⟩
  | item => exact .inr ⟨_, _, rfl, rfl⟩

theorem Edited.ne_null (h : Edited E v w) : v ≠ .null ∧ w ≠ .null := by
  rcases h.cases_kind with ⟨ms, ns, rfl, rfl⟩ | ⟨vs, ws, rfl, rfl⟩ <;> simp

theorem Like.ne_null (h : Like E v w) (hv : v ≠ .null) : w ≠ .null := by
  rcases h with rfl | h
  · exact hv
  · exact h.ne_null.2

theorem Like.said_cases (h : Like E v w) : (said (some v) = none ∧ said (some w) = none) ∨
    ∃ a b, said (some v) = some a ∧ said (some w) = some b ∧ Like E a b := by
  by_cases hv : v = .null
  · rcases h with rfl | h
    · exact .inl ⟨said_eq_none.2 (.inr (congrArg some hv)), said_eq_none.2 (.inr (congrArg some hv))⟩
    · exact absurd hv h.ne_null.1
  · exact .inr ⟨v, w, said_eq_some.2 ⟨rfl, hv⟩, said_eq_some.2 ⟨rfl, h.ne_null hv⟩, h⟩

theorem Akin.said_eq_none {found found' : Option Json} (h : Akin E found found')
    (hnone : said found = none) : said found' = none := by
  cases h with
  | nothing _ hnone' => exact hnone'
  | value hlike =>
    rcases hlike.said_cases with ⟨-, hnone'⟩ | ⟨a, b, ha, -, -⟩
    · exact hnone'
    · rw [hnone] at ha
      cases ha

/-! ## Keys -/

theorem Edited.member? (h : Edited E v w) (hkey : Keeps E key) :
    Akin E (v.member? key) (w.member? key) := by
  cases h with
  | object h => exact akin_of_said_eq (hkey _ _ h)
  | item before after h => exact akin_refl none
  | @member v w before after k h =>
    simp only [Json.member?, Dict.get?_append, Dict.get?]
    cases Dict.get? before key with
    | some found => exact akin_refl _
    | none =>
      split
      · exact .value (.inr h)
      · exact akin_refl _

theorem Like.member? (h : Like E v w) (hkey : Keeps E key) :
    Akin E (v.member? key) (w.member? key) := by
  rcases h with rfl | h
  · exact akin_refl _
  · exact h.member? hkey

end Json

namespace Normalize

open Json (Like Akin Keeps said)

variable {E : Dict Json → Dict Json → Prop} {v w : Json} {path : String}

/-! ## Paths -/

theorem said_walk_null (path : List String) : said (walk .null path) = none := by
  cases path <;> rfl

theorem said_bind_walk {found : Option Json} (h : said found = none) (rest : List String) :
    said (found.bind fun inner => walk inner rest) = none := by
  rcases Json.said_eq_none.1 h with rfl | rfl
  · rfl
  · exact said_walk_null rest

/-- By induction on the segments: as long as both walks find something, they find like values. -/
theorem like_walk {path : List String} (h : Like E v w) (hpath : ∀ s ∈ path, Keeps E s) :
    Akin E (walk v path) (walk w path) := by
  induction path generalizing v w with
  | nil => exact .value h
  | cons segment rest ih =>
    obtain ⟨hsegment, hrest⟩ := List.forall_mem_cons.1 hpath
    simp only [walk]
    generalize hv : v.member? segment = found
    generalize hw : w.member? segment = found'
    have hmember := h.member? hsegment
    rw [hv, hw] at hmember
    cases hmember with
    | nothing hnone hnone' => exact .nothing (said_bind_walk hnone rest) (said_bind_walk hnone' rest)
    | value hlike => exact ih hlike hrest

/-- A path is not led astray: it stands for the whole value, it is a key in both values or in neither,
or to walk it leads to nothing. -/
def Steady (v w : Json) (path : String) : Prop :=
  path = wholePayload ∨ (v.member? path).isSome = (w.member? path).isSome ∨
    said (walk v (segments path)) = none

theorem said_lookup_of_walk {v : Json} (hpath : path ≠ wholePayload)
    (hkey : said (v.member? path) = none) (hwalk : said (walk v (segments path)) = none) :
    said (lookup v path) = none := by
  rw [lookup, if_neg hpath]
  split
  · next found hfound =>
    rwa [hfound] at hkey
  · split
    · exact hwalk
    · rfl

/-- A change leaves alone what a path asks for in two values. -/
structure Undisturbed (E : Dict Json → Dict Json → Prop) (v w : Json) (path : String) : Prop where
  key : Keeps E path
  segments : ∀ s ∈ segments path, Keeps E s
  steady : Steady v w path

theorem like_lookup (h : Like E v w) (hpath : Undisturbed E v w path) :
    Akin E (lookup v path) (lookup w path) := by
  by_cases hwhole : path = wholePayload
  · simp only [lookup, if_pos hwhole]
    exact .value h
  have hwalk := like_walk h hpath.segments
  have hmember := h.member? hpath.key
  rcases hpath.steady with hwhole' | hsome | hnowhere
  · exact absurd hwhole' hwhole
  · simp only [lookup, if_neg hwhole]
    cases hv : v.member? path <;> cases hw : w.member? path <;> rw [hv, hw] at hsome hmember
    · dsimp only
      split
      · exact hwalk
      · exact Json.akin_refl none
    · cases hsome
    · cases hsome
    · exact hmember
  · generalize hv : v.member? path = found
    generalize hw : w.member? path = found'
    rw [hv, hw] at hmember
    cases hmember with
    | value hlike =>
      simp only [lookup, if_neg hwhole, hv, hw]
      exact .value hlike
    | nothing hnone hnone' =>
      exact .nothing (said_lookup_of_walk hwhole (hv ▸ hnone) hnowhere)
        (said_lookup_of_walk hwhole (hw ▸ hnone') (hwalk.said_eq_none hnowhere))

theorem like_reported (h : Like E v w) (hpath : Undisturbed E v w path) :
    (reported v path = none ∧ reported w path = none) ∨
      ∃ a b, reported v path = some a ∧ reported w path = some b ∧ Like E a b := by
  have hlookup := like_lookup h hpath
  generalize hv : lookup v path = found
  generalize hw : lookup w path = found'
  rw [hv, hw] at hlookup
  have hsaid : reported v path = said found := congrArg said hv
  have hsaid' : reported w path = said found' := congrArg said hw
  rw [hsaid, hsaid']
  cases hlookup with
  | nothing hnone hnone' => exact .inl ⟨hnone, hnone'⟩
  | value hlike => exact hlike.said_cases

/-! ## Fields -/

variable {a b : Json}

theorem ofJson?_of_like (h : Like E a b) (kind : FieldKind) : ofJson? kind a = ofJson? kind b := by
  rcases h with rfl | h
  · rfl
  · rcases h.cases_kind with ⟨ms, ns, rfl, rfl⟩ | ⟨vs, ws, rfl, rfl⟩ <;> cases kind <;> rfl

theorem boolOfJson?_of_like (h : Like E a b) : boolOfJson? a = boolOfJson? b := by
  rcases h with rfl | h
  · rfl
  · rcases h.cases_kind with ⟨ms, ns, rfl, rfl⟩ | ⟨vs, ws, rfl, rfl⟩ <;> rfl

theorem describe_of_like (h : Like E a b) : describe a = describe b := by
  rcases h with rfl | h
  · rfl
  · rcases h.cases_kind with ⟨ms, ns, rfl, rfl⟩ | ⟨vs, ws, rfl, rfl⟩ <;> rfl

/-- A list of paths is tried as far as a path: those before it lead to nothing. -/
def TriedTo (v : Json) (paths : List String) (path : String) : Prop :=
  ∃ before after, paths = before ++ path :: after ∧ ∀ earlier ∈ before, reported v earlier = none

theorem TriedTo.mem {paths : List String} (h : TriedTo v paths path) : path ∈ paths := by
  obtain ⟨before, after, rfl, -⟩ := h
  exact List.mem_append_right _ List.mem_cons_self

theorem TriedTo.cons {first : String} {rest : List String} (hfirst : reported v first = none)
    (h : TriedTo v rest path) : TriedTo v (first :: rest) path := by
  obtain ⟨before, after, rfl, hbefore⟩ := h
  exact ⟨first :: before, after, rfl, List.forall_mem_cons.2 ⟨hfirst, hbefore⟩⟩

theorem firstFound_of_like (h : Like E v w) {paths : List String}
    (hpaths : ∀ path, TriedTo v paths path → Undisturbed E v w path) :
    (firstFound (reported v) paths = none ∧ firstFound (reported w) paths = none) ∨
      ∃ path a b, firstFound (reported v) paths = some (path, a) ∧
        firstFound (reported w) paths = some (path, b) ∧ Like E a b := by
  induction paths with
  | nil => exact .inl ⟨rfl, rfl⟩
  | cons path rest ih =>
    have hpath : TriedTo v (path :: rest) path := ⟨[], rest, rfl, fun _ h => nomatch h⟩
    simp only [firstFound]
    rcases like_reported h (hpaths path hpath) with ⟨hv, hw⟩ | ⟨a, b, hv, hw, hlike⟩
    · rw [hv, hw]
      exact ih fun other hother => hpaths other (hother.cons hv)
    · rw [hv, hw]
      exact .inr ⟨path, a, b, rfl, rfl, hlike⟩

theorem jsonField_of_like (h : Like E v w) {spec : FieldSpec}
    (hpaths : ∀ path, TriedTo v spec.paths path → Undisturbed E v w path) :
    jsonField v spec = jsonField w spec := by
  unfold jsonField
  rcases firstFound_of_like h hpaths with ⟨hv, hw⟩ | ⟨path, a, b, hv, hw, hlike⟩
  · rw [hv, hw]
  · rw [hv, hw]
    simp only [ofJson?_of_like hlike, describe_of_like hlike]

theorem onlineFlag_of_like (h : Like E v w) {field : Option String}
    (hpath : ∀ path ∈ field, Undisturbed E v w path) : onlineFlag v field = onlineFlag w field := by
  cases field with
  | none => rfl
  | some path =>
    simp only [onlineFlag]
    rcases like_reported h (hpath path rfl) with ⟨hv, hw⟩ | ⟨a, b, hv, hw, hlike⟩
    · rw [hv, hw]
    · rw [hv, hw]
      simp only [boolOfJson?_of_like hlike, describe_of_like hlike]

theorem node_of_like (h : Like E v w) {root : Option String}
    (hroot : ∀ path ∈ root, Undisturbed E v w path) :
    (∃ e, node v root = .error e ∧ node w root = .error e) ∨
      ∃ n n', node v root = .ok n ∧ node w root = .ok n' ∧ Like E n n' := by
  cases root with
  | none => exact .inr ⟨v, w, rfl, rfl, h⟩
  | some path =>
    simp only [node]
    rcases like_reported h (hroot path rfl) with ⟨hv, hw⟩ | ⟨a, b, hv, hw, hlike⟩
    · rw [hv, hw]
      exact .inl ⟨_, rfl, rfl⟩
    · rw [hv, hw]
      exact .inr ⟨a, b, rfl, rfl, hlike⟩

theorem collect_congr {value value' : FieldSpec → Except NormalizeError FieldValue}
    {specs : List FieldSpec} (h : ∀ spec ∈ specs, value spec = value' spec)
    (fields : Dict FieldValue) : collect value fields specs = collect value' fields specs := by
  induction specs generalizing fields with
  | nil => rfl
  | cons spec rest ih =>
    obtain ⟨hspec, hrest⟩ := List.forall_mem_cons.1 h
    simp only [collect, hspec, ih hrest]

end Normalize

/-! ## Payloads -/

/-- The paths that a schema looks up below its root. -/
def Schema.innerPaths (schema : Schema) : List String :=
  schema.onlineField.toList ++ schema.fields.flatMap (·.paths)

/-- All paths that a schema looks up: its root in the payload, and the others below the root. -/
def Schema.lookupPaths (schema : Schema) : List String :=
  schema.root.toList ++ schema.innerPaths

/-- The paths that a schema looks up in the part of a payload that holds the fields: of a field's paths
those as far as the first that leads to a value. -/
inductive Schema.Tries (schema : Schema) (node : Json) (path : String) : Prop where
  | flag (h : schema.onlineField = some path)
  | field {spec : FieldSpec} (hspec : spec ∈ schema.fields)
    (h : Normalize.TriedTo node spec.paths path)

theorem Schema.Tries.mem {schema : Schema} {node : Json} {path : String}
    (h : schema.Tries node path) : path ∈ schema.innerPaths := by
  cases h with
  | flag h => exact List.mem_append_left _ (Option.mem_toList.2 h)
  | field hspec h => exact List.mem_append_right _ (List.mem_flatMap.2 ⟨_, hspec, h.mem⟩)

/-- The keys that a schema may ask an object for: its paths, and the segments of its paths. -/
def Schema.Asks (schema : Schema) (key : String) : Prop :=
  ∃ path ∈ schema.lookupPaths, key = path ∨ key ∈ Normalize.segments path

open Json (Like Keeps)
open Normalize (Steady Undisturbed node)

theorem normalize_like {E : Dict Json → Dict Json → Prop} {v w : Json} {schema : Schema}
    (h : Like E v w) (hkeeps : ∀ key, schema.Asks key → Keeps E key)
    (hroot : ∀ path ∈ schema.root, Steady v w path)
    (hinner : ∀ n n', Like E n n' → node v schema.root = .ok n → node w schema.root = .ok n' →
      ∀ path, schema.Tries n path → Steady n n' path)
    (identity : Identity) (capturedAt : Instant) :
    normalize (.json v) schema identity capturedAt =
      normalize (.json w) schema identity capturedAt := by
  have hasks : ∀ path ∈ schema.lookupPaths, Keeps E path ∧
      ∀ s ∈ Normalize.segments path, Keeps E s := fun path hpath =>
    ⟨hkeeps path ⟨path, hpath, .inl rfl⟩, fun s hs => hkeeps s ⟨path, hpath, .inr hs⟩⟩
  have hroots : ∀ path ∈ schema.root, Undisturbed E v w path := by
    intro path hpath
    obtain ⟨hkey, hsegments⟩ := hasks path
      (List.mem_append_left _ (Option.mem_toList.2 hpath))
    exact ⟨hkey, hsegments, hroot path hpath⟩
  rcases Normalize.node_of_like h hroots with ⟨e, hv, hw⟩ | ⟨n, n', hv, hw, hlike⟩
  · simp only [normalize, Normalize.fieldsAndFlag, hv, hw, bind, Except.bind]
  · have hpaths : ∀ path, schema.Tries n path → Undisturbed E n n' path := by
      intro path hpath
      obtain ⟨hkey, hsegments⟩ := hasks path (List.mem_append_right _ hpath.mem)
      exact ⟨hkey, hsegments, hinner n n' hlike hv hw path hpath⟩
    have hflag : Normalize.onlineFlag n schema.onlineField =
        Normalize.onlineFlag n' schema.onlineField :=
      Normalize.onlineFlag_of_like hlike fun path hpath => hpaths path (.flag hpath)
    have hfields : ∀ spec ∈ schema.fields, Normalize.jsonField n spec = Normalize.jsonField n' spec :=
      fun spec hspec => Normalize.jsonField_of_like hlike fun path hpath =>
        hpaths path (.field hspec hpath)
    rw [normalize_of_node hv, normalize_of_node hw, hflag, Normalize.collect_congr hfields]

end DeviceHub
