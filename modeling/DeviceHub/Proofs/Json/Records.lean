import DeviceHub.Json.Decode
import Mathlib.Data.List.Forall2
import Mathlib.Data.List.Nodup

/-!
# Reading records back

A record says the same in whatever order its members stand, and whether its nulls are written or left
out: sources of configurations sort the members of their objects, and one of them has no null. So what
a record is written as is not one value but all that restate one, and a decoder reads a record back
when it makes the same of all of them.

* `Restates`: another way to write a value.
* `Reads`, `ReadsBack`: a decoder gives one result for all ways to write a value.
* `scanMembers_eq_ok`: members that belong to different fields end up where they belong.
* `record_restated`: from another way to write a record, every field gets what it had.
* `record_differ`: two members for one field make a difference there and nowhere else.
-/
namespace DeviceHub.Json

/-! ## Ways to write a value -/

/-- Another way to write a value: the members of an object stand in another order, some that are null
are left out, and what is inside may be written another way too. -/
inductive Restates : Json → Json → Prop
  | same (v : Json) : Restates v v
  | array {items items' : List Json} (h : List.Forall₂ Restates items items') :
    Restates (.array items) (.array items')
  | object {members kept omitted members' : Dict Json} (hperm : members.Perm (kept ++ omitted))
    (homitted : ∀ m ∈ omitted, m.2 = .null) (hkeys : kept.keys = members'.keys)
    (hvalues : List.Forall₂ Restates kept.values members'.values) :
    Restates (.object members) (.object members')

/-- The members of an object, and those of another way to write it. -/
structure SameMembers (members members' : Dict Json) : Prop where
  origin : ∀ n ∈ members', ∃ m ∈ members, m.1 = n.1 ∧ Restates m.2 n.2
  kept : ∀ m ∈ members, m.2 ≠ .null → ∃ n ∈ members', m.1 = n.1
  nodup : members.keys.Nodup → members'.keys.Nodup

variable {v w : Json} {key : String} {members members' : Dict Json}

theorem forall₂_getElem? {α β : Type} {R : α → β → Prop} {as : List α} {bs : List β} {a : α} {i : Nat}
    (h : List.Forall₂ R as bs) (hi : as[i]? = some a) : ∃ b, bs[i]? = some b ∧ R a b := by
  induction h generalizing i with
  | nil => cases hi
  | cons hab _ ih =>
    cases i with
    | zero =>
      cases hi
      exact ⟨_, rfl, hab⟩
    | succ i => exact ih hi

theorem forall₂_mem {α β : Type} {R : α → β → Prop} {as : List α} {bs : List β} {a : α}
    (h : List.Forall₂ R as bs) (ha : a ∈ as) : ∃ b ∈ bs, R a b := by
  obtain ⟨i, hi⟩ := List.mem_iff_getElem?.1 ha
  obtain ⟨b, hb, hab⟩ := forall₂_getElem? h hi
  exact ⟨b, List.mem_of_getElem? hb, hab⟩

theorem forall₂_members {kept : Dict Json} (hkeys : kept.keys = members'.keys)
    (hvalues : List.Forall₂ Restates kept.values members'.values) :
    List.Forall₂ (fun m n => m.1 = n.1 ∧ Restates m.2 n.2) kept members' := by
  induction kept generalizing members' with
  | nil =>
    cases members' with
    | nil => exact .nil
    | cons => cases hkeys
  | cons m rest ih =>
    cases members' with
    | nil => cases hkeys
    | cons n rest' =>
      obtain ⟨hkey, hrest⟩ := List.cons_eq_cons.1 hkeys
      cases hvalues with
      | cons hvalue htail => exact .cons ⟨hkey, hvalue⟩ (ih hrest htail)

theorem sameMembers_of_restates (h : Restates (.object members) w) :
    ∃ members', w = .object members' ∧ SameMembers members members' := by
  cases h with
  | same =>
    exact ⟨members, rfl, fun n hn => ⟨n, hn, rfl, .same n.2⟩, fun m hm _ => ⟨m, hm, rfl⟩, id⟩
  | @object _ kept omitted members' hperm homitted hkeys hvalues =>
    have hpairs := forall₂_members hkeys hvalues
    have hmem : ∀ m, m ∈ members ↔ m ∈ kept ∨ m ∈ omitted := fun m =>
      hperm.mem_iff.trans List.mem_append
    refine ⟨members', rfl, fun n hn => ?_, fun m hm hnull => ?_, fun hnodup => ?_⟩
    · obtain ⟨m, hm, hsame⟩ := forall₂_mem hpairs.flip hn
      exact ⟨m, (hmem m).2 (.inl hm), hsame⟩
    · have hkept := ((hmem m).1 hm).resolve_right fun h => hnull (homitted m h)
      obtain ⟨n, hn, hkey, -⟩ := forall₂_mem hpairs hkept
      exact ⟨n, hn, hkey⟩
    · have hsub : kept.keys.Sublist (Dict.keys (kept ++ omitted)) :=
        (List.sublist_append_left kept omitted).map Prod.fst
      exact hkeys ▸ hsub.nodup ((hperm.map Prod.fst).nodup_iff.1 hnodup)

theorem Restates.ne_null (h : Restates v w) (hv : v ≠ .null) : w ≠ .null := by
  cases h with
  | same => exact hv
  | array => exact Json.noConfusion
  | object => exact Json.noConfusion

namespace Decode

/-! ## Decoders that read values back -/

variable {α : Type} {d : Decoder α} {a : α}

/-- A decoder makes the same of all ways to write a value. -/
def Reads (d : Decoder α) (v : Json) (a : α) : Prop := ∀ w, Restates v w → d w = .ok a

/-- A decoder reads back everything that is written in some form, which is never null. -/
structure ReadsBack (d : Decoder α) (form : α → Json) : Prop where
  ne_null : ∀ a, form a ≠ .null
  reads : ∀ a, Reads d (form a) a

variable {form : α → Json}

theorem readsBack_text : ReadsBack text .text where
  ne_null _ := Json.noConfusion
  reads s := by
    rintro w ⟨⟩
    rfl

theorem readsBack_bool : ReadsBack bool .bool where
  ne_null _ := Json.noConfusion
  reads b := by
    rintro w ⟨⟩
    rfl

theorem readsBack_choice (dialect : Dialect) {choices : List (String × α)} {name : α → String}
    (h : ∀ a, Dict.get? choices (name a) = some a) :
    ReadsBack (choice dialect choices) fun a => .text (name a) where
  ne_null _ := Json.noConfusion
  reads a := by
    rintro w ⟨⟩
    rw [choice, h]

theorem ReadsBack.optional (h : ReadsBack d form) (o : Option α) :
    Reads (optional d) (ofOption form o) o := by
  intro w hw
  cases o with
  | none =>
    cases hw
    rfl
  | some a =>
    have hnull := Restates.ne_null hw (h.ne_null a)
    have hread : (d w).map some = .ok (some a) := by
      rw [h.reads a w hw]
      rfl
    cases w with
    | null => exact absurd rfl hnull
    | bool | number | text | array | object => exact hread

theorem ReadsBack.itemsFrom (h : ReadsBack d form) {as : List α} {items : List Json} (i : Nat)
    (hitems : List.Forall₂ Restates (as.map form) items) : itemsFrom d i items = .ok as := by
  induction as generalizing i items with
  | nil =>
    cases hitems
    rfl
  | cons a rest ih =>
    cases hitems with
    | cons hitem hrest =>
      rw [Decode.itemsFrom, h.reads a _ hitem, within, ih (i + 1) hrest]
      rfl

theorem ReadsBack.list (h : ReadsBack d form) :
    ReadsBack (list d) fun as => .array (as.map form) where
  ne_null _ := Json.noConfusion
  reads as := by
    intro w hw
    cases hw with
    | same => exact h.itemsFrom 0 (List.forall₂_same.2 fun v _ => .same v)
    | array hitems => exact h.itemsFrom 0 hitems

/-! ## Members and fields -/

/-- The value of the first member that belongs to a field. -/
def Field.value? (f : Field) (members : Dict Json) : Option Json :=
  (members.find? fun m => f.keys.contains m.1).map Prod.snd

/-- A member stands for a field, in whatever way its value is written. -/
def Writes (f : Field) (m : String × Json) : Prop :=
  m.1 ∈ f.keys ∧ ∀ w, Restates m.2 w → f.test w = .ok ()

/-- What a field that had a value may get from another way to write the record. -/
inductive Held : Json → Option Json → Prop
  | there {v w : Json} (h : Restates v w) : Held v (some w)
  | omitted : Held .null none

/-- Every field got what one of some members says, in their order. -/
def Found.Holds (found : Found) (members : Dict Json) : Prop :=
  ∀ (i : Nat) (key : String) (v : Json), members[i]? = some (key, v) →
    Held v (found.values[i]?).join

variable {fields : List Field} {f g : Field} {i j : Nat} {values : List (Option Json)}

theorem writes_field (key : String) (h : Reads d v a) : Writes (field key d) (key, v) := by
  refine ⟨List.mem_singleton_self key, fun w hw => ?_⟩
  simp only [field, h w hw]
  rfl

theorem writes_fieldWithAlias (key alternative : String) (h : Reads d v a) :
    Writes (fieldWithAlias key alternative d) (key, v) := by
  refine ⟨List.mem_cons_self, fun w hw => ?_⟩
  simp only [fieldWithAlias, h w hw]
  rfl

/-- A key leads to the field that it belongs to. -/
theorem findIdx?_contains (hkeys : (fields.flatMap Field.keys).Nodup) (hf : fields[i]? = some f)
    (hkey : key ∈ f.keys) : (fields.findIdx? fun f => f.keys.contains key) = some i := by
  induction fields generalizing i with
  | nil => cases hf
  | cons g rest ih =>
    rw [List.flatMap_cons, List.nodup_append] at hkeys
    rw [List.findIdx?_cons]
    cases i with
    | zero =>
      cases hf
      rw [if_pos (List.contains_iff_mem.2 hkey)]
    | succ i =>
      have hrest : key ∈ rest.flatMap Field.keys :=
        List.mem_flatMap.2 ⟨f, List.mem_of_getElem? hf, hkey⟩
      have hother : key ∉ g.keys := fun h => hkeys.2.2 key h key hrest rfl
      rw [if_neg fun h => hother (List.contains_iff_mem.1 h), ih hkeys.2.1 hf]
      rfl

theorem field_unique (hkeys : (fields.flatMap Field.keys).Nodup) (hf : fields[i]? = some f)
    (hg : fields[j]? = some g) (hkey : key ∈ f.keys) (hkey' : key ∈ g.keys) : i = j :=
  Option.some.inj ((findIdx?_contains hkeys hf hkey).symm.trans (findIdx?_contains hkeys hg hkey'))

theorem value?_cons_of_mem (h : key ∈ f.keys) (v : Json) (rest : Dict Json) :
    f.value? ((key, v) :: rest) = some v := by
  simp [Field.value?, h]

theorem value?_cons_of_not_mem (h : key ∉ f.keys) (v : Json) (rest : Dict Json) :
    f.value? ((key, v) :: rest) = f.value? rest := by
  simp [Field.value?, h]

theorem value?_eq_none : f.value? members = none ↔ ∀ m ∈ members, m.1 ∉ f.keys := by
  simp [Field.value?]

theorem value?_eq_some (h : f.value? members = some v) : ∃ key ∈ f.keys, (key, v) ∈ members := by
  obtain ⟨m, hm, rfl⟩ := Option.map_eq_some_iff.1 h
  exact ⟨m.1, by simpa using List.find?_some hm, List.mem_of_find?_eq_some hm⟩

/-! ## Scanning the members of an object -/

/-- The values of the fields after one more member. -/
def put (fields : List Field) (values : List (Option Json)) (key : String) (v : Json) :
    Except Fault (List (Option Json)) :=
  match fields.findIdx? fun f => f.keys.contains key with
  | none => .ok values
  | some i =>
    if ((values[i]?).join).isSome then fault .duplicateField
    else
      match fields[i]? with
      | some f => (within key (f.test v)).map fun _ => values.set i (some v)
      | none => .ok (values.set i (some v))

theorem scanMembers_cons (fields : List Field) (values : List (Option Json)) (key : String) (v : Json)
    (rest : Dict Json) : scanMembers fields values ((key, v) :: rest) =
      (put fields values key v).bind fun values => scanMembers fields values rest := by
  cases hidx : fields.findIdx? fun f => f.keys.contains key with
  | none =>
    simp only [scanMembers, put, hidx]
    rfl
  | some i =>
    simp only [scanMembers, put, hidx]
    split
    · rfl
    · cases fields[i]? with
      | none => rfl
      | some f =>
        dsimp only
        cases within key (f.test v) <;> rfl

theorem put_of_mem (hkeys : (fields.flatMap Field.keys).Nodup) (hi : fields[i]? = some f)
    (hkey : key ∈ f.keys) (hvalid : f.test v = .ok ()) :
    put fields values key v = if ((values[i]?).join).isSome then fault .duplicateField
      else .ok (values.set i (some v)) := by
  simp only [put, findIdx?_contains hkeys hi hkey, hi, hvalid]
  rfl

theorem put_of_not_mem (hkey : ∀ f ∈ fields, key ∉ f.keys) (v : Json) :
    put fields values key v = .ok values := by
  have hidx : (fields.findIdx? fun f => f.keys.contains key) = none := by
    simpa [List.findIdx?_eq_none_iff] using hkey
  rw [put, hidx]

/-- Members that fit beside the values found so far: each that belongs to a field finds it free and is
accepted there, and no two belong to one field. -/
structure Fit (fields : List Field) (values : List (Option Json)) (members : Dict Json) : Prop where
  length : values.length = fields.length
  free : ∀ (i : Nat) (f : Field), fields[i]? = some f → (∃ m ∈ members, m.1 ∈ f.keys) →
    (values[i]?).join = none
  apart : members.Pairwise fun m n => ∀ f ∈ fields, m.1 ∈ f.keys → n.1 ∉ f.keys
  valid : ∀ m ∈ members, ∀ f ∈ fields, m.1 ∈ f.keys → f.test m.2 = .ok ()

theorem Fit.tail {m : String × Json} (h : Fit fields values (m :: members)) :
    Fit fields values members where
  length := h.length
  free := fun i f hi ⟨n, hn, hkey⟩ => h.free i f hi ⟨n, List.mem_cons_of_mem m hn, hkey⟩
  apart := (List.pairwise_cons.1 h.apart).2
  valid := fun n hn => h.valid n (List.mem_cons_of_mem m hn)

/-- The place that a member takes is of no use to those after it. -/
theorem Fit.filled (h : Fit fields values ((key, v) :: members)) (hi : fields[i]? = some f)
    (hkey : key ∈ f.keys) : Fit fields (values.set i (some v)) members where
  length := by rw [List.length_set, h.length]
  free := by
    rintro j g hj ⟨n, hn, hkey'⟩
    by_cases hij : i = j
    · subst hij
      obtain rfl := Option.some.inj (hi.symm.trans hj)
      have hapart := (List.pairwise_cons.1 h.apart).1 n hn f (List.mem_of_getElem? hi) hkey
      exact absurd hkey' hapart
    · rw [List.getElem?_set_ne hij]
      exact h.tail.free j g hj ⟨n, hn, hkey'⟩
  apart := h.tail.apart
  valid := h.tail.valid

theorem join_set_or_value? (hkeys : (fields.flatMap Field.keys).Nodup) (hi : fields[i]? = some f)
    (hkey : key ∈ f.keys) (hlt : i < values.length) (hfree : (values[i]?).join = none)
    (hj : fields[j]? = some g) :
    (((values.set i (some v))[j]?).join).or (g.value? members) =
      ((values[j]?).join).or (g.value? ((key, v) :: members)) := by
  by_cases hij : i = j
  · subst hij
    obtain rfl := Option.some.inj (hi.symm.trans hj)
    rw [List.getElem?_set_self hlt, hfree, value?_cons_of_mem hkey]
    rfl
  · have hkey' : key ∉ g.keys := fun h => hij (field_unique hkeys hi hj hkey h)
    rw [List.getElem?_set_ne hij, value?_cons_of_not_mem hkey']

/-- By induction on the members: each fills the place of its field, which is still free. -/
theorem scanMembers_eq_ok (hkeys : (fields.flatMap Field.keys).Nodup)
    (hfit : Fit fields values members) :
    ∃ found, scanMembers fields values members = .ok found ∧
      ∀ (i : Nat) (f : Field), fields[i]? = some f →
        (found[i]?).join = ((values[i]?).join).or (f.value? members) := by
  induction members generalizing values with
  | nil => exact ⟨values, rfl, fun i f _ => by simp [Field.value?]⟩
  | cons m rest ih =>
    obtain ⟨key, v⟩ := m
    by_cases hfield : ∃ f ∈ fields, key ∈ f.keys
    · obtain ⟨f, hf, hkey⟩ := hfield
      obtain ⟨i, hi⟩ := List.mem_iff_getElem?.1 hf
      have hfree := hfit.free i f hi ⟨(key, v), List.mem_cons_self, hkey⟩
      have hvalid := hfit.valid (key, v) List.mem_cons_self f hf hkey
      have hlt : i < values.length := hfit.length ▸ (List.getElem?_eq_some_iff.1 hi).1
      have hput : put fields values key v = .ok (values.set i (some v)) := by
        rw [put_of_mem hkeys hi hkey hvalid, hfree]
        rfl
      obtain ⟨found, hscan, hfound⟩ := ih (hfit.filled hi hkey)
      refine ⟨found, ?_, fun j g hj => ?_⟩
      · rw [scanMembers_cons, hput]
        exact hscan
      · rw [hfound j g hj, join_set_or_value? hkeys hi hkey hlt hfree hj]
    · have hskip : ∀ f ∈ fields, key ∉ f.keys := fun f hf hkey => hfield ⟨f, hf, hkey⟩
      obtain ⟨found, hscan, hfound⟩ := ih hfit.tail
      refine ⟨found, ?_, fun i f hi => ?_⟩
      · rw [scanMembers_cons, put_of_not_mem hskip]
        exact hscan
      · rw [hfound i f hi, value?_cons_of_not_mem (hskip f (List.mem_of_getElem? hi))]

/-! ## Records written another way -/

/-- The member that belongs to a field stands at the field's place. -/
theorem getElem?_of_writes (hkeys : (fields.flatMap Field.keys).Nodup)
    (hforms : List.Forall₂ Writes fields members) {m : String × Json} (hm : m ∈ members)
    (hi : fields[i]? = some f) (hkey : m.1 ∈ f.keys) : members[i]? = some m := by
  obtain ⟨j, hj⟩ := List.mem_iff_getElem?.1 hm
  obtain ⟨g, hg, hkey', -⟩ := forall₂_getElem? hforms.flip hj
  rwa [field_unique hkeys hi hg hkey hkey']

/-- A member that belongs to a field restates the member that stands at the field's place. -/
theorem source_of_mem (hsame : SameMembers members members')
    (hkeys : (fields.flatMap Field.keys).Nodup) (hforms : List.Forall₂ Writes fields members)
    {n : String × Json} (hn : n ∈ members') (hi : fields[i]? = some f) (hkey : n.1 ∈ f.keys) :
    ∃ m, members[i]? = some m ∧ m.1 = n.1 ∧ Restates m.2 n.2 := by
  obtain ⟨m, hm, heq, hvalue⟩ := hsame.origin n hn
  exact ⟨m, getElem?_of_writes hkeys hforms hm hi (heq ▸ hkey), heq, hvalue⟩

theorem keys_nodup_of_writes (hkeys : (fields.flatMap Field.keys).Nodup)
    (hforms : List.Forall₂ Writes fields members) : members.keys.Nodup := by
  refine List.pairwise_map.2 (List.pairwise_iff_getElem.2 fun i j hi hj hlt heq => ?_)
  have hi' := List.getElem?_eq_getElem hi
  have hj' := List.getElem?_eq_getElem hj
  obtain ⟨f, hf, hkey, -⟩ := forall₂_getElem? hforms.flip hi'
  obtain ⟨g, hg, hkey', -⟩ := forall₂_getElem? hforms.flip hj'
  exact absurd (field_unique hkeys hf hg hkey (heq ▸ hkey')) (Nat.ne_of_lt hlt)

theorem join_replicate_none (n i : Nat) :
    ((List.replicate n (none : Option Json))[i]?).join = none := by
  rw [List.getElem?_replicate]
  split <;> rfl

theorem fit_of_sameMembers (hkeys : (fields.flatMap Field.keys).Nodup)
    (hforms : List.Forall₂ Writes fields members) (hsame : SameMembers members members') :
    Fit fields (List.replicate fields.length none) members' where
  length := List.length_replicate
  free := fun i _ _ _ => join_replicate_none _ i
  apart := by
    have hnodup := List.pairwise_map.1 (hsame.nodup (keys_nodup_of_writes hkeys hforms))
    refine hnodup.imp_of_mem fun {n n'} hn hn' hne f hf hkey hkey' => hne ?_
    obtain ⟨i, hi⟩ := List.mem_iff_getElem?.1 hf
    obtain ⟨m, hm, heq, -⟩ := source_of_mem hsame hkeys hforms hn hi hkey
    obtain ⟨m', hm', heq', -⟩ := source_of_mem hsame hkeys hforms hn' hi hkey'
    rw [← heq, ← heq', Option.some.inj (hm.symm.trans hm')]
  valid := by
    intro n hn f hf hkey
    obtain ⟨i, hi⟩ := List.mem_iff_getElem?.1 hf
    obtain ⟨m, hm, -, hvalue⟩ := source_of_mem hsame hkeys hforms hn hi hkey
    obtain ⟨m', hm', -, hvalid⟩ := forall₂_getElem? hforms hi
    obtain rfl := Option.some.inj (hm.symm.trans hm')
    exact hvalid n.2 hvalue

theorem held_value? (hkeys : (fields.flatMap Field.keys).Nodup)
    (hforms : List.Forall₂ Writes fields members) (hsame : SameMembers members members')
    (hi : fields[i]? = some f) (hm : members[i]? = some (key, v)) (hkey : key ∈ f.keys) :
    Held v (f.value? members') := by
  cases hvalue : f.value? members' with
  | some w =>
    obtain ⟨key', hkey', hn⟩ := value?_eq_some hvalue
    obtain ⟨m, hm', -, hrestates⟩ := source_of_mem hsame hkeys hforms hn hi hkey'
    obtain rfl := Option.some.inj (hm'.symm.trans hm)
    exact .there hrestates
  | none =>
    by_cases hnull : v = .null
    · exact hnull ▸ .omitted
    · obtain ⟨n, hn, heq⟩ := hsame.kept (key, v) (List.mem_of_getElem? hm) hnull
      exact absurd (heq ▸ hkey) (value?_eq_none.1 hvalue n hn)

/-- From another way to write a record every field gets what it had, or nothing for a null. -/
theorem record_restated (hkeys : (fields.flatMap Field.keys).Nodup)
    (hforms : List.Forall₂ Writes fields members) (hw : Restates (.object members) w) :
    ∃ found, record fields w = .ok found ∧ found.Holds members := by
  obtain ⟨members', rfl, hsame⟩ := sameMembers_of_restates hw
  have hfit := fit_of_sameMembers hkeys hforms hsame
  obtain ⟨values, hscan, hvalues⟩ := scanMembers_eq_ok hkeys hfit
  refine ⟨⟨false, values⟩, ?_, fun i key v hm => ?_⟩
  · rw [record, hscan]
    rfl
  · obtain ⟨f, hi, hkey, -⟩ := forall₂_getElem? hforms.flip hm
    rw [hvalues i f hi, join_replicate_none, Option.none_or]
    exact held_value? hkeys hforms hsame hi hm hkey

variable {found : Found}

/-- A field that had a value other than null has it still, written one way or another. -/
theorem Found.Holds.there (h : found.Holds members) (hi : members[i]? = some (key, v))
    (hv : v ≠ .null) : ∃ w, (found.values[i]?).join = some w ∧ Restates v w := by
  have hheld := h i key v hi
  generalize (found.values[i]?).join = o at hheld ⊢
  cases hheld with
  | there hw => exact ⟨_, rfl, hw⟩
  | omitted => exact absurd rfl hv

theorem Found.Holds.required (h : found.Holds members) (hd : ReadsBack d form)
    (hi : members[i]? = some (key, form a)) : found.required i d = .ok a := by
  obtain ⟨w, hvalue, hw⟩ := h.there hi (hd.ne_null a)
  rw [Found.required, hvalue]
  exact hd.reads a w hw

theorem Found.Holds.withDefault (h : found.Holds members) (hd : ReadsBack d form)
    (hi : members[i]? = some (key, form a)) (default : α) :
    found.withDefault i d default = .ok a := by
  obtain ⟨w, hvalue, hw⟩ := h.there hi (hd.ne_null a)
  rw [Found.withDefault, hvalue]
  exact hd.reads a w hw

/-- Nothing is missed if what is left out was nothing. -/
theorem Found.Holds.optional (h : found.Holds members) (hd : ReadsBack d form) {o : Option α}
    (hi : members[i]? = some (key, ofOption form o)) : found.optional i d = .ok o := by
  cases o with
  | some a =>
    obtain ⟨w, hvalue, hw⟩ := h.there hi (hd.ne_null a)
    rw [Found.optional, Found.withDefault, hvalue]
    exact hd.optional (some a) w hw
  | none =>
    have hheld := h i key .null hi
    rw [Found.optional, Found.withDefault]
    generalize (found.values[i]?).join = found' at hheld ⊢
    cases hheld with
    | there hw => exact hd.optional none _ hw
    | omitted => rfl

/-! ## Two members for one field -/

theorem scanMembers_append (values : List (Option Json)) (before after : Dict Json) :
    scanMembers fields values (before ++ after) =
      (scanMembers fields values before).bind fun values => scanMembers fields values after := by
  induction before generalizing values with
  | nil => rfl
  | cons m rest ih =>
    rw [List.cons_append, scanMembers_cons, scanMembers_cons]
    cases put fields values m.1 m.2 with
    | error fault => rfl
    | ok values => exact ih values

theorem length_put {values' : List (Option Json)} (h : put fields values key v = .ok values') :
    values'.length = values.length := by
  unfold put at h
  split at h
  · cases h
    rfl
  · split at h
    · cases h
    · split at h
      · next f _ =>
        cases hvalid : within key (f.test v) with
        | error fault =>
          rw [hvalid] at h
          cases h
        | ok =>
          rw [hvalid] at h
          cases h
          exact List.length_set
      · cases h
        exact List.length_set

theorem length_scanMembers {values' : List (Option Json)}
    (h : scanMembers fields values members = .ok values') : values'.length = values.length := by
  induction members generalizing values with
  | nil =>
    cases h
    rfl
  | cons m rest ih =>
    rw [scanMembers_cons] at h
    cases hput : put fields values m.1 m.2 with
    | error fault =>
      rw [hput] at h
      cases h
    | ok next =>
      rw [hput] at h
      exact (ih h).trans (length_put hput)

/-- Two scans fail in the same way, or what they find differs at one place and nowhere else. -/
inductive Differ (i : Nat) (v w : Json) :
    Except Fault (List (Option Json)) → Except Fault (List (Option Json)) → Prop
  | fault (fault : Fault) : Differ i v w (.error fault) (.error fault)
  | found {values : List (Option Json)} (hlt : i < values.length) :
    Differ i v w (.ok (values.set i (some v))) (.ok (values.set i (some w)))

theorem put_set (hlt : i < values.length) (v w x : Json) :
    Differ i v w (put fields (values.set i (some v)) key x)
      (put fields (values.set i (some w)) key x) := by
  unfold put
  split
  · exact .found hlt
  · next j _ =>
    by_cases hij : i = j
    · -- the place is taken, whichever value took it
      subst hij
      simp only [List.getElem?_set_self hlt, Option.join_some, Option.isSome_some, if_true]
      exact .fault _
    · rw [List.getElem?_set_ne hij, List.getElem?_set_ne hij, List.set_comm _ _ hij,
        List.set_comm _ _ hij]
      have hlt' : i < (values.set j (some x)).length := by rwa [List.length_set]
      split
      · exact .fault _
      · split
        · next f _ =>
          cases within key (f.test x) with
          | error fault => exact .fault fault
          | ok => exact .found hlt'
        · exact .found hlt'

theorem scanMembers_set (hlt : i < values.length) (v w : Json) (members : Dict Json) :
    Differ i v w (scanMembers fields (values.set i (some v)) members)
      (scanMembers fields (values.set i (some w)) members) := by
  induction members generalizing values with
  | nil => exact .found hlt
  | cons m rest ih =>
    rw [scanMembers_cons, scanMembers_cons]
    have hput : Differ i v w (put fields (values.set i (some v)) m.1 m.2)
      (put fields (values.set i (some w)) m.1 m.2) := put_set hlt v w m.2
    generalize put fields (values.set i (some v)) m.1 m.2 = result at hput ⊢
    generalize put fields (values.set i (some w)) m.1 m.2 = result' at hput ⊢
    cases hput with
    | fault f => exact .fault f
    | found hlt' => exact ih hlt'

theorem scanMembers_differ (hkeys : (fields.flatMap Field.keys).Nodup) (hi : fields[i]? = some f)
    (hlt : i < values.length) {key key' : String} (hkey : key ∈ f.keys) (hkey' : key' ∈ f.keys)
    (hv : f.test v = .ok ()) (hw : f.test w = .ok ()) (before after : Dict Json) :
    Differ i v w (scanMembers fields values (before ++ (key, v) :: after))
      (scanMembers fields values (before ++ (key', w) :: after)) := by
  rw [scanMembers_append, scanMembers_append]
  cases hbefore : scanMembers fields values before with
  | error f => exact .fault f
  | ok next =>
    simp only [Except.bind, scanMembers_cons, put_of_mem hkeys hi hkey hv,
      put_of_mem hkeys hi hkey' hw]
    by_cases htaken : ((next[i]?).join).isSome
    · rw [if_pos htaken, if_pos htaken]
      exact .fault _
    · rw [if_neg htaken, if_neg htaken]
      exact scanMembers_set (length_scanMembers hbefore ▸ hlt) v w after

/-- Which of two members for one field an object has makes a difference for that field alone, whatever
stands before and after. -/
theorem record_differ (hkeys : (fields.flatMap Field.keys).Nodup) (hi : fields[i]? = some f)
    {key key' : String} (hkey : key ∈ f.keys) (hkey' : key' ∈ f.keys) (hv : f.test v = .ok ())
    (hw : f.test w = .ok ()) (before after : Dict Json) :
    (∃ fault, record fields (.object (before ++ (key, v) :: after)) = .error fault ∧
      record fields (.object (before ++ (key', w) :: after)) = .error fault) ∨
    ∃ values : List (Option Json), i < values.length ∧
      record fields (.object (before ++ (key, v) :: after)) =
        .ok ⟨false, values.set i (some v)⟩ ∧
      record fields (.object (before ++ (key', w) :: after)) =
        .ok ⟨false, values.set i (some w)⟩ := by
  have hlt : i < (List.replicate fields.length (none : Option Json)).length := by
    rw [List.length_replicate]
    exact (List.getElem?_eq_some_iff.1 hi).1
  have hscans := scanMembers_differ hkeys hi hlt hkey hkey' hv hw before after
  simp only [record]
  generalize scanMembers fields _ (before ++ (key, v) :: after) = result at hscans ⊢
  generalize scanMembers fields _ (before ++ (key', w) :: after) = result' at hscans ⊢
  cases hscans with
  | fault f => exact .inl ⟨f, rfl, rfl⟩
  | found hlt' => exact .inr ⟨_, hlt', rfl, rfl⟩

theorem required_set_self {positional : Bool} (hlt : i < values.length) (v : Json) :
    Found.required ⟨positional, values.set i (some v)⟩ i d = d v := by
  rw [Found.required, List.getElem?_set_self hlt]
  rfl

theorem required_set_ne {positional : Bool} (hij : i ≠ j) (o : Option Json) :
    Found.required ⟨positional, values.set i o⟩ j d = Found.required ⟨positional, values⟩ j d := by
  rw [Found.required, List.getElem?_set_ne hij, Found.required]

theorem withDefault_set_ne {positional : Bool} (hij : i ≠ j) (o : Option Json) (default : α) :
    Found.withDefault ⟨positional, values.set i o⟩ j d default =
      Found.withDefault ⟨positional, values⟩ j d default := by
  rw [Found.withDefault, List.getElem?_set_ne hij, Found.withDefault]

end Decode

end DeviceHub.Json
