/-!
# Dictionaries

A dictionary is a list of keys and values in strictly ascending order of the keys. It is an
abbreviation of a list type and not a type of its own, so that a value type may contain
dictionaries of itself.

* `get?_insert`, `get?_erase`: what the two writing operations do to every key.
* `Ordered.insert`, `Ordered.erase`: they keep the order.
* `Ordered.get?_eq_some`: in a dictionary in order every entry is the value of its key.
* `Ordered.get?_ofList_append`: what is added to a list of entries counts more than what it had.
-/
namespace DeviceHub

/-- Keys and values, ascending by key. -/
abbrev Dict (α : Type) := List (String × α)

namespace Dict

variable {α β : Type}

/-- The order that every dictionary made by `insert` and `erase` has. -/
def Ordered (d : Dict α) : Prop := d.Pairwise fun a b => a.1 < b.1

/-- The value of a key. -/
def get? (d : Dict α) (key : String) : Option α :=
  match d with
  | [] => none
  | (k, v) :: rest => if k = key then some v else get? rest key

def contains (d : Dict α) (key : String) : Bool := (d.get? key).isSome

/-- The dictionary with one key given a value. -/
def insert (d : Dict α) (key : String) (value : α) : Dict α :=
  match d with
  | [] => [(key, value)]
  | (k, v) :: rest =>
    if key < k then (key, value) :: (k, v) :: rest
    else if k = key then (key, value) :: rest
    else (k, v) :: insert rest key value

/-- The dictionary without one key. -/
def erase (d : Dict α) (key : String) : Dict α := d.filter fun e => e.1 ≠ key

def keys (d : Dict α) : List String := d.map Prod.fst

def values (d : Dict α) : List α := d.map Prod.snd

/-- The dictionary of a list of keys and values; of one key's values the last counts. -/
def ofList (entries : List (String × α)) : Dict α :=
  entries.foldl (fun d e => d.insert e.1 e.2) []

/-- The same keys with other values. -/
def mapValues (f : α → β) (d : Dict α) : Dict β := d.map fun e => (e.1, f e.2)

/-- Some items by a key of theirs, those of one key in the order in which they came. -/
def grouped {ι : Type} (key : ι → String) (f : ι → α) (items : List ι) : Dict (List α) :=
  items.foldr (fun i d => d.insert (key i) (f i :: (d.get? (key i)).getD [])) []

theorem get?_insert (d : Dict α) (key other : String) (value : α) :
    (d.insert key value).get? other = if key = other then some value else d.get? other := by
  induction d with
  | nil => simp [insert, get?]
  | cons e rest ih =>
    obtain ⟨k, v⟩ := e
    simp only [insert]
    split
    · simp [get?]
    · split
      · next h => subst h; by_cases h : k = other <;> simp [get?, h]
      · next hne =>
        by_cases h : k = other
        · subst h; simp [get?, Ne.symm hne]
        · simp [get?, h, ih]

theorem get?_erase (d : Dict α) (key other : String) :
    (d.erase key).get? other = if key = other then none else d.get? other := by
  induction d with
  | nil => simp [erase, get?]
  | cons e rest ih =>
    obtain ⟨k, v⟩ := e
    simp only [erase] at ih
    by_cases hk : k = key
    · subst hk
      by_cases h : k = other <;> simp_all [erase, get?]
    · by_cases h : k = other
      · subst h; simp [erase, get?, hk, Ne.symm hk]
      · simpa [erase, get?, hk, h] using ih

theorem get?_mapValues (f : α → β) (d : Dict α) (key : String) :
    (d.mapValues f).get? key = (d.get? key).map f := by
  induction d with
  | nil => rfl
  | cons e rest ih =>
    obtain ⟨k, v⟩ := e
    by_cases hk : k = key
    · simp [mapValues, get?, hk]
    · simpa [mapValues, get?, hk] using ih

theorem mem_insert {d : Dict α} {key : String} {value : α} {e : String × α}
    (h : e ∈ d.insert key value) : e = (key, value) ∨ e ∈ d := by
  induction d with
  | nil => simpa [insert] using h
  | cons hd rest ih =>
    obtain ⟨k, v⟩ := hd
    simp only [insert] at h
    split at h
    · simpa using h
    · split at h
      · simp only [List.mem_cons] at h ⊢; exact h.imp_right Or.inr
      · simp only [List.mem_cons] at h ⊢
        rcases h with h | h
        · exact .inr (.inl h)
        · exact (ih h).imp_right Or.inr

theorem mem_of_get? {d : Dict α} {key : String} {value : α} (h : d.get? key = some value) :
    (key, value) ∈ d := by
  induction d with
  | nil => simp [get?] at h
  | cons e rest ih =>
    obtain ⟨k, v⟩ := e
    simp only [get?] at h
    split at h
    · next hk => subst hk; cases h; exact List.mem_cons_self
    · exact List.mem_cons_of_mem _ (ih h)

theorem Ordered.get?_eq_some {d : Dict α} (hd : d.Ordered) {key : String} {value : α} :
    d.get? key = some value ↔ (key, value) ∈ d := by
  refine ⟨mem_of_get?, fun h => ?_⟩
  induction d with
  | nil => cases h
  | cons e rest ih =>
    obtain ⟨k, v⟩ := e
    have hrest := List.pairwise_cons.1 hd
    simp only [get?]
    rcases List.mem_cons.1 h with h | h
    · cases h; simp
    · have hlt := hrest.1 _ h
      rw [if_neg fun hk => String.lt_irrefl key (by rwa [hk] at hlt)]
      exact ih hrest.2 h

theorem mem_ofList {entries : List (String × α)} {e : String × α} (h : e ∈ ofList entries) :
    e ∈ entries := by
  have key : ∀ (es : List (String × α)) (d : Dict α),
      e ∈ es.foldl (fun d e => d.insert e.1 e.2) d → e ∈ d ∨ e ∈ es := by
    intro es
    induction es with
    | nil => intro d h; exact .inl h
    | cons x es ih =>
      intro d h
      rcases ih _ h with h | h
      · rcases mem_insert h with rfl | h
        · exact .inr List.mem_cons_self
        · exact .inl h
      · exact .inr (List.mem_cons_of_mem _ h)
  exact (key entries [] h).resolve_left (by simp)

theorem contains_iff_mem_keys {d : Dict α} {key : String} :
    d.contains key = true ↔ key ∈ d.keys := by
  unfold contains keys
  induction d with
  | nil => simp [get?]
  | cons e rest ih =>
    by_cases hkey : e.1 = key
    · simp [get?, hkey]
    · simp [get?, hkey, Ne.symm hkey, ih]

theorem get?_eq_none {d : Dict α} {key : String} (h : ∀ e ∈ d, e.1 ≠ key) : d.get? key = none := by
  cases hd : d.get? key with
  | none => rfl
  | some value => exact absurd rfl (h _ (mem_of_get? hd))

theorem Ordered.get?_filter {d : Dict α} (hd : d.Ordered) (p : String × α → Bool) (key : String) :
    Dict.get? (d.filter p) key = (d.get? key).filter fun value => p (key, value) := by
  have hp : (d.filter p).Pairwise fun a b => a.1 < b.1 := hd.filter p
  refine Option.ext fun value => ?_
  rw [Ordered.get?_eq_some hp, List.mem_filter, Option.filter_eq_some_iff, hd.get?_eq_some]

/-- What is added in ascending order counts more than what was there. -/
theorem Ordered.get?_ofList_append {added : Dict α} (h : added.Ordered)
    (entries : List (String × α)) (key : String) :
    (ofList (entries ++ added)).get? key = (added.get? key).or ((ofList entries).get? key) := by
  simp only [ofList, List.foldl_append]
  generalize entries.foldl (fun (d : Dict α) e => d.insert e.1 e.2) [] = d
  induction added generalizing d with
  | nil => rfl
  | cons e rest ih =>
    obtain ⟨k, v⟩ := e
    have hrest := List.pairwise_cons.1 h
    rw [List.foldl_cons, ih hrest.2, get?_insert]
    by_cases hk : k = key
    · subst hk
      have hnone : get? rest k = none := get?_eq_none fun e he heq =>
        absurd (hrest.1 e he) (by rw [heq]; exact String.lt_irrefl k)
      rw [hnone]
      simp [get?]
    · simp [get?, hk]

theorem Ordered.insert {d : Dict α} (h : d.Ordered) (key : String) (value : α) :
    (Dict.insert d key value).Ordered := by
  induction d with
  | nil => simp [Dict.insert, Ordered]
  | cons hd rest ih =>
    obtain ⟨k, v⟩ := hd
    have hrest := List.pairwise_cons.1 h
    simp only [Dict.insert]
    split
    · next hlt =>
      refine List.pairwise_cons.2 ⟨fun e he => ?_, h⟩
      rcases List.mem_cons.1 he with rfl | he
      · exact hlt
      · exact String.lt_trans hlt (hrest.1 e he)
    · split
      · next _ heq => subst heq; exact List.pairwise_cons.2 ⟨hrest.1, hrest.2⟩
      · next hnlt hne =>
        refine List.pairwise_cons.2 ⟨fun e he => ?_, ih hrest.2⟩
        rcases mem_insert he with rfl | he
        · exact Std.lt_of_le_of_ne (String.not_lt.1 hnlt) hne
        · exact hrest.1 e he

theorem Ordered.erase {d : Dict α} (h : d.Ordered) (key : String) : (Dict.erase d key).Ordered :=
  List.Pairwise.filter _ h

end Dict

end DeviceHub
