import DeviceHub.Dict
import Mathlib.Data.List.Induction
import Mathlib.Data.List.Sort
import Mathlib.Data.String.Basic

/-!
# Dictionaries and lists of entries

A dictionary in order is what it says under its keys. So two lists of entries make one dictionary when
they say the same, whatever their order.

* `Ordered.ext`: dictionaries that say the same are the same.
* `get?_ofList_eq_some`: of one key's entries the last counts.
* `ofList_perm`: the entries of a dictionary make the dictionary again, in whatever order they come.
-/
namespace DeviceHub.Dict

variable {α : Type} {d d' : Dict α} {key : String} {value : α}

theorem Ordered.ext (hd : d.Ordered) (hd' : d'.Ordered) (h : ∀ key, d.get? key = d'.get? key) :
    d = d' := by
  have : Std.Irrefl fun a b : String × α => a.1 < b.1 := ⟨fun a => String.lt_irrefl a.1⟩
  have : Std.Antisymm fun a b : String × α => a.1 < b.1 :=
    ⟨fun _ _ hab hba => absurd hba (String.lt_asymm hab)⟩
  refine List.Pairwise.eq_of_mem_iff hd hd' fun e => ?_
  obtain ⟨key, value⟩ := e
  rw [← hd.get?_eq_some, ← hd'.get?_eq_some, h]

theorem Ordered.keys_nodup (hd : d.Ordered) : d.keys.Nodup :=
  List.Pairwise.map Prod.fst (fun _ _ hlt heq => String.lt_irrefl _ (heq ▸ hlt)) hd

theorem ofList_concat (entries : List (String × α)) (e : String × α) :
    ofList (entries ++ [e]) = (ofList entries).insert e.1 e.2 := by
  simp [ofList]

theorem ordered_ofList (entries : List (String × α)) : (ofList entries).Ordered := by
  induction entries using List.reverseRecOn with
  | nil => exact List.Pairwise.nil
  | append_singleton entries e ih =>
    rw [ofList_concat]
    exact ih.insert e.1 e.2

/-- The value of a key is that of its last entry. -/
theorem get?_ofList_eq_some {entries : List (String × α)} :
    (ofList entries).get? key = some value ↔
      ∃ before after, entries = before ++ (key, value) :: after ∧ ∀ e ∈ after, e.1 ≠ key := by
  induction entries using List.reverseRecOn with
  | nil => simp [ofList, get?]
  | append_singleton entries e ih =>
    rw [ofList_concat, get?_insert]
    constructor
    · intro h
      split at h
      · next hkey =>
        cases h
        exact ⟨entries, [], by rw [← hkey], by simp⟩
      · next hkey =>
        obtain ⟨before, after, rfl, hafter⟩ := ih.1 h
        refine ⟨before, after ++ [e], by simp, fun other hother => ?_⟩
        rcases List.mem_append.1 hother with hother | hother
        · exact hafter other hother
        · rwa [List.mem_singleton.1 hother]
    · rintro ⟨before, after, heq, hafter⟩
      cases after using List.reverseRecOn with
      | nil =>
        obtain ⟨-, rfl⟩ := List.append_singleton_inj.1 heq
        exact if_pos rfl
      | append_singleton after last =>
        rw [← List.cons_append, ← List.append_assoc] at heq
        obtain ⟨rfl, rfl⟩ := List.append_singleton_inj.1 heq
        rw [if_neg (hafter e (by simp))]
        exact ih.2 ⟨before, after, rfl, fun other hother => hafter other (by simp [hother])⟩

theorem ofList_perm {entries : List (String × α)} (hd : d.Ordered) (h : entries.Perm d) :
    ofList entries = d := by
  refine (ordered_ofList entries).ext hd fun key => Option.ext fun value => ?_
  have hkeys : (entries.map Prod.fst).Nodup := (h.map Prod.fst).nodup_iff.2 hd.keys_nodup
  rw [get?_ofList_eq_some, hd.get?_eq_some, ← h.mem_iff]
  constructor
  · rintro ⟨before, after, rfl, -⟩
    exact List.mem_append_right _ List.mem_cons_self
  · intro hmem
    obtain ⟨before, after, rfl⟩ := List.append_of_mem hmem
    refine ⟨before, after, rfl, fun e he heq => ?_⟩
    rw [List.map_append, List.map_cons, List.nodup_append] at hkeys
    exact (List.nodup_cons.1 hkeys.2.1).1 (List.mem_map.2 ⟨e, he, heq⟩)

end DeviceHub.Dict
