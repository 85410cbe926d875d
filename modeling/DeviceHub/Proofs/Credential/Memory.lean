import DeviceHub.Credential.Store
import Mathlib.Order.Bounds.Defs

/-!
# What a credential store remembers

A store is changed by calls about any bridges, in any order. What it says about one bridge depends
on the calls about that bridge since it was last removed, and on nothing else: the credential stored
last, until it is dropped; the refresh token given last; and the latest of all expiries that were
given, which is the one that is published.

`since` reads these calls off a history, the latest first, and `slotOf` is what they leave behind.

* `slot_run`: a slot is what the calls about its bridge leave behind.
* `slotOf_append`: of the calls after a `replace` only those that drop its credential count.
* `latest_slotOf`: what is published is the latest of all that was given.
* `remembers`: what the store says, in terms of the calls.
-/
namespace DeviceHub.CredentialStore

/-- A call that can change a store. -/
inductive Act where
  | replace (bridge : String) (c : Credential)
  | invalidate (bridge : String)
  | invalidateIf (bridge : String) (refused : Credential)
  | remove (bridge : String)
  deriving DecidableEq

/-- The bridge that a call is about. -/
def Act.bridge : Act → String
  | .replace bridge _ | .invalidate bridge | .invalidateIf bridge _ | .remove bridge => bridge

def step (store : CredentialStore) : Act → CredentialStore
  | .replace bridge c => (store.replace bridge c).2
  | .invalidate bridge => store.invalidate bridge
  | .invalidateIf bridge refused => (store.invalidateIf bridge refused).2
  | .remove bridge => store.remove bridge

/-- A store after some calls, the first call first. -/
def run (acts : List Act) : CredentialStore := acts.foldl step []

/-! ## Histories -/

/-- A call about a bridge that does not remove it. -/
inductive Deed where
  | stored (c : Credential)
  | dropped
  | refused (c : Credential)
  deriving DecidableEq

namespace Deed

/-- The credential that is given. -/
def given? : Deed → Option Credential
  | .stored c => some c
  | _ => none

/-- Whether a credential that is stored gets dropped. -/
def drops (c : Credential) : Deed → Bool
  | .stored _ => false
  | .dropped => true
  | .refused r => c.sameToken r

/-- What is done to the slot. -/
def apply (s : CredentialSlot) : Deed → CredentialSlot
  | .stored c => s.replace c
  | .dropped => s.invalidate
  | .refused c => if s.holds c then s.invalidate else s

end Deed

/-- The calls about a bridge so far, and one more. -/
def note (bridge : String) (past : List Deed) (a : Act) : List Deed :=
  if a.bridge = bridge then
    match a with
    | .replace _ c => .stored c :: past
    | .invalidate _ => .dropped :: past
    | .invalidateIf _ refused => .refused refused :: past
    | .remove _ => []
  else past

/-- The calls about a bridge since it was last removed, the latest first. -/
def since (bridge : String) (acts : List Act) : List Deed := acts.foldl (note bridge) []

theorem since_append (bridge : String) (acts more : List Act) :
    since bridge (acts ++ more) = more.foldl (note bridge) (since bridge acts) :=
  List.foldl_append ..

/-- The credentials that were given, the latest first. -/
def given (past : List Deed) : List Credential := past.filterMap Deed.given?

/-- The expiries of credentials. -/
def expiries (cs : List Credential) : Set Instant := {e | ∃ c ∈ cs, c.expiresAt = e}

/-- What calls leave behind in the slot of their bridge. -/
def slotOf : List Deed → CredentialSlot
  | [] => .empty
  | d :: past => d.apply (slotOf past)

theorem slot_step_of_ne (store : CredentialStore) {a : Act} {bridge : String}
    (h : a.bridge ≠ bridge) : (store.step a).slot bridge = store.slot bridge := by
  cases a with
  | replace b c => exact (slot_replace ..).trans (if_neg h)
  | invalidate b => exact (slot_invalidate ..).trans (if_neg h)
  | invalidateIf b refused => exact (slot_invalidateIf ..).trans (if_neg fun hb => h hb.1)
  | remove b => exact (slot_remove ..).trans (if_neg h)

/-- What a call does to the slot of its bridge is what is noted. -/
theorem slot_step_self {store : CredentialStore} {past : List Deed} (a : Act)
    (h : store.slot a.bridge = slotOf past) :
    (store.step a).slot a.bridge = slotOf (note a.bridge past a) := by
  unfold note
  rw [if_pos rfl]
  cases a with
  | replace b c =>
    have h : store.slot b = slotOf past := h
    refine (slot_replace ..).trans ((if_pos rfl).trans ?_)
    rw [h]
    rfl
  | invalidate b =>
    have h : store.slot b = slotOf past := h
    refine (slot_invalidate ..).trans ((if_pos rfl).trans ?_)
    rw [h]
    rfl
  | invalidateIf b refused =>
    have h : store.slot b = slotOf past := h
    have hslot := slot_invalidateIf store b b refused
    simp only [true_and, h] at hslot
    exact hslot
  | remove b => exact (slot_remove ..).trans (if_pos rfl)

theorem slot_step {store : CredentialStore} {bridge : String} {past : List Deed}
    (h : store.slot bridge = slotOf past) (a : Act) :
    (store.step a).slot bridge = slotOf (note bridge past a) := by
  by_cases hb : a.bridge = bridge
  · subst hb
    exact slot_step_self a h
  · rw [slot_step_of_ne store hb, h]
    unfold note
    rw [if_neg hb]

theorem slot_foldl {store : CredentialStore} {bridge : String} {past : List Deed}
    (h : store.slot bridge = slotOf past) (acts : List Act) :
    (acts.foldl step store).slot bridge = slotOf (acts.foldl (note bridge) past) := by
  induction acts generalizing store past with
  | nil => exact h
  | cons a acts ih => exact ih (slot_step h a)

theorem slot_run (bridge : String) (acts : List Act) :
    (run acts).slot bridge = slotOf (since bridge acts) :=
  slot_foldl rfl acts

/-! ## What a slot holds -/

/-- Of the calls after a `replace` only those count that drop its credential. -/
theorem slotOf_append (c : Credential) (earlier : List Deed) {later : List Deed}
    (h : given later = []) :
    slotOf (later ++ .stored c :: earlier) =
      if later.any (Deed.drops c) then ((slotOf earlier).replace c).invalidate
      else (slotOf earlier).replace c := by
  induction later with
  | nil => rfl
  | cons d later ih =>
    cases d with
    | stored other => cases h
    | dropped =>
      have hslot := ih h
      simp only [List.cons_append, slotOf, Deed.apply, hslot, List.any_cons, Deed.drops,
        Bool.true_or, if_true]
      split <;> rfl
    | refused r =>
      have hslot := ih h
      have hholds : ((slotOf earlier).replace c).holds r = c.sameToken r := by
        simp only [CredentialSlot.holds, CredentialSlot.current_replace, Option.any_some]
        exact CredentialSlot.sameToken_published ..
      simp only [List.cons_append, slotOf, Deed.apply, hslot, List.any_cons, Deed.drops]
      by_cases hdropped : later.any (Deed.drops c) = true
      · simp [hdropped, CredentialSlot.holds, CredentialSlot.invalidate_current]
      · simp [hdropped, hholds]

theorem current_of_given_nil {past : List Deed} (h : given past = []) :
    (slotOf past).current = none := by
  induction past with
  | nil => rfl
  | cons d past ih =>
    cases d with
    | stored c => cases h
    | dropped => rfl
    | refused r =>
      have hnone := ih h
      simp [slotOf, Deed.apply, CredentialSlot.holds, hnone]

theorem refreshToken_slotOf (past : List Deed) :
    (slotOf past).refreshToken = (given past).findSome? Credential.refreshToken := by
  induction past with
  | nil => rfl
  | cons d past ih =>
    cases d with
    | stored c =>
      simp only [slotOf, Deed.apply, CredentialSlot.refreshToken_replace, ih, given,
        List.filterMap_cons, Deed.given?, List.findSome?_cons]
      cases c.refreshToken <;> rfl
    | dropped => exact ih
    | refused r =>
      simp only [slotOf, Deed.apply]
      split <;> exact ih

/-! ## What is published -/

/-- The latest expiry of some credentials, if there are any. -/
inductive Latest (cs : List Credential) : Option Instant → Prop where
  | none (nothing : cs = []) : Latest cs none
  | some {e : Instant} (greatest : IsGreatest (expiries cs) e) : Latest cs (some e)

theorem Latest.published {cs : List Credential} {s : CredentialSlot} (h : Latest cs s.latestExpiry)
    (c : Credential) : IsGreatest (expiries (c :: cs)) (s.published c).expiresAt := by
  have hself : c.expiresAt ∈ expiries (c :: cs) := ⟨c, List.mem_cons_self, rfl⟩
  unfold CredentialSlot.published
  generalize s.latestExpiry = latest at h
  cases h with
  | none nothing =>
    subst nothing
    refine ⟨hself, ?_⟩
    rintro e ⟨d, hd, rfl⟩
    rw [List.mem_singleton.1 hd]
    exact Instant.le_refl _
  | @some latest greatest =>
    obtain ⟨⟨newest, hnewest, hexpiry⟩, hbound⟩ := greatest
    show IsGreatest _ (Instant.later c.expiresAt latest)
    rcases Instant.later_cases c.expiresAt latest with ⟨hlater, hle⟩ | ⟨hlater, hle⟩
    · rw [hlater]
      refine ⟨⟨newest, List.mem_cons_of_mem _ hnewest, hexpiry⟩, ?_⟩
      rintro e ⟨d, hd, rfl⟩
      rcases List.mem_cons.1 hd with rfl | hd
      · exact hle
      · exact hbound ⟨d, hd, rfl⟩
    · rw [hlater]
      refine ⟨hself, ?_⟩
      rintro e ⟨d, hd, rfl⟩
      rcases List.mem_cons.1 hd with rfl | hd
      · exact Instant.le_refl _
      · exact Instant.le_trans (hbound ⟨d, hd, rfl⟩) hle

/-- Dropping a credential does not lower what was published. -/
theorem latest_slotOf (past : List Deed) : Latest (given past) (slotOf past).latestExpiry := by
  induction past with
  | nil => exact .none rfl
  | cons d past ih =>
    cases d with
    | stored c => exact .some (ih.published c)
    | dropped => exact ih
    | refused r =>
      simp only [slotOf, Deed.apply]
      split <;> exact ih

/-- The credential that there is has the latest expiry. -/
theorem isGreatest_of_current {past : List Deed} {shown : Credential}
    (h : (slotOf past).current = some shown) :
    IsGreatest (expiries (given past)) shown.expiresAt := by
  have hlatest : (slotOf past).latestExpiry = some shown.expiresAt := by
    induction past with
    | nil => cases h
    | cons d past ih =>
      cases d with
      | stored c =>
        have hshown : some ((slotOf past).published c) = some shown := h
        cases hshown
        rfl
      | dropped => cases h
      | refused r =>
        simp only [slotOf, Deed.apply] at h ⊢
        split at h
        · cases h
        · next hkept =>
          rw [if_neg hkept]
          exact ih h
  have hgreatest := latest_slotOf past
  rw [hlatest] at hgreatest
  cases hgreatest with
  | some greatest => exact greatest

/-! ## What a store says -/

theorem note_grows {bridge : String} {a : Act} (h : a ≠ .remove bridge) (past : List Deed) :
    past <:+ note bridge past a := by
  unfold note
  split
  · next hbridge =>
    cases a with
    | replace | invalidate | invalidateIf => exact List.suffix_cons ..
    | remove b =>
      have hb : b = bridge := hbridge
      exact absurd (by rw [hb]) h
  · exact List.suffix_refl _

/-- As long as a bridge is not removed, its history grows. -/
theorem since_grows (bridge : String) (acts : List Act) {more : List Act}
    (h : .remove bridge ∉ more) : since bridge acts <:+ since bridge (acts ++ more) := by
  rw [since_append]
  generalize since bridge acts = past
  induction more generalizing past with
  | nil => exact List.suffix_refl _
  | cons a more ih =>
    obtain ⟨ha, hmore⟩ := not_or.1 (mt List.mem_cons.2 h)
    exact (note_grows (Ne.symm ha) past).trans (ih hmore _)

/-- What a store says about a bridge after some calls. -/
structure Remembers (bridge : String) (acts : List Act) : Prop where
  /-- There is no credential when none was given. -/
  nothing : given (since bridge acts) = [] →
    (run acts).current? bridge = none ∧ ∀ margin now, (run acts).fresh? bridge margin now = none
  /-- There is the credential that was given last, with the latest expiry, unless a later call
  dropped it. -/
  current : ∀ later c earlier, since bridge acts = later ++ .stored c :: earlier →
    given later = [] →
    ∃ latest, IsGreatest (expiries (given (since bridge acts))) latest ∧
      (run acts).current? bridge =
        if later.any (Deed.drops c) then none else some { c with expiresAt := latest }
  /-- Whether it is good depends on the expiry it was given with. -/
  fresh : ∀ later c earlier, since bridge acts = later ++ .stored c :: earlier →
    given later = [] → ∀ margin now, (run acts).fresh? bridge margin now =
      if c.expiresAt.isWithin margin now then none else (run acts).current? bridge
  /-- A `replace` returns the credential with the latest expiry, and this is what there is then. -/
  replaced : ∀ c, ∃ latest, IsGreatest (expiries (c :: given (since bridge acts))) latest ∧
    ((run acts).replace bridge c).1 = { c with expiresAt := latest } ∧
    ((run acts).replace bridge c).2.current? bridge = some { c with expiresAt := latest }
  /-- Whatever is called next, the bridge is shown with no earlier expiry again. -/
  lasting : ∀ shown, (run acts).current? bridge = some shown → ∀ more, .remove bridge ∉ more →
    (∀ c, (run (acts ++ more)).current? bridge = some c → shown.expiresAt ≤ c.expiresAt) ∧
    ∀ c, shown.expiresAt ≤ ((run (acts ++ more)).replace bridge c).1.expiresAt
  /-- There is the refresh token that was given last. -/
  refreshToken : (run acts).refreshToken? bridge =
    (given (since bridge acts)).findSome? Credential.refreshToken
  /-- An `invalidateIf` says whether it dropped the credential, and does nothing when it did not. -/
  refused : ∀ c,
    (((run acts).invalidateIf bridge c).1 = true ↔
      ((run acts).current? bridge).isSome ∧
        ((run acts).invalidateIf bridge c).2.current? bridge = none) ∧
    (((run acts).invalidateIf bridge c).1 = false → ((run acts).invalidateIf bridge c).2 = run acts)
  /-- A call about another bridge is not noticed. -/
  others : ∀ a : Act, a.bridge ≠ bridge →
    ((run acts).step a).slot bridge = (run acts).slot bridge

/-- An `invalidateIf` drops the credential or does nothing. -/
theorem refused_iff (store : CredentialStore) (bridge : String) (c : Credential) :
    ((store.invalidateIf bridge c).1 = true ↔
      (store.current? bridge).isSome ∧ (store.invalidateIf bridge c).2.current? bridge = none) ∧
    ((store.invalidateIf bridge c).1 = false → (store.invalidateIf bridge c).2 = store) := by
  unfold invalidateIf
  by_cases h : (store.slot bridge).holds c = true
  · have hsome : (store.current? bridge).isSome = true := by
      unfold current?
      cases hcurrent : (store.slot bridge).current with
      | none => simp [CredentialSlot.holds, hcurrent] at h
      | some held => rfl
    have hnone : (store.invalidate bridge).current? bridge = none := by
      unfold current?
      rw [slot_invalidate, if_pos rfl]
      exact (CredentialSlot.invalidate_current _).1
    simp [h, hsome, hnone]
  · have hkept : ¬((store.current? bridge).isSome = true ∧ store.current? bridge = none) := by
      rintro ⟨hsome, hnone⟩
      rw [hnone] at hsome
      cases hsome
    rw [if_neg h]
    exact ⟨⟨fun ht => (Bool.noConfusion ht), fun hd => absurd hd hkept⟩, fun _ => rfl⟩

theorem given_append (later earlier : List Deed) :
    given (later ++ earlier) = given later ++ given earlier := List.filterMap_append ..

theorem current?_run (bridge : String) (acts : List Act) :
    (run acts).current? bridge = (slotOf (since bridge acts)).current := by
  unfold current?
  rw [slot_run]

theorem published_run (bridge : String) (acts : List Act) (c : Credential) :
    ((run acts).replace bridge c).1 = (slotOf (since bridge acts)).published c := by
  rw [← slot_run]
  rfl

/-- An expiry that is shown stays a lower bound for those that are shown later. -/
theorem le_of_shown {bridge : String} {acts more : List Act} {shown : Credential}
    (hshown : (run acts).current? bridge = some shown) (hmore : .remove bridge ∉ more) :
    (∀ c, (run (acts ++ more)).current? bridge = some c → shown.expiresAt ≤ c.expiresAt) ∧
    ∀ c, shown.expiresAt ≤ ((run (acts ++ more)).replace bridge c).1.expiresAt := by
  rw [current?_run] at hshown
  obtain ⟨⟨newest, hnewest, hexpiry⟩, -⟩ := isGreatest_of_current hshown
  obtain ⟨newer, hnewer⟩ := since_grows bridge acts hmore
  have hmem : newest ∈ given (since bridge (acts ++ more)) := by
    rw [← hnewer, given_append]
    exact List.mem_append_right _ hnewest
  rw [← hexpiry]
  refine ⟨fun c hc => ?_, fun c => ?_⟩
  · rw [current?_run] at hc
    exact (isGreatest_of_current hc).2 ⟨newest, hmem, rfl⟩
  · rw [published_run]
    have hpublished := (latest_slotOf (since bridge (acts ++ more))).published c
    exact hpublished.2 ⟨newest, List.mem_cons_of_mem _ hmem, rfl⟩

theorem remembers (bridge : String) (acts : List Act) : Remembers bridge acts where
  nothing h := by
    have hnone := current_of_given_nil h
    refine ⟨(current?_run ..).trans hnone, fun margin now => ?_⟩
    unfold fresh?
    rw [slot_run]
    simp [CredentialSlot.fresh?, hnone]
  current later c earlier hpast hlater := by
    have hgiven : given (since bridge acts) = c :: given earlier := by
      rw [hpast, given_append, hlater]
      rfl
    refine ⟨((slotOf earlier).published c).expiresAt, ?_, ?_⟩
    · rw [hgiven]
      exact (latest_slotOf earlier).published c
    · rw [current?_run, hpast, slotOf_append c earlier hlater, ← CredentialSlot.published_eq]
      split <;> rfl
  fresh later c earlier hpast hlater margin now := by
    unfold fresh?
    rw [current?_run, slot_run, hpast, slotOf_append c earlier hlater]
    split
    · simp [CredentialSlot.fresh?, CredentialSlot.invalidate_current]
    · exact CredentialSlot.fresh?_replace ..
  replaced c := by
    refine ⟨_, (latest_slotOf (since bridge acts)).published c, ?_, ?_⟩
    · rw [published_run, ← CredentialSlot.published_eq]
    · rw [current?_replace, published_run, ← CredentialSlot.published_eq]
  lasting shown hshown more hmore := le_of_shown hshown hmore
  refreshToken := by
    unfold refreshToken?
    rw [slot_run]
    exact refreshToken_slotOf _
  refused := refused_iff (run acts) bridge
  others a ha := slot_step_of_ne _ ha

/-- A credential that is given after one that lives longer is shown with the longer life, but
renewed in time, and the refresh token of the other is kept. -/
example :
    let long : Credential := ⟨"a", "Bearer", .last, some "r"⟩
    let short : Credential := ⟨"b", "Bearer", .epoch, none⟩
    let store := run [.replace "hub" long, .invalidate "hub", .replace "hub" short]
    store.current? "hub" = some { short with expiresAt := .last } ∧
      store.fresh? "hub" 0 .epoch = none ∧ store.refreshToken? "hub" = some "r" := by
  decide +kernel

end DeviceHub.CredentialStore
