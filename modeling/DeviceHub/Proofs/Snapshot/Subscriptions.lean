import DeviceHub.Snapshot.Store
import Mathlib.Data.List.Induction

/-!
# What a snapshot store answers

A store is a map of the latest snapshots that counts its changes, and whoever subscribes to a device
hears of the snapshots that come for it until the device is removed. A device that was removed and
comes back has another slot, so an old subscription does not hear of it.

All this is said of sessions: any calls about any devices, in any order, and the subscriptions that
were made in them. `latest?` and `unread` read off a history what a reader should find.

* `Numbered`: slots are told apart by numbers that are used once; every call keeps this.
* `get?_after`: what is kept of a device is what its calls leave behind.
* `tracked`: a subscription stays tied to the slot it was made of, and to no other.
* `answers_latest`: every answer of a session, in terms of its calls.
-/
namespace DeviceHub

namespace SnapshotStore

/-! ## Slots -/

section

variable {s : SnapshotStore} {device other : String} {snapshot : Snapshot}

theorem slotFor_fst (s : SnapshotStore) (device : String) :
    (s.slotFor device).1 = (s.slots.get? device).getD ⟨s.nextNumber, none, 0⟩ := by
  unfold slotFor
  split <;> simp [*]

theorem slotFor_of_some {slot : SnapshotSlot} (h : s.slots.get? device = some slot) :
    s.slotFor device = (slot, s) := by
  simp only [slotFor, h]

theorem slotFor_of_none (h : s.slots.get? device = none) :
    s.slotFor device = (⟨s.nextNumber, none, 0⟩,
      { s with
        slots := s.slots.insert device ⟨s.nextNumber, none, 0⟩
        nextNumber := s.nextNumber + 1 }) := by
  simp only [slotFor, h]

theorem get?_slotFor (s : SnapshotStore) (device other : String) :
    (s.slotFor device).2.slots.get? other =
      if device = other then some (s.slotFor device).1 else s.slots.get? other := by
  cases h : s.slots.get? device with
  | none =>
    rw [slotFor_of_none h]
    exact Dict.get?_insert ..
  | some slot =>
    rw [slotFor_of_some h]
    split
    · next hd => rw [← hd, h]
    · rfl

theorem closed_slotFor (s : SnapshotStore) (device : String) :
    (s.slotFor device).2.closed = s.closed := by
  unfold slotFor
  split <;> rfl

/-- The slot of a device after a snapshot was put in. -/
def filled (slot : SnapshotSlot) (snapshot : Snapshot) : SnapshotSlot :=
  { slot with latest := some snapshot, writes := slot.writes + 1 }

theorem upsert_eq (s : SnapshotStore) (snapshot : Snapshot) :
    s.upsert snapshot =
      { (s.slotFor snapshot.device).2 with
        slots := (s.slotFor snapshot.device).2.slots.insert snapshot.device
          (filled (s.slotFor snapshot.device).1 snapshot)
        version := (s.slotFor snapshot.device).2.version + 1 } := rfl

theorem slots_upsert (s : SnapshotStore) (snapshot : Snapshot) (other : String) :
    (s.upsert snapshot).slots.get? other =
      if snapshot.device = other then
        some (filled (s.slotFor snapshot.device).1 snapshot)
      else s.slots.get? other := by
  rw [upsert_eq, Dict.get?_insert, get?_slotFor]
  split <;> rfl

theorem slots_remove (s : SnapshotStore) (device other : String) :
    (s.remove device).slots.get? other = if device = other then none else s.slots.get? other :=
  Dict.get?_erase ..

/-! ## Numbers of slots -/

/-- Slots stand in the order of their devices and hold snapshots of these. They are told apart by their
numbers, and the number of a slot that was removed is not used again. -/
structure Numbered (s : SnapshotStore) : Prop where
  ordered : s.slots.Ordered
  own : ∀ device slot x, s.slots.get? device = some slot → slot.latest = some x → x.device = device
  lt : ∀ device slot, s.slots.get? device = some slot → slot.number < s.nextNumber
  distinct : ∀ device other slot slot', s.slots.get? device = some slot →
    s.slots.get? other = some slot' → slot.number = slot'.number → device = other
  closed_lt : ∀ e ∈ s.closed, e.1 < s.nextNumber
  gone : ∀ e ∈ s.closed, ∀ device slot, s.slots.get? device = some slot → slot.number ≠ e.1

theorem numbered_empty : Numbered empty where
  ordered := List.Pairwise.nil
  own _ _ _ h := nomatch h
  lt _ _ h := nomatch h
  distinct _ _ _ _ h := nomatch h
  closed_lt _ h := nomatch h
  gone _ h := nomatch h

/-- A new slot has a number of its own. -/
theorem Numbered.slotFor (h : Numbered s) (device : String) : Numbered (s.slotFor device).2 := by
  cases hd : s.slots.get? device with
  | some slot =>
    rw [slotFor_of_some hd]
    exact h
  | none =>
    have hget : ∀ other slot, (s.slotFor device).2.slots.get? other = some slot →
        slot = ⟨s.nextNumber, none, 0⟩ ∧ device = other ∨ s.slots.get? other = some slot := by
      intro other slot hslot
      rw [get?_slotFor, slotFor_fst, hd] at hslot
      split at hslot
      · next hother =>
        cases hslot
        exact .inl ⟨rfl, hother⟩
      · exact .inr hslot
    have hnext : (s.slotFor device).2.nextNumber = s.nextNumber + 1 := by
      rw [slotFor_of_none hd]
    refine ⟨?_, fun other slot x hslot hx => ?_, fun other slot hslot => ?_,
      fun a b slot slot' hslot hslot' hnumber => ?_, fun e he => ?_, fun e he other slot hslot => ?_⟩
    · rw [slotFor_of_none hd]
      exact h.ordered.insert ..
    · rcases hget other slot hslot with ⟨rfl, -⟩ | hold
      · cases hx
      · exact h.own other slot x hold hx
    · rw [hnext]
      rcases hget other slot hslot with ⟨rfl, -⟩ | hold
      · exact Nat.lt_succ_self _
      · exact Nat.lt_succ_of_lt (h.lt other slot hold)
    · rcases hget a slot hslot with ⟨rfl, ha⟩ | hold <;>
        rcases hget b slot' hslot' with ⟨rfl, hb⟩ | hold'
      · exact ha.symm.trans hb
      · exact absurd hnumber.symm (Nat.ne_of_lt (h.lt b slot' hold'))
      · exact absurd hnumber (Nat.ne_of_lt (h.lt a slot hold))
      · exact h.distinct a b slot slot' hold hold' hnumber
    · rw [closed_slotFor] at he
      rw [hnext]
      exact Nat.lt_succ_of_lt (h.closed_lt e he)
    · rw [closed_slotFor] at he
      rcases hget other slot hslot with ⟨rfl, -⟩ | hold
      · exact Nat.ne_of_gt (h.closed_lt e he)
      · exact h.gone e he other slot hold

/-- A snapshot is put into the slot of its device, which keeps its number. -/
theorem Numbered.upsert (h : Numbered s) (snapshot : Snapshot) : Numbered (s.upsert snapshot) := by
  have hs := h.slotFor snapshot.device
  have hself : (s.slotFor snapshot.device).2.slots.get? snapshot.device =
      some (s.slotFor snapshot.device).1 := by rw [get?_slotFor, if_pos rfl]
  have hget : ∀ other slot, (s.upsert snapshot).slots.get? other = some slot →
      ∃ old, (s.slotFor snapshot.device).2.slots.get? other = some old ∧
        slot.number = old.number ∧ ∀ x, slot.latest = some x → x.device = other := by
    intro other slot hslot
    rw [upsert_eq, Dict.get?_insert] at hslot
    split at hslot
    · next hother =>
      subst hother
      cases hslot
      refine ⟨_, hself, rfl, fun x hx => ?_⟩
      cases hx
      rfl
    · exact ⟨slot, hslot, rfl, fun x => hs.own other slot x hslot⟩
  refine ⟨hs.ordered.insert .., fun other slot x hslot hx => ?_, fun other slot hslot => ?_,
    fun a b slot slot' hslot hslot' hnumber => ?_, hs.closed_lt, fun e he other slot hslot => ?_⟩
  · obtain ⟨-, -, -, hown⟩ := hget other slot hslot
    exact hown x hx
  · obtain ⟨old, hold, hnumber, -⟩ := hget other slot hslot
    rw [hnumber]
    exact hs.lt other old hold
  · obtain ⟨old, hold, hold', -⟩ := hget a slot hslot
    obtain ⟨new, hnew, hnew', -⟩ := hget b slot' hslot'
    exact hs.distinct a b old new hold hnew (hold'.symm.trans (hnumber.trans hnew'))
  · obtain ⟨old, hold, hnumber, -⟩ := hget other slot hslot
    rw [hnumber]
    exact hs.gone e he other old hold

theorem Numbered.remove (h : Numbered s) (device : String) : Numbered (s.remove device) := by
  have hget : ∀ other slot, (s.remove device).slots.get? other = some slot →
      device ≠ other ∧ s.slots.get? other = some slot := by
    intro other slot hslot
    rw [slots_remove] at hslot
    split at hslot
    · cases hslot
    · next hother => exact ⟨hother, hslot⟩
  have hclosed : ∀ e ∈ (s.remove device).closed, e ∈ s.closed ∨
      ∃ slot, s.slots.get? device = some slot ∧ e = (slot.number, slot.latest) := by
    intro e he
    cases hd : s.slots.get? device with
    | none =>
      simp only [SnapshotStore.remove, hd] at he
      exact .inl he
    | some slot =>
      simp only [SnapshotStore.remove, hd, List.mem_cons] at he
      exact he.symm.imp_right fun he => ⟨slot, rfl, he⟩
  refine ⟨h.ordered.erase device, fun other slot x hslot => h.own other slot x (hget other slot hslot).2,
    fun other slot hslot => h.lt other slot (hget other slot hslot).2,
    fun a b slot slot' hslot hslot' => h.distinct a b slot slot' (hget a slot hslot).2
      (hget b slot' hslot').2, fun e he => ?_, fun e he other slot hslot hnumber => ?_⟩
  · rcases hclosed e he with hold | ⟨slot, hslot, rfl⟩
    · exact h.closed_lt e hold
    · exact h.lt device slot hslot
  · obtain ⟨hother, hslot⟩ := hget other slot hslot
    rcases hclosed e he with hold | ⟨last, hlast, rfl⟩
    · exact h.gone e hold other slot hslot hnumber
    · exact hother (h.distinct device other last slot hlast hslot hnumber.symm)

/-! ## What is there -/

theorem replace_fst (s : SnapshotStore) (snapshot : Snapshot) :
    (s.replace snapshot).1 = s.get? snapshot.device := by
  simp only [replace, slotFor_fst, get?]
  cases s.slots.get? snapshot.device <;> rfl

theorem take_fst (s : SnapshotStore) (device : String) : (s.take device).1 = s.get? device := by
  unfold take get?
  cases s.slots.get? device <;> rfl

theorem take_snd (s : SnapshotStore) (device : String) : (s.take device).2 = s.remove device := by
  unfold take
  split <;> rfl

theorem Numbered.device_of_get? (h : Numbered s) (hget : s.get? device = some snapshot) :
    snapshot.device = device := by
  obtain ⟨slot, hslot, hlatest⟩ := Option.bind_eq_some_iff.1 hget
  exact h.own device slot snapshot hslot hlatest

theorem Numbered.mem_all (h : Numbered s) :
    snapshot ∈ s.all ↔ s.get? snapshot.device = some snapshot := by
  simp only [all, Dict.values, List.mem_filterMap, List.mem_map]
  constructor
  · rintro ⟨slot, ⟨⟨device, slot'⟩, hmem, rfl⟩, hlatest⟩
    have hslot := h.ordered.get?_eq_some.2 hmem
    have hdevice := h.own device slot' snapshot hslot hlatest
    rw [hdevice, get?, hslot]
    exact hlatest
  · intro hget
    obtain ⟨slot, hslot, hlatest⟩ := Option.bind_eq_some_iff.1 hget
    exact ⟨slot, ⟨_, h.ordered.get?_eq_some.1 hslot, rfl⟩, hlatest⟩

theorem Numbered.all_ascending (h : Numbered s) :
    s.all.Pairwise fun a b => a.device < b.device := by
  simp only [all, Dict.values, List.filterMap_map, List.pairwise_filterMap]
  refine h.ordered.imp_of_mem fun {a b} ha hb hlt x hx y hy => ?_
  rw [h.own a.1 a.2 x (h.ordered.get?_eq_some.2 ha) hx,
    h.own b.1 b.2 y (h.ordered.get?_eq_some.2 hb) hy]
  exact hlt

/-! ## Subscriptions -/

/-- The slot that a subscription was made of is there, and some snapshots have been put in since it was
read. -/
def Open (s : SnapshotStore) (r : Subscription) (unread : Nat) : Prop :=
  ∃ slot, s.slots.get? r.device = some slot ∧ slot.number = r.slot ∧
    slot.writes = r.seen + unread

/-- The slot that a subscription was made of is gone, and held some snapshot last. -/
structure Closed (s : SnapshotStore) (r : Subscription) (last : Option Snapshot) : Prop where
  gone : ∀ slot, s.slots.get? r.device = some slot → slot.number ≠ r.slot
  last : (s.closed.find? fun e => e.1 = r.slot) = some (r.slot, last)

variable {r : Subscription} {unread : Nat} {last : Option Snapshot}

theorem Open.read (h : Open s r unread) :
    s.read r = (if unread = 0 then .unchanged else .changed, s.get? r.device,
      { r with seen := r.seen + unread }) := by
  obtain ⟨slot, hslot, hnumber, hwrites⟩ := h
  simp only [SnapshotStore.read, get?, hslot, hnumber, hwrites, if_true, Option.bind_some,
    Nat.add_eq_left]

theorem Closed.read (h : Closed s r last) : s.read r = (.closed, last, r) := by
  have hlast : read.lastOf s r = last := by
    simp only [read.lastOf, h.last, Option.map_some, Option.join_some]
  unfold SnapshotStore.read
  split
  · next slot hslot => rw [if_neg (h.gone slot hslot), hlast]
  · rw [hlast]

theorem open_subscribe (s : SnapshotStore) (device : String) :
    Open (s.subscribe device).2 (s.subscribe device).1 0 :=
  ⟨(s.slotFor device).1, (get?_slotFor ..).trans (if_pos rfl), rfl, rfl⟩

theorem Open.slotFor (h : Open s r unread) (device : String) :
    Open (s.slotFor device).2 r unread := by
  obtain ⟨slot, hslot, hr⟩ := h
  refine ⟨slot, ?_, hr⟩
  rw [get?_slotFor, slotFor_fst]
  split
  · next hd => rw [hd, hslot, Option.getD_some]
  · exact hslot

theorem Open.upsert (h : Open s r unread) (snapshot : Snapshot) :
    Open (s.upsert snapshot) r (if snapshot.device = r.device then unread + 1 else unread) := by
  obtain ⟨slot, hslot, hnumber, hwrites⟩ := h
  unfold Open
  rw [slots_upsert]
  split
  · next hd =>
    rw [slotFor_fst, hd, hslot]
    exact ⟨_, rfl, hnumber, congrArg (· + 1) hwrites⟩
  · exact ⟨slot, hslot, hnumber, hwrites⟩

theorem Open.remove (h : Open s r unread) (hdevice : device ≠ r.device) :
    Open (s.remove device) r unread := by
  obtain ⟨slot, hslot, hr⟩ := h
  exact ⟨slot, by rw [slots_remove, if_neg hdevice, hslot], hr⟩

/-- Whoever is subscribed to a device that is removed keeps what it had last. -/
theorem Open.removed (h : Open s r unread) : Closed (s.remove r.device) r (s.get? r.device) := by
  obtain ⟨slot, hslot, hnumber, -⟩ := h
  refine ⟨fun slot' hslot' => ?_, ?_⟩
  · rw [slots_remove, if_pos rfl] at hslot'
    cases hslot'
  · simp only [SnapshotStore.remove, get?, hslot, List.find?_cons, hnumber, decide_true,
      Option.bind_some]

theorem Closed.lt (h : Closed s r last) (hs : Numbered s) : r.slot < s.nextNumber :=
  hs.closed_lt _ (List.mem_of_find?_eq_some h.last)

theorem Closed.slotFor (h : Closed s r last) (hs : Numbered s) (device : String) :
    Closed (s.slotFor device).2 r last := by
  refine ⟨fun slot hslot => ?_, by rw [closed_slotFor, h.last]⟩
  rw [get?_slotFor, slotFor_fst] at hslot
  split at hslot
  · next hd =>
    subst hd
    cases hslot
    cases hold : s.slots.get? r.device with
    | some old => exact h.gone old hold
    | none => exact Nat.ne_of_gt (h.lt hs)
  · exact h.gone slot hslot

theorem Closed.upsert (h : Closed s r last) (hs : Numbered s) (snapshot : Snapshot) :
    Closed (s.upsert snapshot) r last := by
  have hopened := h.slotFor hs snapshot.device
  refine ⟨fun slot hslot => ?_, hopened.last⟩
  rw [slots_upsert] at hslot
  split at hslot
  · next hd =>
    cases hslot
    have hself : (s.slotFor snapshot.device).2.slots.get? r.device =
        some (s.slotFor snapshot.device).1 := (get?_slotFor ..).trans (if_pos hd)
    exact fun hnumber => hopened.gone _ hself hnumber
  · exact h.gone slot hslot

theorem Closed.remove (h : Closed s r last) (hs : Numbered s) (device : String) :
    Closed (s.remove device) r last := by
  refine ⟨fun slot hslot => ?_, ?_⟩
  · rw [slots_remove] at hslot
    split at hslot
    · cases hslot
    · exact h.gone slot hslot
  · cases hd : s.slots.get? device with
    | none =>
      simp only [SnapshotStore.remove, hd]
      exact h.last
    | some slot =>
      have hne : slot.number ≠ r.slot :=
        hs.gone _ (List.mem_of_find?_eq_some h.last) device slot hd
      simp only [SnapshotStore.remove, hd, List.find?_cons, hne, decide_false]
      exact h.last

end

/-! ## Sessions -/

/-- A call on a store, or on one of the subscriptions that were made of it. -/
inductive Act where
  | upsert (snapshot : Snapshot)
  | get (device : String)
  | remove (device : String)
  | all
  | subscribe (device : String)
  /-- Reads the subscription of a number; they are numbered from 0 in the order of their making. -/
  | read (n : Nat)
  deriving DecidableEq

/-- What a call returns. -/
inductive Answer where
  /-- The snapshot that there was, or is. -/
  | found (snapshot : Option Snapshot)
  | listed (snapshots : List Snapshot)
  | subscribed (n : Nat)
  | seen (reading : Reading) (snapshot : Option Snapshot)
  | noSubscription

namespace Act

/-- The snapshot that a call puts in for a device. -/
def stores? (device : String) : Act → Option Snapshot
  | .upsert snapshot => if snapshot.device = device then some snapshot else none
  | _ => none

/-- Whether a call counts for the version. -/
def isChange : Act → Bool
  | .upsert _ | .remove _ => true
  | _ => false

def isSubscribe : Act → Bool
  | .subscribe _ => true
  | _ => false

end Act

/-- A store and the subscriptions that were made of it. -/
structure Session where
  store : SnapshotStore
  subscriptions : List Subscription

namespace Session

def new : Session := ⟨.empty, []⟩

/-- The answer of a call, and the session after it. -/
def step (s : Session) : Act → Answer × Session
  | .upsert snapshot =>
    let (previous, store) := s.store.replace snapshot
    (.found previous, { s with store := store })
  | .get device => (.found (s.store.get? device), s)
  | .remove device =>
    let (last, store) := s.store.take device
    (.found last, { s with store := store })
  | .all => (.listed s.store.all, s)
  | .subscribe device =>
    let (r, store) := s.store.subscribe device
    (.subscribed s.subscriptions.length, ⟨store, s.subscriptions ++ [r]⟩)
  | .read n =>
    match s.subscriptions[n]? with
    | some r =>
      let (reading, snapshot, r) := s.store.read r
      (.seen reading snapshot, { s with subscriptions := s.subscriptions.set n r })
    | none => (.noSubscription, s)

end Session

/-- A session after some calls, the first call first. -/
def after (acts : List Act) : Session := acts.foldl (fun s a => (s.step a).2) .new

/-- What a call answers after some others. -/
def answer (acts : List Act) (a : Act) : Answer := ((after acts).step a).1

/-- What some calls leave behind of a device: the last snapshot put in since it was last removed. -/
def latest? (device : String) (acts : List Act) : Option Snapshot :=
  (acts.reverse.takeWhile fun a => a ≠ .remove device).findSome? (Act.stores? device)

/-- How many snapshots of a device some calls put in since a subscription was last read. -/
def unread (n : Nat) (device : String) (acts : List Act) : Nat :=
  (acts.reverse.takeWhile fun a => a ≠ .read n).countP fun a => (a.stores? device).isSome

section

variable {acts : List Act} {device : String}

theorem after_concat (acts : List Act) (a : Act) : after (acts ++ [a]) = ((after acts).step a).2 := by
  simp only [after, List.foldl_append, List.foldl_cons, List.foldl_nil]

theorem latest?_concat (device : String) (acts : List Act) (a : Act) :
    latest? device (acts ++ [a]) =
      if a = .remove device then none else (a.stores? device).or (latest? device acts) := by
  unfold latest?
  by_cases ha : a = .remove device
  · simp [ha]
  · cases hstored : a.stores? device <;> simp [ha, hstored]

theorem unread_concat (n : Nat) (device : String) (acts : List Act) (a : Act) :
    unread n device (acts ++ [a]) =
      if a = .read n then 0
      else unread n device acts + if (a.stores? device).isSome then 1 else 0 := by
  unfold unread
  by_cases ha : a = .read n
  · simp [ha]
  · simp [ha, List.countP_cons]

/-! ## What a call does -/

/-- What a call does to the store. -/
def effect (s : SnapshotStore) : Act → SnapshotStore
  | .upsert snapshot => s.upsert snapshot
  | .remove device => s.remove device
  | .subscribe device => (s.subscribe device).2
  | .get _ | .all | .read _ => s

theorem store_step (s : Session) (a : Act) : (s.step a).2.store = s.store.effect a := by
  cases a with
  | remove device => exact s.store.take_snd device
  | read n =>
    simp only [Session.step]
    split <;> rfl
  | _ => rfl

theorem Numbered.effect {s : SnapshotStore} (h : Numbered s) (a : Act) : Numbered (s.effect a) := by
  cases a with
  | upsert snapshot => exact h.upsert snapshot
  | remove device => exact h.remove device
  | subscribe device => exact h.slotFor device
  | _ => exact h

theorem get?_effect (s : SnapshotStore) (a : Act) (device : String) :
    (s.effect a).get? device =
      if a = .remove device then none else (a.stores? device).or (s.get? device) := by
  cases a with
  | upsert snapshot =>
    rw [if_neg nofun]
    refine (s.get?_upsert snapshot device).trans ?_
    simp only [Act.stores?]
    split <;> rfl
  | remove removed =>
    refine (s.get?_remove removed device).trans ?_
    simp only [Act.remove.injEq, Act.stores?, Option.none_or]
  | subscribe subscribed => exact s.get?_subscribe subscribed device
  | _ => rfl

theorem version_effect (s : SnapshotStore) (a : Act) :
    (s.effect a).version = s.version + if a.isChange then 1 else 0 := by
  have hslotFor : ∀ device, (s.slotFor device).2.version = s.version := by
    intro device
    unfold slotFor
    split <;> rfl
  cases a with
  | upsert snapshot => exact congrArg (· + 1) (hslotFor snapshot.device)
  | subscribe device => exact hslotFor device
  | _ => rfl

theorem subscriptions_step (s : Session) (a : Act) {n : Nat} {r : Subscription}
    (h : s.subscriptions[n]? = some r) :
    (s.step a).2.subscriptions[n]? = some (if a = .read n then (s.store.read r).2.2 else r) := by
  have hlt := (List.getElem?_eq_some_iff.1 h).1
  cases a with
  | subscribe device =>
    rw [if_neg nofun]
    exact (List.getElem?_append_left hlt).trans h
  | read m =>
    by_cases hm : m = n
    · subst hm
      simp only [Session.step, h, if_true]
      exact List.getElem?_set_self hlt
    · rw [if_neg fun ha => hm (Act.read.inj ha)]
      simp only [Session.step]
      split
      · exact (List.getElem?_set_ne hm).trans h
      · exact h
  | _ => exact h.trans (by rw [if_neg nofun])

theorem length_subscriptions_step (s : Session) (a : Act) :
    (s.step a).2.subscriptions.length = s.subscriptions.length + if a.isSubscribe then 1 else 0 := by
  cases a with
  | subscribe device => exact List.length_append
  | read n =>
    simp only [Session.step]
    split
    · exact List.length_set
    · rfl
  | _ => rfl

/-! ## What calls leave behind -/

theorem numbered_after (acts : List Act) : Numbered (after acts).store := by
  induction acts using List.reverseRecOn with
  | nil => exact numbered_empty
  | append_singleton acts a ih =>
    rw [after_concat, store_step]
    exact ih.effect a

theorem get?_after (device : String) (acts : List Act) :
    (after acts).store.get? device = latest? device acts := by
  induction acts using List.reverseRecOn with
  | nil => rfl
  | append_singleton acts a ih => rw [after_concat, store_step, get?_effect, latest?_concat, ih]

theorem version_after (acts : List Act) :
    (after acts).store.version = acts.countP Act.isChange := by
  induction acts using List.reverseRecOn with
  | nil => rfl
  | append_singleton acts a ih =>
    rw [after_concat, store_step, version_effect, ih, List.countP_append, List.countP_singleton]

theorem length_subscriptions_after (acts : List Act) :
    (after acts).subscriptions.length = acts.countP Act.isSubscribe := by
  induction acts using List.reverseRecOn with
  | nil => rfl
  | append_singleton acts a ih =>
    rw [after_concat, length_subscriptions_step, ih, List.countP_append, List.countP_singleton]

/-! ## What becomes of a subscription -/

/-- What has become of a subscription to a device since it was made, when some calls had been made. -/
structure Tracks (before later : List Act) (n : Nat) (device : String) (s : SnapshotStore)
    (r : Subscription) : Prop where
  ofDevice : r.device = device
  isOpen : .remove device ∉ later → Open s r (unread n device later)
  isClosed : ∀ kept gone, later = kept ++ .remove device :: gone → .remove device ∉ kept →
    Closed s r (latest? device (before ++ .subscribe device :: kept))

theorem tracks_subscribe (before : List Act) (n : Nat) (device : String) (s : SnapshotStore) :
    Tracks before [] n device (s.subscribe device).2 (s.subscribe device).1 where
  ofDevice := rfl
  isOpen _ := s.open_subscribe device
  isClosed kept gone h := by cases kept <;> cases h

/-- A reader has seen what it was shown. -/
theorem Open.step {s : SnapshotStore} {r : Subscription} {n : Nat} {later : List Act}
    (h : Open s r (unread n r.device later)) {a : Act} (ha : a ≠ .remove r.device) :
    Open (s.effect a) (if a = .read n then (s.read r).2.2 else r)
      (unread n r.device (later ++ [a])) := by
  rw [unread_concat]
  cases a with
  | upsert snapshot =>
    have hcount : unread n r.device later +
        (if ((Act.upsert snapshot).stores? r.device).isSome then 1 else 0) =
          if snapshot.device = r.device then unread n r.device later + 1
          else unread n r.device later := by
      by_cases hd : snapshot.device = r.device <;> simp [Act.stores?, hd]
    rw [if_neg nofun, if_neg nofun, hcount]
    exact h.upsert snapshot
  | remove device =>
    simp only [reduceCtorEq, if_false, Act.stores?]
    exact h.remove fun hd => ha (congrArg Act.remove hd)
  | subscribe device =>
    simp only [reduceCtorEq, if_false, Act.stores?]
    exact h.slotFor device
  | read m =>
    by_cases hm : Act.read m = .read n
    · rw [if_pos hm, if_pos hm, h.read]
      exact h
    · rw [if_neg hm, if_neg hm]
      exact h
  | get | all =>
    simp only [reduceCtorEq, if_false, Act.stores?]
    exact h

theorem Closed.step {s : SnapshotStore} {r : Subscription} {last : Option Snapshot}
    (h : Closed s r last) (hs : Numbered s) (n : Nat) (a : Act) :
    Closed (s.effect a) (if a = .read n then (s.read r).2.2 else r) last := by
  have hread : (if a = .read n then (s.read r).2.2 else r) = r := by
    rw [h.read]
    split <;> rfl
  rw [hread]
  cases a with
  | upsert snapshot => exact h.upsert hs snapshot
  | remove device => exact h.remove hs device
  | subscribe device => exact h.slotFor hs device
  | _ => exact h

theorem Tracks.step {before later : List Act} {n : Nat} {s : SnapshotStore} {r : Subscription}
    (h : Tracks before later n device s r) (hs : Numbered s)
    (hget : s.get? device = latest? device (before ++ .subscribe device :: later)) (a : Act) :
    Tracks before (later ++ [a]) n device (s.effect a)
      (if a = .read n then (s.read r).2.2 else r) := by
  obtain ⟨rfl, hopen, hclosed⟩ := h
  refine ⟨?_, fun hkept => ?_, fun kept gone hlater hkept => ?_⟩
  · split
    · unfold SnapshotStore.read
      split
      · split <;> rfl
      · rfl
    · rfl
  · rw [List.mem_append, not_or] at hkept
    exact (hopen hkept.1).step fun ha => hkept.2 (ha ▸ List.mem_cons_self)
  · rcases List.eq_nil_or_concat gone with rfl | ⟨gone, b, rfl⟩
    · obtain ⟨rfl, ha⟩ := List.append_inj' hlater rfl
      cases ha
      rw [if_neg nofun, ← hget]
      exact (hopen hkept).removed
    · have hlater : later ++ [a] = (kept ++ .remove r.device :: gone) ++ [b] := by
        simpa using hlater
      obtain ⟨rfl, -⟩ := List.append_inj' hlater rfl
      exact (hclosed kept gone rfl hkept).step hs n a

/-- By induction on the calls after the subscription was made, the last one first. -/
theorem tracked (before later : List Act) (device : String) :
    ∃ r, (after (before ++ .subscribe device :: later)).subscriptions[
        before.countP Act.isSubscribe]? = some r ∧
      Tracks before later (before.countP Act.isSubscribe) device
        (after (before ++ .subscribe device :: later)).store r := by
  induction later using List.reverseRecOn with
  | nil =>
    refine ⟨((after before).store.subscribe device).1, ?_, ?_⟩
    · rw [after_concat, ← length_subscriptions_after]
      exact List.getElem?_concat_length
    · rw [after_concat]
      exact tracks_subscribe ..
  | append_singleton later a ih =>
    obtain ⟨r, hr, htracks⟩ := ih
    have hacts : before ++ .subscribe device :: (later ++ [a]) =
        (before ++ .subscribe device :: later) ++ [a] := by simp
    rw [hacts, after_concat, store_step]
    exact ⟨_, subscriptions_step _ a hr, htracks.step (numbered_after _) (get?_after ..) a⟩

/-! ## What a session answers -/

/-- What a session answers after some calls. -/
structure Answers (acts : List Act) : Prop where
  /-- There is the last snapshot put in since the device was last removed. -/
  get : ∀ device, answer acts (.get device) = .found (latest? device acts)
  /-- Both changes return what there was before. -/
  upsert : ∀ snapshot, answer acts (.upsert snapshot) = answer acts (.get snapshot.device)
  remove : ∀ device, answer acts (.remove device) = answer acts (.get device)
  /-- All snapshots that there are, in strictly ascending order of their devices. -/
  all : ∃ snapshots, answer acts .all = .listed snapshots ∧
    snapshots.Pairwise (fun a b => a.device < b.device) ∧
    ∀ x, x ∈ snapshots ↔ ∃ device, answer acts (.get device) = .found (some x)
  /-- The version counts what was put in and removed, and nothing else. -/
  version : (after acts).store.version = acts.countP Act.isChange
  /-- A subscription to a device that has not been removed since reads the current snapshot, which is
  a change when one was put in since the subscription was made or last read. -/
  reads : ∀ before device later, acts = before ++ .subscribe device :: later →
    .remove device ∉ later →
    answer acts (.read (before.countP Act.isSubscribe)) =
      .seen (if unread (before.countP Act.isSubscribe) device later = 0 then .unchanged else .changed)
        (latest? device acts)
  /-- From the first removal on it is closed, and shows what there was then. -/
  closes : ∀ before device kept gone,
    acts = before ++ .subscribe device :: (kept ++ .remove device :: gone) → .remove device ∉ kept →
    answer acts (.read (before.countP Act.isSubscribe)) =
      .seen .closed (latest? device (before ++ .subscribe device :: kept))

theorem answer_read {n : Nat} {r : Subscription} (h : (after acts).subscriptions[n]? = some r) :
    answer acts (.read n) =
      .seen ((after acts).store.read r).1 ((after acts).store.read r).2.1 := by
  simp only [answer, Session.step, h]

/-- A store and its subscriptions are a map of latest values with a version, whatever is called. -/
theorem answers_latest (acts : List Act) : Answers acts where
  get device := congrArg Answer.found (get?_after device acts)
  upsert snapshot := congrArg Answer.found (replace_fst ..)
  remove device := congrArg Answer.found (take_fst ..)
  all := by
    have hnumbered := numbered_after acts
    refine ⟨_, rfl, hnumbered.all_ascending, fun x => hnumbered.mem_all.trans ⟨fun h => ?_, ?_⟩⟩
    · exact ⟨x.device, congrArg Answer.found h⟩
    · rintro ⟨device, h⟩
      have hget : (after acts).store.get? device = some x := Answer.found.inj h
      rw [hnumbered.device_of_get? hget, hget]
  version := version_after acts
  reads before device later hacts hkept := by
    subst hacts
    obtain ⟨r, hr, rfl, hopen, -⟩ := tracked before later device
    rw [answer_read hr, (hopen hkept).read, get?_after]
  closes before device kept gone hacts hkept := by
    subst hacts
    obtain ⟨r, hr, -, -, hclosed⟩ := tracked before (kept ++ .remove device :: gone) device
    rw [answer_read hr, (hclosed kept gone rfl hkept).read]

/-- A subscription does not hear of a device that comes back after its removal. -/
example :
    let first : Snapshot := ⟨"d", "plug", .epoch, [], true⟩
    let second : Snapshot := ⟨"d", "plug", .epoch, [], false⟩
    answer [.subscribe "d", .upsert first, .remove "d", .upsert second] (.read 0) =
      .seen .closed (some first) := by
  rfl

end

end SnapshotStore

end DeviceHub
