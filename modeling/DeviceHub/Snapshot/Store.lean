import DeviceHub.Snapshot

/-!
# The snapshot store

The latest snapshot of every device, and subscriptions to them. A device has a slot from its first
snapshot or subscription until it is removed; the next slot of the same device is another one, so a
subscription is closed for good by the first removal after it was made.

Mirrors `SnapshotStore` with `upsert`, `get`, `subscribe`, `remove`, `all` and `version`.

* `get?_upsert`, `get?_remove`: what the two writing operations do to every device.
* `get?_subscribe`: reading does nothing to any.
-/
namespace DeviceHub

/-- The place of one device's snapshots. -/
structure SnapshotSlot where
  /-- Tells the slot from all others. -/
  number : Nat
  latest : Option Snapshot
  /-- How many snapshots were put in. -/
  writes : Nat

/-- The snapshots of all devices. -/
structure SnapshotStore where
  slots : Dict SnapshotSlot
  /-- Counts every snapshot put in and every removal. -/
  version : Nat
  /-- The number of the next slot. -/
  nextNumber : Nat
  /-- What removed slots held last. -/
  closed : List (Nat × Option Snapshot)

/-- What a reader has seen of a slot. -/
structure Subscription where
  device : String
  slot : Nat
  seen : Nat
  deriving DecidableEq

/-- What a reader finds. -/
inductive Reading where
  | unchanged
  | changed
  | closed
  deriving DecidableEq

namespace SnapshotStore

def empty : SnapshotStore := ⟨[], 0, 0, []⟩

instance : Inhabited SnapshotStore := ⟨empty⟩

def get? (s : SnapshotStore) (device : String) : Option Snapshot :=
  (s.slots.get? device).bind (·.latest)

/-- The slot of a device, and the store that has it. -/
def slotFor (s : SnapshotStore) (device : String) : SnapshotSlot × SnapshotStore :=
  match s.slots.get? device with
  | some slot => (slot, s)
  | none =>
    let slot : SnapshotSlot := ⟨s.nextNumber, none, 0⟩
    (slot, { s with slots := s.slots.insert device slot, nextNumber := s.nextNumber + 1 })

/-- The store with a snapshot in the place of the device's last. -/
def upsert (s : SnapshotStore) (snapshot : Snapshot) : SnapshotStore :=
  let (slot, s) := s.slotFor snapshot.device
  let slot := { slot with latest := some snapshot, writes := slot.writes + 1 }
  { s with slots := s.slots.insert snapshot.device slot, version := s.version + 1 }

/-- The store without a device. -/
def remove (s : SnapshotStore) (device : String) : SnapshotStore :=
  { s with
    slots := s.slots.erase device
    version := s.version + 1
    closed := match s.slots.get? device with
      | some slot => (slot.number, slot.latest) :: s.closed
      | none => s.closed }

/-- The store with a snapshot in the place of the device's last, and that last one. -/
def replace (s : SnapshotStore) (snapshot : Snapshot) : Option Snapshot × SnapshotStore :=
  ((s.slotFor snapshot.device).1.latest, s.upsert snapshot)

/-- The store without a device, and the snapshot that goes with it. -/
def take (s : SnapshotStore) (device : String) : Option Snapshot × SnapshotStore :=
  match s.slots.get? device with
  | some slot => (slot.latest, s.remove device)
  | none => (none, s.remove device)

/-- All snapshots, ascending by device. -/
def all (s : SnapshotStore) : List Snapshot := s.slots.values.filterMap (·.latest)

/-- A reader that has seen the present state of a device. -/
def subscribe (s : SnapshotStore) (device : String) : Subscription × SnapshotStore :=
  let (slot, s) := s.slotFor device
  (⟨device, slot.number, slot.writes⟩, s)

/-- What a reader finds, the snapshot it sees, and the reader that has seen it. -/
def read (s : SnapshotStore) (r : Subscription) : Reading × Option Snapshot × Subscription :=
  match s.slots.get? r.device with
  | some slot =>
    if slot.number = r.slot then
      (if slot.writes = r.seen then .unchanged else .changed, slot.latest,
        { r with seen := slot.writes })
    else (.closed, lastOf s r, r)
  | none => (.closed, lastOf s r, r)
where
  lastOf (s : SnapshotStore) (r : Subscription) : Option Snapshot :=
    ((s.closed.find? fun e => e.1 = r.slot).map Prod.snd).join

theorem get?_upsert (s : SnapshotStore) (snapshot : Snapshot) (device : String) :
    (s.upsert snapshot).get? device =
      if snapshot.device = device then some snapshot else s.get? device := by
  unfold upsert slotFor get?
  split
  · next slot hs s' heq =>
    split at heq <;> simp only [Prod.mk.injEq] at heq <;> obtain ⟨rfl, rfl⟩ := heq
    · simp only [Dict.get?_insert]; split <;> rfl
    · simp only [Dict.get?_insert]
      split
      · rfl
      · rfl

theorem get?_subscribe (s : SnapshotStore) (subscribed device : String) :
    (s.subscribe subscribed).2.get? device = s.get? device := by
  unfold subscribe slotFor get?
  split
  · next slot s' heq =>
    split at heq <;> simp only [Prod.mk.injEq] at heq <;> obtain ⟨rfl, rfl⟩ := heq
    · rfl
    · next hnone =>
      simp only [Dict.get?_insert]
      split
      · next h => subst h; simp [hnone]
      · rfl

theorem get?_remove (s : SnapshotStore) (removed device : String) :
    (s.remove removed).get? device = if removed = device then none else s.get? device := by
  unfold remove get?
  simp only [Dict.get?_erase]
  split <;> rfl

end SnapshotStore

end DeviceHub
