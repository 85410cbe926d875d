import DeviceHub.Credential.Basic
import DeviceHub.Dict

/-!
# The credential store

One slot for each bridge. The expiry that a slot publishes never goes back, so that who watches it
sees it only grow; whether a credential is still good is judged by the expiry that the vendor gave.
A slot keeps its refresh token when its credential is dropped.

Mirrors `CredentialStore` with `get`, `get_fresh`, `refresh_token`, `replace`, `invalidate`,
`invalidate_if` and `remove`.

* `current_replace`, `refreshToken_replace`, `latestExpiry_replace`: what storing a credential does.
* `invalidate_current`: dropping a credential keeps everything else.
* `slot_replace`, `slot_invalidate`, `slot_invalidateIf`, `slot_remove`: what each operation does to
  the slot of every bridge.
-/
namespace DeviceHub

/-- What is known about the credential of one bridge. -/
structure CredentialSlot where
  current : Option Credential
  /-- The expiry of the current credential as the vendor gave it. -/
  reportedExpiry : Option Instant
  refreshToken : Option String
  /-- The latest expiry ever published. -/
  latestExpiry : Option Instant
  deriving DecidableEq

namespace CredentialSlot

def empty : CredentialSlot := ⟨none, none, none, none⟩

instance : Inhabited CredentialSlot := ⟨empty⟩

/-- The credential, unless it expires within `margin` nanoseconds from now. -/
def fresh? (s : CredentialSlot) (margin : Int) (now : Instant) : Option Credential :=
  s.current.filter fun c => !(s.reportedExpiry.getD c.expiresAt).isWithin margin now

/-- A credential with the expiry that is published for it. -/
def published (s : CredentialSlot) (c : Credential) : Credential :=
  match s.latestExpiry with
  | some latest => { c with expiresAt := Instant.later c.expiresAt latest }
  | none => c

/-- The slot with a new credential. -/
def replace (s : CredentialSlot) (c : Credential) : CredentialSlot :=
  let published := s.published c
  ⟨some published, some c.expiresAt, c.refreshToken <|> s.refreshToken, some published.expiresAt⟩

/-- The slot without its credential. -/
def invalidate (s : CredentialSlot) : CredentialSlot :=
  { s with current := none, reportedExpiry := none }

/-- Whether the slot holds the token of a credential. -/
def holds (s : CredentialSlot) (c : Credential) : Bool := s.current.any fun held => held.sameToken c

/-- A credential is published as it is, but for its expiry. -/
theorem published_eq (s : CredentialSlot) (c : Credential) :
    s.published c = { c with expiresAt := (s.published c).expiresAt } := by
  unfold published
  split <;> rfl

theorem sameToken_published (s : CredentialSlot) (c other : Credential) :
    (s.published c).sameToken other = c.sameToken other := by
  rw [published_eq]
  rfl

theorem current_replace (s : CredentialSlot) (c : Credential) :
    (s.replace c).current = some (s.published c) := rfl

theorem refreshToken_replace (s : CredentialSlot) (c : Credential) :
    (s.replace c).refreshToken = (c.refreshToken <|> s.refreshToken) := rfl

theorem latestExpiry_replace (s : CredentialSlot) (c : Credential) :
    (s.replace c).latestExpiry = some (s.published c).expiresAt := rfl

/-- Whether a credential is still good is judged by the expiry it came with. -/
theorem fresh?_replace (s : CredentialSlot) (c : Credential) (margin : Int) (now : Instant) :
    (s.replace c).fresh? margin now =
      if c.expiresAt.isWithin margin now then none else (s.replace c).current := by
  unfold fresh? replace
  cases h : c.expiresAt.isWithin margin now <;> simp [h]

theorem invalidate_current (s : CredentialSlot) :
    s.invalidate.current = none ∧ s.invalidate.refreshToken = s.refreshToken ∧
      s.invalidate.latestExpiry = s.latestExpiry := ⟨rfl, rfl, rfl⟩

end CredentialSlot

/-- The slots of all bridges. -/
abbrev CredentialStore := Dict CredentialSlot

namespace CredentialStore

/-- The slot of a bridge; an empty one when nothing was ever stored. -/
def slot (store : CredentialStore) (bridge : String) : CredentialSlot :=
  (Dict.get? store bridge).getD .empty

def current? (store : CredentialStore) (bridge : String) : Option Credential :=
  (store.slot bridge).current

def fresh? (store : CredentialStore) (bridge : String) (margin : Int) (now : Instant) :
    Option Credential :=
  (store.slot bridge).fresh? margin now

def refreshToken? (store : CredentialStore) (bridge : String) : Option String :=
  (store.slot bridge).refreshToken

/-- The store with a new credential, and the credential as it was stored. -/
def replace (store : CredentialStore) (bridge : String) (c : Credential) :
    Credential × CredentialStore :=
  let slot := store.slot bridge
  (slot.published c, Dict.insert store bridge (slot.replace c))

def invalidate (store : CredentialStore) (bridge : String) : CredentialStore :=
  match Dict.get? store bridge with
  | some slot => Dict.insert store bridge slot.invalidate
  | none => store

/-- The store without a credential that was refused, and whether it was there. A credential that has
taken its place stays. -/
def invalidateIf (store : CredentialStore) (bridge : String) (refused : Credential) :
    Bool × CredentialStore :=
  if (store.slot bridge).holds refused then (true, store.invalidate bridge) else (false, store)

def remove (store : CredentialStore) (bridge : String) : CredentialStore := Dict.erase store bridge

/-- The credential that `replace` gives is the one that it stores. -/
theorem current?_replace (store : CredentialStore) (bridge : String) (c : Credential) :
    (store.replace bridge c).2.current? bridge = some (store.replace bridge c).1 := by
  simp [replace, current?, slot, Dict.get?_insert, CredentialSlot.current_replace]

theorem slot_replace (store : CredentialStore) (bridge other : String) (c : Credential) :
    (store.replace bridge c).2.slot other =
      if bridge = other then (store.slot bridge).replace c else store.slot other := by
  simp only [replace, slot, Dict.get?_insert]
  split <;> rfl

theorem slot_invalidate (store : CredentialStore) (bridge other : String) :
    (store.invalidate bridge).slot other =
      if bridge = other then (store.slot bridge).invalidate else store.slot other := by
  unfold invalidate
  split
  · next held hget =>
    simp only [slot, Dict.get?_insert, hget]
    split <;> rfl
  · next hget =>
    split
    · next hb =>
      subst hb
      simp only [slot, hget]
      rfl
    · rfl

/-- Only a slot that holds the refused credential loses it. -/
theorem slot_invalidateIf (store : CredentialStore) (bridge other : String) (refused : Credential) :
    (store.invalidateIf bridge refused).2.slot other =
      if bridge = other ∧ (store.slot bridge).holds refused then (store.slot bridge).invalidate
      else store.slot other := by
  unfold invalidateIf
  split
  · next hholds => simp only [slot_invalidate, hholds, and_true]
  · next hholds => simp only [hholds, Bool.false_eq_true, and_false, if_false]

theorem slot_remove (store : CredentialStore) (bridge other : String) :
    (store.remove bridge).slot other = if bridge = other then .empty else store.slot other := by
  simp only [remove, slot, Dict.get?_erase]
  split <;> rfl

end CredentialStore

end DeviceHub
