import DeviceHub.Credential.Store
import DeviceHub.Request.Error

/-!
# Renewing credentials

A bridge has at most one refresh under way. Who needs a credential gets the stored one while it is
good, else joins the refresh under way or starts one; all who wait for a refresh get its outcome.

A refresh is a state machine. It asks its source for a credential, pauses after a transient failure
while attempts are left, and ends with a credential, which it stores, or with the text of a failure.
It stores first and makes room for the next refresh afterwards: `receive` and `close` are the two
halves of `answer`. The steps are values: who runs them decides when a source answers and when a pause
is over.

Mirrors `RefreshPolicy`, and `TokenRefresher` with `register`, `unregister`, `invalidate`,
`invalidate_if` and `get_valid_token` (`start`, `obtain`); `start_refresh` and `fetch_with_retry` are
`Refresh`.

* `get?_bridges_register`, `slot_register`, `get?_bridges_unregister`, `slot_unregister`: a bridge that
  gets a source, or loses it, starts with nothing in the store, and no other bridge notices.
-/
namespace DeviceHub

/-- When to refresh, and how hard to try. -/
structure RefreshPolicy where
  /-- How many seconds before its expiry a credential is renewed. -/
  margin : Nat
  /-- How often a source is asked in one refresh; at least once. -/
  attempts : Nat
  /-- Milliseconds between two attempts. -/
  retryDelay : Nat
  deriving DecidableEq

namespace RefreshPolicy

def usual : RefreshPolicy := ⟨60, 2, 2000⟩

/-- The margin in nanoseconds. -/
def marginNanos (p : RefreshPolicy) : Int := p.margin * nanosPerSecond

/-- The number of the last attempt. -/
def lastAttempt (p : RefreshPolicy) : Nat := max 1 p.attempts

end RefreshPolicy

namespace Refresh

/-- How far a refresh is. While it asks or pauses it knows the number of its attempt, from 1, and
the refresh token that was stored when it began. -/
inductive Phase where
  | created
  | asking (attempt : Nat) (held : Option String)
  | pausing (attempt : Nat) (held : Option String)
  /-- Its outcome is certain and stored, but its bridge still has it under way. -/
  | closing (outcome : Except String Credential)
  | ended (outcome : Except String Credential)

end Refresh

/-- A refresh of a bridge's credential through a source. -/
structure Refresh (σ : Type) where
  bridge : String
  source : σ
  policy : RefreshPolicy
  phase : Refresh.Phase

/-- How a bridge's credentials are obtained. -/
structure Registration (σ : Type) where
  source : σ
  policy : RefreshPolicy
  /-- The number of the refresh under way. -/
  inflight : Option Nat

/-- The registered bridges, their credentials, and all refreshes ever started, each known by its
place in the list. -/
structure Refresher (σ : Type) where
  store : CredentialStore
  bridges : Dict (Registration σ)
  refreshes : List (Refresh σ)

namespace Refresher

variable {σ : Type}

def empty : Refresher σ := ⟨[], [], []⟩

instance : Inhabited (Refresher σ) := ⟨empty⟩

/-- Gives a bridge a source. What was stored for the bridge is forgotten. -/
def register (r : Refresher σ) (bridge : String) (source : σ) (policy : RefreshPolicy) :
    Refresher σ :=
  { r with
    store := r.store.remove bridge
    bridges := r.bridges.insert bridge ⟨source, policy, none⟩ }

def unregister (r : Refresher σ) (bridge : String) : Refresher σ :=
  { r with store := r.store.remove bridge, bridges := r.bridges.erase bridge }

/-- Drops the credential of a bridge. -/
def invalidate (r : Refresher σ) (bridge : String) : Refresher σ :=
  { r with store := r.store.invalidate bridge }

/-- Drops the credential of a bridge if it is the one that was refused. -/
def invalidateIf (r : Refresher σ) (bridge : String) (refused : Credential) : Refresher σ :=
  { r with store := (r.store.invalidateIf bridge refused).2 }

/-- What a caller gets at once. -/
inductive Call where
  | refused (e : RequestError)
  | granted (c : Credential)
  /-- The outcome of the refresh of this number. -/
  | awaits (refresh : Nat)
  deriving DecidableEq

/-- Starts a refresh for a registered bridge, which has it under way from now on. -/
def start (r : Refresher σ) (bridge : String) (reg : Registration σ) : Refresher σ :=
  { r with
    bridges := r.bridges.insert bridge { reg with inflight := some r.refreshes.length }
    refreshes := r.refreshes ++ [⟨bridge, reg.source, reg.policy, .created⟩] }

/-- Asks for a good credential of a bridge. -/
def call (r : Refresher σ) (bridge : String) (now : Instant) : Call × Refresher σ :=
  match r.bridges.get? bridge with
  | none => (.refused (.unknownBridge bridge), r)
  | some reg =>
    match r.store.fresh? bridge reg.policy.marginNanos now with
    | some c => (.granted c, r)
    | none =>
      match reg.inflight with
      | some n => (.awaits n, r)
      | none => (.awaits r.refreshes.length, r.start bridge reg)

def phase? (r : Refresher σ) (n : Nat) : Option Refresh.Phase := r.refreshes[n]?.map (·.phase)

/-- The refresher with a refresh in another phase. -/
def withPhase (r : Refresher σ) (n : Nat) (phase : Refresh.Phase) : Refresher σ :=
  { r with refreshes := r.refreshes.modify n fun f => { f with phase := phase } }

/-- Begins a refresh: it reads the stored refresh token and asks its source. -/
def begin (r : Refresher σ) (n : Nat) : Refresher σ :=
  match r.refreshes[n]? with
  | some ⟨bridge, _, _, .created⟩ => r.withPhase n (.asking 1 (r.store.refreshToken? bridge))
  | _ => r

/-- Takes the answer of a source to a refresh that asked. A credential is stored at once. -/
def receive (r : Refresher σ) (n : Nat) (result : Except RequestError Credential) : Refresher σ :=
  match r.refreshes[n]? with
  | some ⟨bridge, _, policy, .asking attempt held⟩ =>
    match result with
    | .ok c =>
      let (stored, store) := r.store.replace bridge c
      { r with store := store }.withPhase n (.closing (.ok stored))
    | .error e =>
      if e.isTransient ∧ attempt < policy.lastAttempt then r.withPhase n (.pausing attempt held)
      else r.withPhase n (.closing (.error e.message))
  | _ => r

/-- Ends a refresh with its outcome: its registration has none under way any more. -/
def close (r : Refresher σ) (n : Nat) : Refresher σ :=
  match r.phase? n with
  | some (.closing outcome) =>
    { r.withPhase n (.ended outcome) with
      bridges := r.bridges.mapValues fun reg =>
        if reg.inflight = some n then { reg with inflight := none } else reg }
  | _ => r

/-- The answer of a source to a refresh that asked, when nothing comes between its two halves. -/
def answer (r : Refresher σ) (n : Nat) (result : Except RequestError Credential) : Refresher σ :=
  (r.receive n result).close n

/-- Ends the pause of a refresh: it asks again. -/
def resume (r : Refresher σ) (n : Nat) : Refresher σ :=
  match r.phase? n with
  | some (.pausing attempt held) => r.withPhase n (.asking (attempt + 1) held)
  | _ => r

/-- What those who wait for a refresh get, once it has ended. -/
def outcome? (r : Refresher σ) (n : Nat) : Option (Except RequestError Credential) :=
  match r.phase? n with
  | some (.ended (.ok c)) => some (.ok c)
  | some (.ended (.error text)) => some (.error (.authentication text))
  | _ => none

/-- Runs a refresh to its end with a source that answers at once, pauses left out. -/
def settle {τ : Type} (ask : σ → Option String → τ → Except RequestError Credential × τ) (n : Nat) :
    Nat → Refresher σ × τ → Refresher σ × τ
  | 0, state => state
  | fuel + 1, (r, world) =>
    match r.refreshes[n]? with
    | none => (r, world)
    | some f =>
      match f.phase with
      | .created => settle ask n fuel (r.begin n, world)
      | .asking _ held =>
        let (result, world) := ask f.source held world
        settle ask n fuel (r.answer n result, world)
      | .pausing .. => settle ask n fuel (r.resume n, world)
      | .closing _ => settle ask n fuel (r.close n, world)
      | .ended _ => (r, world)

/-- A good credential of a bridge, from a source that answers at once. -/
def obtain {τ : Type} (ask : σ → Option String → τ → Except RequestError Credential × τ)
    (bridge : String) (now : Instant) (r : Refresher σ) (world : τ) :
    Except RequestError Credential × Refresher σ × τ :=
  match r.call bridge now with
  | (.refused e, r) => (.error e, r, world)
  | (.granted c, r) => (.ok c, r, world)
  | (.awaits n, r) =>
    let attempts := ((r.refreshes[n]?).map fun f => f.policy.lastAttempt).getD 0
    let (r, world) := settle ask n (2 * attempts + 2) (r, world)
    ((r.outcome? n).getD (.error (.authentication "")), r, world)

theorem get?_bridges_register (r : Refresher σ) (bridge other : String) (source : σ)
    (policy : RefreshPolicy) : (r.register bridge source policy).bridges.get? other =
      if bridge = other then some ⟨source, policy, none⟩ else r.bridges.get? other :=
  Dict.get?_insert ..

theorem slot_register (r : Refresher σ) (bridge other : String) (source : σ)
    (policy : RefreshPolicy) : (r.register bridge source policy).store.slot other =
      if bridge = other then .empty else r.store.slot other :=
  CredentialStore.slot_remove ..

theorem get?_bridges_unregister (r : Refresher σ) (bridge other : String) :
    (r.unregister bridge).bridges.get? other =
      if bridge = other then none else r.bridges.get? other :=
  Dict.get?_erase ..

theorem slot_unregister (r : Refresher σ) (bridge other : String) :
    (r.unregister bridge).store.slot other =
      if bridge = other then .empty else r.store.slot other :=
  CredentialStore.slot_remove ..

end Refresher

end DeviceHub
