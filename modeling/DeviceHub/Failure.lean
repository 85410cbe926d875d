/-!
# Failure classes

Every failure belongs to one class, and the class alone decides what follows from it: whether a
request is worth another try, whether polling goes on, and how a device's state is reported.

Mirrors `FailureKind` and `classify_status`.
-/
namespace DeviceHub

/-- What kind of failure it is. -/
inductive FailureClass where
  | auth
  | config
  | transient
  | permanent
  | malformed
  | offline
  deriving DecidableEq

namespace FailureClass

def name : FailureClass → String
  | .auth => "auth"
  | .config => "config"
  | .transient => "transient"
  | .permanent => "permanent"
  | .malformed => "malformed"
  | .offline => "offline"

def all : List FailureClass := [.auth, .config, .transient, .permanent, .malformed, .offline]

def ofName? (s : String) : Option FailureClass := all.find? fun c => c.name = s

/-- Whether only a new configuration can help. -/
def needsAttention : FailureClass → Bool
  | .auth | .config => true
  | _ => false

/-- The class of an HTTP status other than success. -/
def ofStatus (status : Nat) : FailureClass :=
  if status = 401 then .auth
  else if status = 408 ∨ status = 429 ∨ (500 ≤ status ∧ status ≤ 599) then .transient
  else .permanent

theorem ofName?_name (c : FailureClass) : ofName? c.name = some c := by cases c <;> decide

end FailureClass

end DeviceHub
