import DeviceHub.Decimal.Binary64
import DeviceHub.Dict

/-!
# JSON values

A number is an integer or a binary64 number. Payload values have the members of their objects in
ascending order, each key once; records that this library writes may list their members in another
order, since an object is written as it stands.
-/
namespace DeviceHub

/-- A JSON number. -/
inductive Json.Number where
  | integer (value : Int)
  | decimal (value : Binary64)
  deriving DecidableEq

/-- A JSON value. -/
inductive Json where
  | null
  | bool (value : Bool)
  | number (value : Json.Number)
  | text (value : String)
  | array (items : List Json)
  | object (members : List (String × Json))

namespace Json

instance : Inhabited Json := ⟨.null⟩

def integer (n : Int) : Json := .number (.integer n)

def ofOption {α : Type} (f : α → Json) : Option α → Json
  | none => .null
  | some a => f a

def optText (s : Option String) : Json := ofOption .text s

def isNull : Json → Bool
  | .null => true
  | _ => false

/-- The member of an object. -/
def member? (key : String) : Json → Option Json
  | .object members => Dict.get? members key
  | _ => none

def text? : Json → Option String
  | .text s => some s
  | _ => none

def bool? : Json → Option Bool
  | .bool b => some b
  | _ => none

def integer? : Json → Option Int
  | .number (.integer n) => some n
  | _ => none

def array? : Json → Option (List Json)
  | .array items => some items
  | _ => none

mutual

/-- The value with other texts; keys stay as they are. -/
def mapText (f : String → String) : Json → Json
  | .text s => .text (f s)
  | .array items => .array (mapTextItems f items)
  | .object members => .object (mapTextMembers f members)
  | v => v

def mapTextItems (f : String → String) : List Json → List Json
  | [] => []
  | v :: vs => mapText f v :: mapTextItems f vs

def mapTextMembers (f : String → String) : List (String × Json) → List (String × Json)
  | [] => []
  | (key, v) :: vs => (key, mapText f v) :: mapTextMembers f vs

end

namespace Number

/-- The integer of 64 bits with sign. -/
def int64? : Number → Option Int
  | .integer n => if -0x8000000000000000 ≤ n ∧ n ≤ 0x7fffffffffffffff then some n else none
  | .decimal _ => none

/-- The number as binary64. -/
def binary64 : Number → Binary64
  | .integer n => .ofInt n
  | .decimal x => x

end Number

end Json

end DeviceHub
