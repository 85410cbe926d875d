import DeviceHub.Decimal.Format
import DeviceHub.Json.Value
import DeviceHub.Text.Base64

/-!
# Channel values

What a device reports on one channel. `undefined` stands for a channel that the device did not
report; it differs from every reported value, zero and the empty text included.

Mirrors `FieldKind`, and `FieldValue` with its display and its serialized form.
-/
namespace DeviceHub

/-- The declared type of a channel. -/
inductive FieldKind where
  | integer
  | decimal
  | text
  | boolean
  | binary
  deriving DecidableEq

namespace FieldKind

def name : FieldKind → String
  | .integer => "integer"
  | .decimal => "decimal"
  | .text => "text"
  | .boolean => "boolean"
  | .binary => "binary"

def all : List FieldKind := [.integer, .decimal, .text, .boolean, .binary]

def ofName? (s : String) : Option FieldKind := all.find? fun k => k.name = s

theorem ofName?_name (k : FieldKind) : ofName? k.name = some k := by cases k <;> decide

end FieldKind

/-- The value of a channel. -/
inductive FieldValue where
  | undefined
  | integer (value : Int)
  | decimal (value : Binary64)
  | text (value : String)
  | boolean (value : Bool)
  | binary (mediaType : String) (data : List UInt8)
  deriving DecidableEq

namespace FieldValue

instance : Inhabited FieldValue := ⟨.undefined⟩

/-- The kind of a reported value. -/
def kind? : FieldValue → Option FieldKind
  | .undefined => none
  | .integer _ => some .integer
  | .decimal _ => some .decimal
  | .text _ => some .text
  | .boolean _ => some .boolean
  | .binary .. => some .binary

/-- The name of the value's kind. -/
def kindName (v : FieldValue) : String :=
  match v.kind? with
  | some k => k.name
  | none => "undefined"

def isUndefined : FieldValue → Bool
  | .undefined => true
  | _ => false

/-- Whether two values count as the same: decimals by the equality of their format, all others when
they are equal. -/
def same : FieldValue → FieldValue → Bool
  | .decimal x, .decimal y => x.same y
  | a, b => a == b

/-- The form for people. -/
def display : FieldValue → String
  | .undefined => "UNDEF"
  | .integer n => toString n
  | .decimal x => Decimal.plain x
  | .text s => s
  | .boolean b => if b then "ON" else "OFF"
  | .binary mediaType data => "<" ++ mediaType ++ ", " ++ toString data.length ++ " bytes>"

/-- The JSON form: `null` for an undefined value, an object with base64 text for bytes. -/
def toJson : FieldValue → Json
  | .undefined => .null
  | .integer n => Json.integer n
  | .decimal x => .number (.decimal x)
  | .text s => .text s
  | .boolean b => .bool b
  | .binary mediaType data =>
    .object [("media_type", .text mediaType),
      ("data", .text (String.ofList (Text.Base64.encode data)))]

theorem same_comm (a b : FieldValue) : a.same b = b.same a := by
  cases a <;> cases b <;> simp only [same, BEq.comm]
  exact Binary64.same_comm _ _

theorem same_self {v : FieldValue} (h : v ≠ .decimal .nan) : v.same v = true := by
  cases v with
  | decimal x => exact Binary64.same_self_of_ne_nan fun hx => h (hx ▸ rfl)
  | _ => simp [same]

theorem same_trans {a b c : FieldValue} (hab : a.same b = true) (hbc : b.same c = true) :
    a.same c = true := by
  cases a <;> cases b <;> cases c <;> simp_all [same]
  exact Binary64.same_trans hab hbc

end FieldValue

end DeviceHub
