import DeviceHub.Json.Value

/-!
# Payloads

What a vendor sends about a device, decoded but not yet interpreted.

Mirrors `RawPayload` and `PayloadFormat`.
-/
namespace DeviceHub

/-- The format a device answers in. -/
inductive PayloadFormat where
  | json
  | keyValue
  | binary
  deriving DecidableEq

/-- A decoded answer. -/
inductive Payload where
  | json (value : Json)
  | keyValue (entries : Dict String)
  | binary (mediaType : String) (data : List UInt8)

namespace PayloadFormat

def name : PayloadFormat → String
  | .json => "json"
  | .keyValue => "key_value"
  | .binary => "binary"

def all : List PayloadFormat := [.json, .keyValue, .binary]

def ofName? (s : String) : Option PayloadFormat := all.find? fun f => f.name = s

theorem ofName?_name (f : PayloadFormat) : ofName? f.name = some f := by cases f <;> decide

end PayloadFormat

end DeviceHub
