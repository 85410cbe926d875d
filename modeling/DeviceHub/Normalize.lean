import DeviceHub.Json.Writer
import DeviceHub.Payload
import DeviceHub.Schema.Basic
import DeviceHub.Snapshot
import DeviceHub.Text.Blank
import DeviceHub.Text.Pieces
import DeviceHub.Text.Quoted

/-!
# Normalization

From a payload and a schema to the fields of a snapshot. Vendors use dots inside their keys, so a
path is tried as a key before it is walked segment by segment.

The three kinds of payload differ only in how a field's value is found and converted (`fieldValue`);
the fields of a schema are then collected in one way (`collect`).

Mirrors `normalize` with `lookup`, `convert_json`, `json_bool`, `describe`, `parse_text`, `parse_bool`,
`integral`, `absent` and `invalid`; `collect` is the loop of `normalize_json`, `normalize_key_value` and
`normalize_binary`.
-/
namespace DeviceHub

/-- Why a payload does not fit a schema. -/
inductive NormalizeError where
  | missingRoot (root : String)
  | missingField (channel : String) (paths : List String)
  | invalidValue (channel path : String) (expected : FieldKind) (found : String)
  deriving DecidableEq

namespace NormalizeError

def message : NormalizeError → String
  | .missingRoot root => "root '" ++ root ++ "' not found in payload"
  | .missingField channel paths =>
    "required field '" ++ channel ++ "' missing (looked for " ++ Text.quotedList paths ++ ")"
  | .invalidValue channel path expected found =>
    "field '" ++ channel ++ "' at '" ++ path ++ "': expected " ++ expected.name ++ ", got " ++ found

end NormalizeError

namespace Normalize

/-- The value that some segments lead to, through nested objects. -/
def walk (v : Json) : List String → Option Json
  | [] => some v
  | segment :: rest => (v.member? segment).bind fun inner => walk inner rest

/-- The segments of a path. -/
def segments (path : String) : List String :=
  (Text.pieces '.' path.toList).map String.ofList

/-- The value at a path: the whole value for `.`, else the member with that very key, else the value
at the end of the path's segments. -/
def lookup (v : Json) (path : String) : Option Json :=
  if path = wholePayload then some v
  else match v.member? path with
    | some found => some found
    | none => if path.toList.contains '.' then walk v (segments path) else none

/-- The value at a path unless it is null. -/
def reported (v : Json) (path : String) : Option Json :=
  (lookup v path).filter fun found => !found.isNull

/-- A truth value: `true`, `1` and `on` or `false`, `0` and `off`, in any case. -/
def boolOfText? (s : String) : Option Bool :=
  let word := String.ofList (Text.asciiLower (Text.trim s.toList))
  if word = "true" ∨ word = "1" ∨ word = "on" then some true
  else if word = "false" ∨ word = "0" ∨ word = "off" then some false
  else none

def boolOfJson? : Json → Option Bool
  | .bool b => some b
  | .number n =>
    match n.int64? with
    | some 1 => some true
    | some 0 => some false
    | _ => none
  | .text s => boolOfText? s
  | _ => none

/-- The bound below which a decimal without fraction counts as an integer. -/
def integralBound : Int := 9000000000000000

/-- A decimal as an integer, when it has no fraction and is not too large to be exact. -/
def integral? (x : Binary64) : Option Int :=
  x.toInt?.filter fun n => -integralBound < n ∧ n < integralBound

def integerOfText? (cs : List Char) : Option Int :=
  match Decimal.readInt64? cs with
  | some n => some n
  | none => (Binary64.read? cs).bind integral?

def integerOfNumber? (n : Json.Number) : Option Int :=
  match n.int64? with
  | some n => some n
  | none => integral? n.binary64

/-- The media type of bytes that come as text. -/
def bytesType : String := "application/octet-stream"

def bytesOfText? (cs : List Char) : Option FieldValue :=
  (Text.Base64.decode cs).map fun data => .binary bytesType data

/-- A value of a kind from a text. Blanks around it count only for texts. -/
def ofText? (kind : FieldKind) (s : String) : Option FieldValue :=
  let cs := Text.trim s.toList
  match kind with
  | .integer => (integerOfText? cs).map .integer
  | .decimal => ((Binary64.read? cs).filter (·.isFinite)).map .decimal
  | .boolean => (boolOfText? s).map .boolean
  | .text => some (.text s)
  | .binary => bytesOfText? cs

/-- A value of a kind from a JSON value. -/
def ofJson? (kind : FieldKind) (v : Json) : Option FieldValue :=
  match kind, v with
  | .boolean, v => (boolOfJson? v).map .boolean
  | .integer, .number n => (integerOfNumber? n).map .integer
  | .decimal, .number n => some (.decimal n.binary64)
  | .text, .number n => some (.text n.text)
  | .text, .bool b => some (.text (if b then "true" else "false"))
  | .binary, .text s => bytesOfText? s.toList
  | kind, .text s => ofText? kind s
  | _, _ => none

/-- How a message names a JSON value. -/
def describe : Json → String
  | .null => "null"
  | .bool b => "boolean " ++ if b then "true" else "false"
  | .number n => "number " ++ n.text
  | .text s => "string '" ++ s ++ "'"
  | .array _ => "array"
  | .object _ => "object"

/-- The value of a channel that the payload does not report. -/
def absent (spec : FieldSpec) : Except NormalizeError FieldValue :=
  if spec.required then .error (.missingField spec.channel spec.paths) else .ok .undefined

/-- A converted value, or the fault of one that could not be converted. -/
def converted (spec : FieldSpec) (path found : String) :
    Option FieldValue → Except NormalizeError FieldValue
  | some value => .ok value
  | none => .error (.invalidValue spec.channel path spec.kind found)

/-- The first path that leads to a value, and the value. -/
def firstFound {α : Type} (find : String → Option α) : List String → Option (String × α)
  | [] => none
  | path :: rest =>
    match find path with
    | some a => some (path, a)
    | none => firstFound find rest

/-- The value of a field in a JSON value. -/
def jsonField (node : Json) (spec : FieldSpec) : Except NormalizeError FieldValue :=
  match firstFound (reported node) spec.paths with
  | some (path, v) => converted spec path (describe v) (ofJson? spec.kind v)
  | none => absent spec

/-- The key of a path: below the root, when there is one. -/
def keyOf (root : Option String) (path : String) : String :=
  match root with
  | some r => r ++ "." ++ path
  | none => path

/-- The value of a field among key=value entries. -/
def entryField (root : Option String) (entries : Dict String) (spec : FieldSpec) :
    Except NormalizeError FieldValue :=
  match firstFound entries.get? (spec.paths.map (keyOf root)) with
  | some (key, s) => converted spec key ("'" ++ s ++ "'") (ofText? spec.kind s)
  | none => absent spec

/-- The value of a field when the payload is bytes: a field may claim all of them. -/
def bytesField (mediaType : String) (data : List UInt8) (spec : FieldSpec) :
    Except NormalizeError FieldValue :=
  if spec.kind = .binary ∧ wholePayload ∈ spec.paths then .ok (.binary mediaType data)
  else absent spec

/-- The values of all fields. A later field of the same channel takes the place of an earlier
one. -/
def collect (value : FieldSpec → Except NormalizeError FieldValue) (fields : Dict FieldValue) :
    List FieldSpec → Except NormalizeError (Dict FieldValue)
  | [] => .ok fields
  | spec :: rest => do
    let v ← value spec
    collect value (fields.insert spec.channel v) rest

/-- The part of a JSON payload that holds the fields. -/
def node (v : Json) : Option String → Except NormalizeError Json
  | none => .ok v
  | some root =>
    match reported v root with
    | some found => .ok found
    | none => .error (.missingRoot root)

/-- What the payload says about the device being reachable; silence counts as yes. -/
def onlineFlag (node : Json) : Option String → Except NormalizeError Bool
  | none => .ok true
  | some path =>
    match reported node path with
    | none => .ok true
    | some flag =>
      match boolOfJson? flag with
      | some b => .ok b
      | none => .error (.invalidValue "online" path .boolean (describe flag))

/-- The fields of a payload and whether the vendor says the device is reachable. -/
def fieldsAndFlag (payload : Payload) (schema : Schema) :
    Except NormalizeError (Dict FieldValue × Bool) :=
  match payload with
  | .json v => do
    let node ← node v schema.root
    let online ← onlineFlag node schema.onlineField
    let fields ← collect (jsonField node) [] schema.fields
    .ok (fields, online)
  | .keyValue entries => do
    let fields ← collect (entryField schema.root entries) [] schema.fields
    .ok (fields, true)
  | .binary mediaType data => do
    let fields ← collect (bytesField mediaType data) [] schema.fields
    .ok (fields, true)

end Normalize

/-- The snapshot of a device that answered with a payload. -/
def normalize (payload : Payload) (schema : Schema) (device : Identity) (capturedAt : Instant) :
    Except NormalizeError Snapshot := do
  let (fields, online) ← Normalize.fieldsAndFlag payload schema
  .ok ⟨device.device, device.deviceType, capturedAt, fields, online⟩

end DeviceHub
