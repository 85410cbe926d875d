import DeviceHub.Json.Decode
import DeviceHub.Schema.Basic

/-!
# The configuration form of schemas

Schemas are written in full and read leniently: the paths of a field may stand under either of two
keys and may be a single text, and what has a default may be left out.

Mirrors the serialized forms of `FieldSpec` and `Schema`, `one_or_many` included.
-/
namespace DeviceHub

open Json

/-- A list of texts, or one text for a list of one. -/
def Json.Decode.oneOrMany : Decoder (List String)
  | .text s => .ok [s]
  | v => match Decode.list Decode.text v with
    | .ok ss => .ok ss
    | .error _ => Decode.fault .message

namespace FieldKind

def decode (dialect : Dialect) : Decoder FieldKind :=
  Decode.choice dialect (all.map fun k => (k.name, k))

end FieldKind

namespace FieldSpec

def decode (dialect : Dialect) : Decoder FieldSpec := fun v => do
  let found ← Decode.record [Decode.field "channel" Decode.text,
    Decode.fieldWithAlias "paths" "path" Decode.oneOrMany,
    Decode.field "kind" (FieldKind.decode dialect), Decode.field "required" Decode.bool] v
  let channel ← found.required 0 Decode.text
  let paths ← found.required 1 Decode.oneOrMany
  let kind ← found.required 2 (FieldKind.decode dialect)
  let required ← found.withDefault 3 Decode.bool false
  .ok ⟨channel, paths, kind, required⟩

def toJson (f : FieldSpec) : Json :=
  .object [("channel", .text f.channel), ("paths", .array (f.paths.map .text)),
    ("kind", .text f.kind.name), ("required", .bool f.required)]

end FieldSpec

namespace Schema

def decode (dialect : Dialect) : Decoder Schema := fun v => do
  let fields := Decode.list (FieldSpec.decode dialect)
  let found ← Decode.record [Decode.field "root" (Decode.optional Decode.text),
    Decode.field "online_field" (Decode.optional Decode.text), Decode.field "fields" fields] v
  let root ← found.optional 0 Decode.text
  let onlineField ← found.optional 1 Decode.text
  let specs ← found.required 2 fields
  .ok ⟨root, onlineField, specs⟩

def toJson (s : Schema) : Json :=
  .object [("root", Json.optText s.root), ("online_field", Json.optText s.onlineField),
    ("fields", .array (s.fields.map (·.toJson)))]

end Schema

end DeviceHub
