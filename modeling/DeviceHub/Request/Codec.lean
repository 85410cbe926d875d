import DeviceHub.Json.Decode
import DeviceHub.Request.Basic

/-!
# The configuration form of requests

Methods, formats and envelopes as they stand in configurations.

Mirrors the serialized forms of `HttpMethod`, `PayloadFormat`, `StateMatch` and `ResultEnvelope`.
-/
namespace DeviceHub

open Json

namespace Method

def decode (dialect : Dialect) : Decoder Method :=
  Decode.choice dialect (all.map fun m => (m.name, m))

end Method

namespace PayloadFormat

def decode (dialect : Dialect) : Decoder PayloadFormat :=
  Decode.choice dialect (all.map fun f => (f.name, f))

end PayloadFormat

namespace StateMatch

def decode : Decoder StateMatch := fun v => do
  let found ← Decode.record [Decode.field "field" Decode.text, Decode.field "value" Decode.text] v
  let field ← found.required 0 Decode.text
  let value ← found.required 1 Decode.text
  .ok ⟨field, value⟩

def toJson (s : StateMatch) : Json := .object [("field", .text s.field), ("value", .text s.value)]

end StateMatch

namespace Envelope

def decode : Decoder Envelope := fun v => do
  let codes := Decode.list Decode.text
  let found ← Decode.record [Decode.field "field" Decode.text, Decode.field "ok_codes" codes,
    Decode.field "auth_codes" codes, Decode.field "offline_codes" codes,
    Decode.field "message_field" (Decode.optional Decode.text),
    Decode.field "offline_state" (Decode.optional StateMatch.decode)] v
  let field ← found.required 0 Decode.text
  let okCodes ← found.required 1 codes
  let authCodes ← found.withDefault 2 codes []
  let offlineCodes ← found.withDefault 3 codes []
  let messageField ← found.optional 4 Decode.text
  let offlineState ← found.optional 5 StateMatch.decode
  .ok ⟨field, okCodes, authCodes, offlineCodes, messageField, offlineState⟩

def toJson (e : Envelope) : Json :=
  let texts (ss : List String) : Json := .array (ss.map .text)
  .object [("field", .text e.field), ("ok_codes", texts e.okCodes),
    ("auth_codes", texts e.authCodes), ("offline_codes", texts e.offlineCodes),
    ("message_field", optText e.messageField), ("offline_state", ofOption (·.toJson) e.offlineState)]

end Envelope

end DeviceHub
