import DeviceHub.Json.Writer
import DeviceHub.Payload
import DeviceHub.Request.Error
import DeviceHub.Text.Pieces

/-!
# Result codes

Some vendors answer every request with success and put the outcome into the payload. An envelope
says where the code stands and what the codes mean; a code that it does not know is a failure.

Mirrors `StateMatch`, and `ResultEnvelope` with `check`, `builtin`, `lookup_code` and `code_text`.
-/
namespace DeviceHub

/-- A test of one field of a payload. -/
structure StateMatch where
  field : String
  value : String
  deriving DecidableEq

/-- What the codes of a vendor mean. -/
structure Envelope where
  /-- Where the code stands. -/
  field : String
  okCodes : List String
  authCodes : List String
  offlineCodes : List String
  /-- Where a text about the outcome stands. -/
  messageField : Option String
  /-- A state that means, when the code is not one of success, that the device is offline. -/
  offlineState : Option StateMatch
  deriving DecidableEq

namespace Envelope

/-- The member with that very key, else the value at the end of the key's segments. -/
def find (v : Json) (key : String) : Option Json :=
  match v.member? key with
  | some found => some found
  | none => ((Text.pieces '.' key.toList).map String.ofList).foldlM (fun v k => v.member? k) v

/-- The text of a code. -/
def codeText : Json → Option String
  | .text s => some s
  | .number n => some n.text
  | _ => none

/-- The code that stands at a key of a payload. -/
def code? (payload : Payload) (key : String) : Option String :=
  match payload with
  | .json v => (find v key).bind codeText
  | .keyValue entries => entries.get? key
  | .binary .. => none

end Envelope

/-- Whether a payload is in the state. -/
def StateMatch.holds (s : StateMatch) (payload : Payload) : Bool :=
  Envelope.code? payload s.field = some s.value

namespace Envelope

/-- The failure that a code means, if it means one. -/
def failure? (e : Envelope) (device : String) (payload : Payload) (code : String) :
    Option RequestError :=
  if code ∈ e.okCodes then none
  else if code ∈ e.authCodes then some .sessionExpired
  else if code ∈ e.offlineCodes ∨ e.offlineState.any fun s => s.holds payload then
    some (.deviceOffline device code)
  else some (.vendor code ((e.messageField.bind (code? payload)).getD ""))

/-- Whether a payload is a success. Bytes have no code and always are. -/
def check (e : Envelope) (device : String) (payload : Payload) : Except RequestError Unit :=
  match payload with
  | .binary .. => .ok ()
  | payload =>
    match code? payload e.field with
    | none => .error (.deserialization ("result code field '" ++ e.field ++ "' missing") "")
    | some code =>
      match e.failure? device payload code with
      | some failure => .error failure
      | none => .ok ()

/-! ## Known vendors -/

def thinq : Envelope :=
  ⟨"resultCode", ["0000", "0001"], ["0102", "0110"], ["0106"], some "returnMsg", none⟩

def thinqV1 : Envelope :=
  ⟨"lgedmRoot.returnCd", ["0000"], ["0102", "0110"], ["0106"], some "lgedmRoot.returnMsg",
    some ⟨"lgedmRoot.deviceState", "D"⟩⟩

def builtins : List (String × Envelope) :=
  [("lg", thinq), ("lg_thinq", thinq), ("lg_v1", thinqV1), ("lg_thinq_v1", thinqV1)]

def builtin? (name : String) : Option Envelope := Dict.get? builtins name

end Envelope

end DeviceHub
