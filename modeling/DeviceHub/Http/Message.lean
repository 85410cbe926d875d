import DeviceHub.Request.Basic
import DeviceHub.Request.Error
import DeviceHub.Text.Utf8

/-!
# HTTP messages

What is sent to a vendor and what comes back. How a message travels is not part of this library: a
request is a value, and whatever happens to it is a `Reply`.

Mirrors what `HttpDeviceClient.attempt` and `OAuthTokenSource.request` hand over to a connection, and
`map_send_error`.
-/
namespace DeviceHub

/-- The body of a message that is sent. -/
inductive HttpBody where
  | none
  | json (value : Json)
  | form (entries : List (String × String))

/-- A message to a server. -/
structure HttpRequest where
  method : Method
  url : Url
  authorization : Option String
  body : HttpBody

/-- How the body of a message ended. -/
inductive BodyEnd where
  | complete
  | broken
  /-- It had not all come in time. -/
  | late
  deriving DecidableEq

/-- A message from a server, with as much of its body as came. -/
structure HttpResponse where
  status : Nat
  mediaType : Option String
  body : List UInt8
  ending : BodyEnd
  deriving DecidableEq

/-- What happened to a message. -/
inductive Reply where
  | response (r : HttpResponse)
  /-- No connection, or one that was closed without an answer. -/
  | noAnswer
  /-- No answer in time. -/
  | late
  deriving DecidableEq

namespace HttpResponse

def isSuccess (r : HttpResponse) : Bool := 200 ≤ r.status ∧ r.status ≤ 299

/-- Why the body cannot be read, when it is asked for. -/
def bodyFault? (r : HttpResponse) (timeoutSeconds : Nat) : Option RequestError :=
  match r.ending with
  | .complete => none
  | .broken => some (.transport .brokenBody)
  | .late => some (.timeout timeoutSeconds)

/-- The body as text. -/
def text (r : HttpResponse) : String := String.ofList (Text.Utf8.decode r.body)

end HttpResponse

namespace HttpRequest

/-- Whether a text may be the value of a header: no control but the tab. -/
def isHeaderValue (s : String) : Bool :=
  s.toList.all fun c => c = '\t' ∨ (32 ≤ c.toNat ∧ c.toNat ≠ 127)

/-- The URL as it is asked for: user and password do not belong to it. -/
def target (u : Url) : Url :=
  { u with authority := u.authority.map fun a => { a with username := "", password := none } }

/-- Whether a request can be sent at all, and why not. -/
def fault? (r : HttpRequest) : Option TransportFault :=
  let refused : TransportFault := .notARequest (some (target r.url).text)
  if r.url.host? = none then some refused
  else if r.authorization.any fun a => !isHeaderValue a then some (.notARequest none)
  else if r.url.scheme ≠ "http" ∧ r.url.scheme ≠ "https" then some refused
  else none

/-- The failure of a request that got no response. -/
def failure? (r : HttpRequest) (timeoutSeconds : Nat) : Reply → Except RequestError HttpResponse
  | .response response => .ok response
  | .noAnswer => .error (.transport (.noAnswer (target r.url).text))
  | .late => .error (.timeout timeoutSeconds)

end HttpRequest

end DeviceHub
