import DeviceHub.Credential.Refresher
import DeviceHub.Credential.TokenResponse
import DeviceHub.Http.Message
import DeviceHub.Http.Status

/-!
# Token sources

Where credentials come from. An account asks the token endpoint of its vendor: with the refresh
token if there is one, and when the endpoint refuses that, with user name and password. Everything
else is a credential that was given once and for all.

What the endpoint answers is a parameter, `Wire`.

Mirrors `TokenSource.fetch_token` of `OAuthTokenSource` and `StaticTokenSource`, and
`OAuthTokenSource.request`.
-/
namespace DeviceHub

/-- Carries a message and brings back what happened to it. Where a server sends a message on to
another place, the wire follows. -/
abbrev Wire (τ : Type) := HttpRequest → τ → Reply × τ

/-- An account at a vendor. -/
structure Account where
  tokenUrl : Url
  clientId : String
  clientSecret : Option String
  username : String
  password : String
  scope : Option String
  timeoutSeconds : Nat
  deriving DecidableEq

/-- What a token endpoint is shown. -/
inductive Grant where
  | password
  | refresh (token : String)
  deriving DecidableEq

/-- Where a bridge's credentials come from. -/
inductive TokenSource where
  | account (a : Account)
  | fixed (c : Credential)
  deriving DecidableEq

/-- A wire on which nothing ever comes back. -/
def Wire.silent : Wire Unit := fun _ world => (.noAnswer, world)

/-- Sends a request, if it is one, and gives the response. -/
def Wire.response {τ : Type} (wire : Wire τ) (timeoutSeconds : Nat) (r : HttpRequest) (world : τ) :
    Except RequestError HttpResponse × τ :=
  match r.fault? with
  | some fault => (.error (.transport fault), world)
  | none =>
    let (reply, world) := wire r world
    (r.failure? timeoutSeconds reply, world)

namespace Account

/-- The fields of a token request. -/
def form (a : Account) (grant : Grant) : List (String × String) :=
  let optional (key : String) (value : Option String) : List (String × String) :=
    match value with
    | some v => [(key, v)]
    | none => []
  [("client_id", a.clientId)] ++ optional "client_secret" a.clientSecret ++
    optional "scope" a.scope ++
    match grant with
    | .password => [("grant_type", "password"), ("username", a.username), ("password", a.password)]
    | .refresh token => [("grant_type", "refresh_token"), ("refresh_token", token)]

def request (a : Account) (grant : Grant) : HttpRequest :=
  ⟨.post, a.tokenUrl, none, .form (a.form grant)⟩

/-- The credential that a response to a token request brings. An endpoint that sends no new refresh
token lets the one it was shown be used again. The message of a body that is no answer is always the same
here; what the reader finds wrong with it is not kept. -/
def read (a : Account) (grant : Grant) (now : Instant) (r : HttpResponse) :
    Except RequestError Credential :=
  match r.bodyFault? a.timeoutSeconds with
  | some fault => .error fault
  | none =>
    if r.isSuccess then
      match TokenResponse.read? r.text with
      | none => .error (.deserialization "token response: not as expected" r.text)
      | some answer =>
        let c := answer.credential now
        .ok (match grant with
          | .refresh token => { c with refreshToken := c.refreshToken <|> some token }
          | .password => c)
    else if FailureClass.ofStatus r.status = .transient then .error (.http r.status r.text)
    else
      .error (.authentication
        ("token request rejected (HTTP " ++ HttpStatus.text r.status ++ "): " ++ r.text))

variable {τ : Type}

/-- Asks the endpoint once. -/
def ask (wire : Wire τ) (now : Instant) (a : Account) (grant : Grant) (world : τ) :
    Except RequestError Credential × τ :=
  match wire.response a.timeoutSeconds (a.request grant) world with
  | (.ok r, world) => (a.read grant now r, world)
  | (.error e, world) => (.error e, world)

end Account

namespace TokenSource

variable {τ : Type}

/-- A credential from a source that is shown the refresh token held, if any. -/
def ask (wire : Wire τ) (now : Instant) (source : TokenSource) (held : Option String) (world : τ) :
    Except RequestError Credential × τ :=
  match source, held with
  | .fixed c, _ => (.ok c, world)
  | .account a, none => a.ask wire now .password world
  | .account a, some token =>
    match a.ask wire now (.refresh token) world with
    | (.error (.authentication _), world) => a.ask wire now .password world
    | answer => answer

end TokenSource

end DeviceHub
