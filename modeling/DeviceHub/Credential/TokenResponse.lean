import DeviceHub.Credential.Basic
import DeviceHub.Json.Decode
import DeviceHub.Json.Reader

/-!
# Answers of token endpoints

An answer names the token and its lifetime in seconds. A lifetime below zero counts as none, one that
is longer than any span of time as the longest, and an expiry past the end of the calendar as that end.

Mirrors `TokenResponse` with `into_credential`.
-/
namespace DeviceHub

open Json

/-- The answer of a token endpoint. -/
structure TokenResponse where
  accessToken : String
  tokenType : String
  /-- The lifetime in seconds. -/
  expiresIn : Int
  refreshToken : Option String
  deriving DecidableEq

namespace TokenResponse

/-- The fields of an answer in order. -/
def keys : List String := ["access_token", "token_type", "expires_in", "refresh_token"]

/-- The members of an object that are fields. None of them may stand there twice. -/
def ownMembers : List (String × Written) → Option (List (String × Json))
  | [] => some []
  | (key, w) :: rest =>
    if key ∈ keys then
      if rest.any fun e => e.1 = key then none
      else do
        let v ← w.json? depthLimit
        let vs ← ownMembers rest
        some ((key, v) :: vs)
    else ownMembers rest

/-- An answer without the members that are no fields. -/
def own? : Written → Option Json
  | .object members => (ownMembers members).map .object
  | w => w.json? depthLimit

def decode : Decoder TokenResponse := fun v => do
  let found ← Decode.record [Decode.field "access_token" Decode.text,
    Decode.field "token_type" Decode.text, Decode.field "expires_in" Decode.int64,
    Decode.field "refresh_token" (Decode.optional Decode.text)] v
  let accessToken ← found.required 0 Decode.text
  let tokenType ← found.withDefault 1 Decode.text "Bearer"
  let expiresIn ← found.required 2 Decode.int64
  let refreshToken ← found.optional 3 Decode.text
  .ok ⟨accessToken, tokenType, expiresIn, refreshToken⟩

/-- The answer that a text is. Why a text is none is not kept. -/
def read? (text : String) : Option TokenResponse := do
  let w ← Written.read? text
  let v ← own? w
  (decode v).toOption

/-- The lifetime in nanoseconds. -/
def lifetime (r : TokenResponse) : Int :=
  (Instant.span? (max 0 r.expiresIn)).getD Instant.longestSpan

/-- The credential of an answer received at some time. -/
def credential (r : TokenResponse) (receivedAt : Instant) : Credential :=
  ⟨r.accessToken, r.tokenType, (receivedAt.add? r.lifetime).getD .last, r.refreshToken⟩

end TokenResponse

end DeviceHub
