import DeviceHub.Instant
import DeviceHub.Text.Base64
import DeviceHub.Text.Quoted
import DeviceHub.Text.Utf8

/-!
# Credentials

A credential is a token with a scheme and an expiry. A credential that expires within a margin is
renewed before it is used; where now and margin together leave the calendar, nothing has expired.

Mirrors `Credential` with `authorization`, `expires_within` and `same_token`, and the credentials of
`StaticTokenSource`.
-/
namespace DeviceHub

/-- A credential for one bridge. -/
structure Credential where
  token : String
  /-- The scheme that the token belongs to. -/
  tokenType : String
  expiresAt : Instant
  refreshToken : Option String
  deriving DecidableEq

/-- Whether an expiry is not later than `margin` nanoseconds from now. -/
def Instant.isWithin (expiry : Instant) (margin : Int) (now : Instant) : Bool :=
  match now.add? margin with
  | some deadline => decide (expiry ≤ deadline)
  | none => false

namespace Credential

/-- The value of the header that carries the credential. -/
def authorization (c : Credential) : String := c.tokenType ++ " " ++ c.token

def expiresWithin (c : Credential) (margin : Int) (now : Instant) : Bool :=
  c.expiresAt.isWithin margin now

/-- Whether two credentials are the same to a vendor. -/
def sameToken (a b : Credential) : Bool := a.tokenType = b.tokenType ∧ a.token = b.token

/-- A credential that never expires. -/
def nonExpiring (tokenType token : String) : Credential := ⟨token, tokenType, .last, none⟩

/-- User name and password as one token. -/
def basic (username password : String) : Credential :=
  nonExpiring "Basic"
    (String.ofList (Text.Base64.encode (Text.Utf8.encode (username ++ ":" ++ password).toList)))

/-- A token issued beforehand. -/
def bearer (token : String) : Credential := nonExpiring "Bearer" token

/-- A form that shows no secret. -/
def redacted (c : Credential) : String :=
  "Credential \x7b token_type: " ++ Text.quoted c.tokenType ++ ", expires_at: " ++
    c.expiresAt.text ++ ", has_refresh_token: " ++
    (if c.refreshToken.isSome then "true" else "false") ++ ", .. \x7d"

end Credential

end DeviceHub
