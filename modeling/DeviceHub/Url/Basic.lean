import DeviceHub.Url.Host

/-!
# URLs

A URL in normal form: every part is held as it is written. `Url.origin` is what decides which server
is asked.
-/
namespace DeviceHub

/-- What stands between the slashes and the path. Without user and password there is no userinfo. -/
structure Url.Authority where
  username : String
  password : Option String
  host : Url.Host
  port : Option Nat
  deriving DecidableEq

/-- A path: text without structure, or segments, each behind a slash. -/
inductive Url.Path where
  | plain (text : String)
  | segments (list : List String)
  deriving DecidableEq

/-- A URL. -/
structure Url where
  scheme : String
  authority : Option Url.Authority
  path : Url.Path
  query : Option String
  fragment : Option String
  deriving DecidableEq

namespace Url

/-- How a scheme treats its URLs. -/
inductive SchemeKind where
  | file
  | network
  | other
  deriving DecidableEq

def schemeKind (scheme : String) : SchemeKind :=
  if scheme = "file" then .file
  else if ["http", "https", "ws", "wss", "ftp"].contains scheme then .network
  else .other

/-- Whether a backslash counts as a slash. -/
def SchemeKind.isSpecial : SchemeKind → Bool
  | .other => false
  | _ => true

/-- The port that is not written. -/
def defaultPort? (scheme : String) : Option Nat :=
  if scheme = "http" ∨ scheme = "ws" then some 80
  else if scheme = "https" ∨ scheme = "wss" then some 443
  else if scheme = "ftp" then some 21
  else none

/-- The host, unless it is empty. -/
def host? (u : Url) : Option Host :=
  match u.authority with
  | some a => if a.host = .domain "" then none else some a.host
  | none => none

/-- Whether no relative reference but a fragment can be resolved against the URL. -/
def isPlain (u : Url) : Bool :=
  match u.path with
  | .plain _ => true
  | .segments _ => false

/-- Scheme, host and port, the port also when it is not written. -/
def origin (u : Url) : String × Option Host × Option Nat :=
  (u.scheme, u.host?, ((u.authority.bind fun a => a.port) <|> defaultPort? u.scheme))

def Authority.text (a : Authority) : String :=
  let user := a.username ++ match a.password with
    | some p => ":" ++ p
    | none => ""
  (if user = "" then "" else user ++ "@") ++ a.host.text ++ match a.port with
    | some p => ":" ++ toString p
    | none => ""

def Path.text : Path → String
  | .plain text => text
  | .segments list => String.join (list.map fun s => "/" ++ s)

/-- The written form. A path that starts with two slashes gets `/.` in front where it would read as
an authority. -/
def text (u : Url) : String :=
  let path := u.path.text
  u.scheme ++ ":" ++ (match u.authority with
    | some a => "//" ++ a.text
    | none => if "//".toList.isPrefixOf path.toList then "/." else "") ++ path ++
    (match u.query with
    | some q => "?" ++ q
    | none => "") ++
    (match u.fragment with
    | some f => "#" ++ f
    | none => "")

end Url

end DeviceHub
