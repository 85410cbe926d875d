import DeviceHub.Credential.Source
import DeviceHub.Json.Reader
import DeviceHub.KeyValue
import DeviceHub.Url.Parse

/-!
# Fetching from a bridge

A fetch asks for a credential, sends the request of a device and reads the response. When the vendor
refuses the credential, it is dropped, unless a newer one has taken its place, and the fetch goes
once more with another; a second refusal is final.

`Fetch` is the state machine of one fetch, and `Surroundings` are what it works with. In those of
`HttpClient.fetchAmid` others may act whenever the fetch waits; `HttpClient.fetch` is alone.

Mirrors `HttpDeviceClient` with `attempt`, `decode` and `fetch`.
-/
namespace DeviceHub

/-- A way to a vendor. -/
structure HttpClient where
  bridge : String
  baseUrl : Url
  timeoutSeconds : Nat
  deriving DecidableEq

namespace HttpClient

/-- The message that asks for a device. -/
def message (client : HttpClient) (device : String) (request : DeviceRequest) (c : Credential) :
    Except RequestError HttpRequest :=
  match client.baseUrl.join (request.pathFor device) with
  | .error fault => .error (.invalidUrl fault)
  | .ok url =>
    .ok ⟨request.method, url, some c.authorization,
      match request.body with
      | some body => .json body
      | none => .none⟩

/-- The payload of a response of success. The message of a body that is not JSON is always the same here;
what the reader finds wrong with the text, and where, is not kept. -/
def decode (client : HttpClient) (format : PayloadFormat) (r : HttpResponse) :
    Except RequestError Payload :=
  match r.bodyFault? client.timeoutSeconds with
  | some fault => .error fault
  | none =>
    match format with
    | .json =>
      match Json.read? r.text with
      | some v => .ok (.json v)
      | none => .error (.deserialization "not JSON" r.text)
    | .keyValue =>
      match KeyValue.parse r.text with
      | .ok entries => .ok (.keyValue entries)
      | .error fault => .error (.deserialization fault.message r.text)
    | .binary => .ok (.binary (r.mediaType.getD "application/octet-stream") r.body)

/-- What a response means for a request about a device. -/
def read (client : HttpClient) (device : String) (request : DeviceRequest) (r : HttpResponse) :
    Except RequestError Payload :=
  if r.status = 401 then .error .sessionExpired
  else if ¬r.isSuccess then
    .error (.http r.status (if r.ending = .complete then r.text else ""))
  else do
    let payload ← client.decode request.format r
    match request.envelope with
    | some e => e.check device payload
    | none => .ok ()
    .ok payload

/-- Sends the request once with a credential. -/
def attempt {τ : Type} (wire : Wire τ) (client : HttpClient) (device : String)
    (request : DeviceRequest) (c : Credential) (world : τ) : Except RequestError Payload × τ :=
  match client.message device request c with
  | .error e => (.error e, world)
  | .ok m =>
    match wire.response client.timeoutSeconds m world with
    | (.ok r, world) => (client.read device request r, world)
    | (.error e, world) => (.error e, world)

end HttpClient

namespace Fetch

/-- How far a fetch is. -/
inductive Phase where
  /-- It waits for its credential. -/
  | acquiring
  | sent (c : Credential)
  /-- Its credential was refused and it waits for another. -/
  | reacquiring
  | resent (c : Credential)
  | ended (result : Except RequestError Payload)

/-- The phase after a credential came, or could not be had. -/
def Phase.credited : Phase → Except RequestError Credential → Phase
  | .acquiring, .ok c => .sent c
  | .acquiring, .error e => .ended (.error e)
  | .reacquiring, .ok c => .resent c
  | .reacquiring, .error e => .ended (.error e)
  | p, _ => p

/-- The phase after a request was answered. -/
def Phase.answered : Phase → Except RequestError Payload → Phase
  | .sent _, .error e => if e.isAuthRejection then .reacquiring else .ended (.error e)
  | .sent _, .ok payload => .ended (.ok payload)
  | .resent _, .error e =>
    if e.isAuthRejection then .ended (.error (.authentication "credentials rejected after refresh"))
    else .ended (.error e)
  | .resent _, .ok payload => .ended (.ok payload)
  | p, _ => p

/-- The credential that a vendor refused by an answer. -/
def Phase.refused? : Phase → Except RequestError Payload → Option Credential
  | .sent c, .error e => if e.isAuthRejection then some c else none
  | _, _ => none

/-- What a fetch has to do with: where it gets credentials, and the wire. Both are in one world. -/
structure Surroundings (ω : Type) where
  /-- A credential of a bridge. -/
  obtain : String → ω → Except RequestError Credential × ω
  /-- Somebody says that a credential of a bridge was refused. -/
  invalidateIf : String → Credential → ω → ω
  wire : Wire ω

/-- A refresher beside a wire. The fetch is not the only one to use them: before each of its
dealings with them, `others` may have changed anything. -/
def Surroundings.shared {σ τ : Type}
    (ask : σ → Option String → τ → Except RequestError Credential × τ) (wire : Wire τ)
    (clock : τ → Instant) (others : Refresher σ × τ → Refresher σ × τ) :
    Surroundings (Refresher σ × τ) where
  obtain bridge state :=
    let (refresher, world) := others state
    refresher.obtain ask bridge (clock world) world
  invalidateIf bridge refused state :=
    let (refresher, world) := others state
    (refresher.invalidateIf bridge refused, world)
  wire m state :=
    let (refresher, world) := others state
    let (reply, world) := wire m world
    (reply, refresher, world)

variable {ω : Type}

/-- The world that has heard of a refusal, if there was one. -/
def Surroundings.told (s : Surroundings ω) (bridge : String) : Option Credential → ω → ω
  | some refused, world => s.invalidateIf bridge refused world
  | none, world => world

/-- Runs a fetch to its end. Four steps are always enough. -/
def run (s : Surroundings ω) (client : HttpClient) (device : String) (request : DeviceRequest) :
    Nat → Phase → ω → Except RequestError Payload × ω
  | 0, _, world => (.error .sessionExpired, world)
  | fuel + 1, phase, world =>
    match phase with
    | .ended result => (result, world)
    | .acquiring | .reacquiring =>
      let (c, world) := s.obtain client.bridge world
      run s client device request fuel (phase.credited c) world
    | .sent c | .resent c =>
      let (result, world) := client.attempt s.wire device request c world
      run s client device request fuel (phase.answered result)
        (s.told client.bridge (phase.refused? result) world)

end Fetch

namespace HttpClient

/-- The payload of a device, fetched in surroundings that others use as well. -/
def fetchAmid {ω : Type} (s : Fetch.Surroundings ω) (client : HttpClient) (device : String)
    (request : DeviceRequest) (world : ω) : Except RequestError Payload × ω :=
  Fetch.run s client device request 5 .acquiring world

/-- The payload of a device, fetched alone. -/
def fetch {τ : Type} (wire : Wire τ) (now : Instant) (client : HttpClient) (device : String)
    (request : DeviceRequest) (refresher : Refresher TokenSource) (world : τ) :
    Except RequestError Payload × Refresher TokenSource × τ :=
  client.fetchAmid (.shared (TokenSource.ask wire now) wire (fun _ => now) id) device request
    (refresher, world)

end HttpClient

end DeviceHub
