import DeviceHub.Bridge
import DeviceHub.Device
import DeviceHub.Proofs.Http.Attempts
import DeviceHub.Proofs.Url.References

/-!
# Which server a request is sent to

A request about a device is sent to where its path, the id put into it, leads from the base URL of the
client, and the credential goes with it. If the path cannot be read against that base, or no request
can be sent to where it leads, nothing is sent.

As long as the path names no server, the request stays on the origin of the base URL. Neither bridges
nor devices are checked for that: a path or an id with two slashes in front takes the request, and the
credential with it, to any server at all (`attempt_astray`).

* `Addressed`: where a reference leads.
* `attempt_addressed`: nothing is sent, or it is sent to where the path leads.
* `namesServer_pathFor`: a path with a plain segment in front stays on the server for every device.
-/
namespace DeviceHub

/-- Where a reference leads from a base. -/
structure Url.Addressed (base : Url) (reference : String) (u : Url) : Prop where
  joined : base.join reference = .ok u
  /-- Scheme, host and port are those of the base unless the reference names a server. -/
  stays : base.namesServer reference = false → u.origin = base.origin
  /-- A reference that names a server leads to the same place from every base of the scheme. -/
  leaves : base.namesServer reference = true → ∀ other : Url, other.scheme = base.scheme →
    other.isPlain = base.isPlain → other.join reference = .ok u

namespace HttpClient

variable {client : HttpClient} {device : String} {request : DeviceRequest} {c : Credential}

theorem prepared_addressed {m : HttpRequest} (h : client.prepared device request c = .ok m) :
    client.baseUrl.Addressed (request.pathFor device) m.url := by
  obtain ⟨-, -, hweb⟩ := HttpRequest.fault?_eq_none_iff.1 (prepared_eq_ok h).2.2
  have hfile : m.url.scheme ≠ "file" := by
    rcases hweb with hs | hs <;> rw [hs] <;> decide
  have hjoin := join_of_prepared h
  exact ⟨hjoin, Url.origin_join hjoin hfile,
    fun hnames _ => Url.join_of_namesServer hjoin hfile hnames⟩

/-- An attempt sends nothing, or it sends the credential to where the path leads from the base URL. If
the path cannot be read against the base, it sends nothing. -/
theorem attempt_addressed (client : HttpClient) (device : String) (request : DeviceRequest)
    (c : Credential) :
    (∃ e, ∀ {τ : Type} (wire : Wire τ) (world : τ),
      client.attempt wire device request c world = (.error e, world)) ∨
    ∃ m : HttpRequest, m.authorization = some c.authorization ∧
      client.baseUrl.Addressed (request.pathFor device) m.url ∧
      ∀ {τ : Type} (wire : Wire τ) (world : τ), client.attempt wire device request c world =
        (client.outcome device request m (wire m world).1, (wire m world).2) := by
  cases h : client.prepared device request c with
  | error e => exact .inl ⟨e, fun wire world => by rw [attempt_eq, h]⟩
  | ok m =>
    exact .inr ⟨m, (prepared_eq_ok h).2.1, prepared_addressed h,
      fun wire world => by rw [attempt_eq, h]⟩

/-! ## A way to another server -/

/-- A bridge to `http://server/v1/`. -/
def guardedBridge : BridgeConfig :=
  ⟨"hub", ⟨"http", some ⟨"", none, .domain "server", none⟩, .segments ["v1", ""], none, none⟩,
    .basic "admin" "secret", .usual, .usual⟩

/-- A device whose path has two slashes in front, and one whose id has. -/
def astray : List DeviceConfig :=
  [⟨⟨"hub", "ac1", "plug"⟩, 30, .get "//127.0.0.1:9/devices/\x7bdevice\x7d"⟩,
    ⟨⟨"hub", "//127.0.0.1:9/devices/ac1", "plug"⟩, 30, .get "\x7bdevice\x7d"⟩]

/-- What both ask for. -/
def elsewhere : Url :=
  ⟨"http", some ⟨"", none, .ipv4 0x7f000001, some 9⟩, .segments ["devices", "ac1"], none, none⟩

/-- Bridge and devices are accepted, and the requests take the credential to another host and another
port. -/
theorem attempt_astray :
    guardedBridge.fault? = none ∧
      guardedBridge.baseUrl.origin = ("http", some (.domain "server"), some 80) ∧
      elsewhere.origin = ("http", some (.ipv4 0x7f000001), some 9) ∧
      ∀ d ∈ astray, d.fault? = none ∧
        ∃ m, (⟨"hub", guardedBridge.baseUrl, 30⟩ : HttpClient).prepared d.identity.device d.request
            (.basic "admin" "secret") = .ok m ∧
          m.url = elsewhere ∧ m.authorization = some "Basic YWRtaW46c2VjcmV0" := by
  have hheader : (Credential.basic "admin" "secret").authorization = "Basic YWRtaW46c2VjcmV0" := by
    decide +kernel
  have haccepted : ∀ d ∈ astray, d.fault? = none := by decide +kernel
  have hread : ∀ d ∈ astray, (guardedBridge.baseUrl.join
      (d.request.pathFor d.identity.device)).toOption = some elsewhere := by decide +kernel
  refine ⟨by decide +kernel, by decide +kernel, by decide +kernel, fun d hd => ⟨haccepted d hd, ?_⟩⟩
  have hjoin : guardedBridge.baseUrl.join (d.request.pathFor d.identity.device) = .ok elsewhere := by
    have hd := hread d hd
    cases h : guardedBridge.baseUrl.join (d.request.pathFor d.identity.device) with
    | error fault =>
      rw [h] at hd
      cases hd
    | ok url =>
      rw [h] at hd
      exact congrArg Except.ok (Option.some.inj hd)
  rw [← hheader]
  exact prepared_of_join hjoin (hheader ▸ by decide +kernel) (by decide) (.inl rfl)

end HttpClient

/-! ## Paths that stay -/

namespace Text

theorem replaceAll_append {pattern replacement a b : List Char} {c : Char}
    (hpattern : pattern.head? = some c) (ha : c ∉ a) :
    replaceAll pattern replacement (a ++ b) = a ++ replaceAll pattern replacement b := by
  induction a with
  | nil => rfl
  | cons d a ih =>
    obtain ⟨r, rfl⟩ := List.head?_eq_some_iff.1 hpattern
    have hd : c ≠ d := fun heq => ha (heq ▸ List.mem_cons_self)
    rw [List.cons_append, replaceAll, if_neg (by simp [hd]),
      ih (fun hmem => ha (List.mem_cons_of_mem _ hmem))]
    rfl

end Text

/-- Where a path has a plain segment in front, no id of a device leads away from the server. -/
theorem DeviceRequest.namesServer_pathFor {request : DeviceRequest} {segment rest : List Char}
    (hpath : request.path.toList = segment ++ '/' :: rest)
    (hsegment : ∀ c ∈ segment, Url.isSegmentChar c = true) (hne : segment ≠ []) (base : Url)
    (device : String) : base.namesServer (request.pathFor device) = false := by
  have hbrace : '\x7b' ∉ segment ++ ['/'] := by
    intro hmem
    rcases List.mem_append.1 hmem with hmem | hmem
    · exact absurd (hsegment _ hmem) (by decide)
    · exact absurd (List.mem_singleton.1 hmem) (by decide)
  have htext : (request.pathFor device).toList =
      segment ++ '/' :: Text.replaceAll placeholder.toList device.toList rest := by
    rw [pathFor, String.toList_ofList, hpath, ← List.singleton_append, ← List.append_assoc,
      Text.replaceAll_append (c := '\x7b') (by decide) hbrace]
    simp
  exact Url.namesServer_of_segment base htext hsegment hne

end DeviceHub
