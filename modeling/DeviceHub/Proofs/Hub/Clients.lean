import DeviceHub.Proofs.Hub.Registration
import DeviceHub.Proofs.Hub.Tasks

/-!
# Who is asked

A poll task asks the client that its bridge had when the task was started. Only taking a bridge in
gives a bridge a client or another source of credentials; everything else that happens to a hub leaves
both as they are, and tasks keep the clients that they have.

* `register_cases`: the three things that taking a bridge in can do.
* `KeepsClients`: a hub after something that is not about bridges.
* `keepsClients_step`: every act is such, or about bridges or credentials.
-/
namespace DeviceHub

namespace BridgeConfig

/-- The client of the bridge. -/
def client (b : BridgeConfig) : HttpClient := ⟨b.id, b.baseUrl, b.transport.timeoutSeconds⟩

/-- Where the credentials of the bridge come from. -/
def source (b : BridgeConfig) : TokenSource := b.auth.source b.transport

end BridgeConfig

namespace Hub

variable {κ : Type} {h h' h'' : Hub κ}

/-- A bridge is refused before anything has changed, or its source is replaced, and it gets its client
as well unless that fails. -/
theorem register_cases (fault : CertificateFault) (h : Hub κ) (b : BridgeConfig) :
    ((h.register fault b).1 ≠ .ok () ∧ (h.register fault b).2 = h ∧
        (b.fault? ≠ none ∨ b.auth.connects = true)) ∨
      ((h.register fault b).1 ≠ .ok () ∧ (h.register fault b).2 = h.withSource b ∧
        b.fault? = none ∧ b.auth.connects = false) ∨
      (h.register fault b).1 = .ok () ∧
        (h.register fault b).2 = (h.withSource b).attach b.id (.http b.client) := by
  have hvalid : b.validate = .ok () ↔ b.fault? = none := by
    unfold BridgeConfig.validate
    split <;> simp_all
  cases hanswer : (h.register fault b).1 with
  | error e =>
    rcases register_eq_error hanswer with ⟨hsame, hkept⟩ | ⟨hsource, hok, hconnects⟩
    · exact .inl ⟨nofun, hsame, hkept.imp_left fun hn hnone => hn (hvalid.2 hnone)⟩
    · exact .inr (.inl ⟨nofun, hsource, hvalid.1 hok, hconnects⟩)
  | ok u => exact .inr (.inr ⟨rfl, (register_eq_ok hanswer).2⟩)

/-- Bridges and credentials are as they were, tasks ask whom they asked, and new tasks ask a client that
some bridge has. -/
structure KeepsClients (h h' : Hub κ) : Prop where
  refresher : h'.refresher = h.refresher
  clients : h'.clients = h.clients
  length_le : h.tasks.length ≤ h'.tasks.length
  tasks : ∀ n t', h'.task? n = some t' →
    (∃ t, h.task? n = some t ∧ t'.client = t.client) ∨
      h.tasks.length ≤ n ∧ ∃ bridge, h.clients.get? bridge = some t'.client

theorem KeepsClients.trans (hk : KeepsClients h h') (hk' : KeepsClients h' h'') :
    KeepsClients h h'' := by
  refine ⟨hk'.refresher.trans hk.refresher, hk'.clients.trans hk.clients,
    Nat.le_trans hk.length_le hk'.length_le, fun n t'' ht'' => ?_⟩
  rcases hk'.tasks n t'' ht'' with ⟨t', ht', hsame'⟩ | ⟨hle, bridge, hclient⟩
  · rcases hk.tasks n t' ht' with ⟨t, ht, hsame⟩ | ⟨hle, bridge, hclient⟩
    · exact .inl ⟨t, ht, hsame'.trans hsame⟩
    · exact .inr ⟨hle, bridge, hsame' ▸ hclient⟩
  · rw [hk.clients] at hclient
    exact .inr ⟨Nat.le_trans hk.length_le hle, bridge, hclient⟩

/-- The tasks are the same ones, only further or cancelled. -/
theorem keepsClients_of_map (hr : h'.refresher = h.refresher) (hc : h'.clients = h.clients)
    (hl : h'.tasks.length = h.tasks.length)
    (ht : ∀ n t', h'.task? n = some t' → ∃ t, h.task? n = some t ∧ t'.client = t.client) :
    KeepsClients h h' :=
  ⟨hr, hc, Nat.le_of_eq hl.symm, fun n t' ht' => .inl (ht n t' ht')⟩

theorem keepsClients_of_eq (hr : h'.refresher = h.refresher) (hc : h'.clients = h.clients)
    (ht : h'.tasks = h.tasks) : KeepsClients h h' := by
  refine keepsClients_of_map hr hc (by rw [ht]) fun n t' ht' => ⟨t', ?_, rfl⟩
  rwa [Hub.task?, ht] at ht'

theorem keepsClients_withPoller (h : Hub κ) (n : Nat) (p : Poller) :
    KeepsClients h (h.withPoller n p) := by
  refine keepsClients_of_map rfl rfl (List.length_modify ..) fun m t' ht' => ?_
  rw [task?_withPoller] at ht'
  obtain ⟨t, ht, rfl⟩ := Option.map_eq_some_iff.1 ht'
  exact ⟨t, ht, by split <;> rfl⟩

theorem keepsClients_cancelTask (h : Hub κ) (n : Nat) : KeepsClients h (h.cancelTask n) := by
  refine keepsClients_of_map rfl rfl (List.length_modify ..) fun m t' ht' => ?_
  rw [task?_cancelTask] at ht'
  obtain ⟨t, ht, rfl⟩ := Option.map_eq_some_iff.1 ht'
  exact ⟨t, ht, by split <;> rfl⟩

theorem keepsClients_absorb (h : Hub κ) (device : String) (r : Except HubError Snapshot)
    (now : Instant) : KeepsClients h (h.absorb device r now) := by
  unfold absorb record
  cases r <;> simp only <;> split <;> exact keepsClients_of_eq rfl rfl rfl

theorem keepsClients_enroll (h : Hub κ) (d : DeviceConfig) : KeepsClients h (h.enroll d).2 := by
  have hrefl : KeepsClients h h := keepsClients_of_eq rfl rfl rfl
  unfold enroll
  simp only
  split
  · exact hrefl
  · split
    · exact hrefl
    · split
      · next t ht =>
        obtain ⟨interval, client, schema, hclient, -, rfl⟩ := prepare_eq_ok ht
        refine ⟨rfl, rfl, by simp [accept, withDevice, tell], fun n t' ht' => ?_⟩
        rw [task?_accept] at ht'
        split at ht'
        · next hn =>
          cases ht'
          exact .inr ⟨Nat.le_of_eq hn.symm, _, hclient⟩
        · exact .inl ⟨t', ht', rfl⟩
      · exact keepsClients_of_eq rfl rfl rfl

theorem keepsClients_dispose (h : Hub κ) (device : String) :
    KeepsClients h (h.dispose device).2 := by
  unfold dispose
  split
  · exact keepsClients_of_eq rfl rfl rfl
  · next entry _ =>
    have hcancel : KeepsClients h (h.cancelEntry entry) := by
      unfold cancelEntry
      split
      · exact keepsClients_cancelTask h _
      · exact keepsClients_of_eq rfl rfl rfl
    exact hcancel.trans (keepsClients_of_eq rfl rfl rfl)

theorem keepsClients_refresh (h : Hub κ) (device : String) :
    KeepsClients h (h.refresh device).2 := by
  unfold refresh
  split
  · exact keepsClients_of_eq rfl rfl rfl
  · split
    · exact keepsClients_of_eq rfl rfl rfl
    · exact keepsClients_withPoller h _ _

theorem keepsClients_beginShutdown (h : Hub κ) : KeepsClients h h.beginShutdown := by
  refine keepsClients_of_map rfl rfl (List.length_map ..) fun m t' ht' => ?_
  rw [task?_beginShutdown] at ht'
  obtain ⟨t, ht, rfl⟩ := Option.map_eq_some_iff.1 ht'
  exact ⟨t, ht, rfl⟩

theorem keepsClients_finish (h : Hub κ) (n time : Nat) (now : Instant)
    (answer : Except RequestError Payload) : KeepsClients h (h.finish n time now answer) := by
  cases ht : h.task? n with
  | none =>
    simp only [finish, ht]
    exact keepsClients_of_eq rfl rfl rfl
  | some t =>
    obtain ⟨p, -, heq⟩ := finish_eq ht time now answer
    rw [heq]
    split
    · exact keepsClients_withPoller h n p
    · exact (keepsClients_absorb h _ _ now).trans (keepsClients_withPoller _ n p)

/-- The acts that are about bridges or credentials. -/
def Act.concernsBridges : Act κ → Bool
  | .attach .. | .register .. | .renew .. => true
  | _ => false

theorem keepsClients_step (h : Hub κ) {a : Act κ} (ha : a.concernsBridges = false) :
    KeepsClients h (h.step a) := by
  cases a with
  | attach | register | renew => cases ha
  | enroll d => exact keepsClients_enroll h d
  | dispose device => exact keepsClients_dispose h device
  | restart device =>
    simp only [step, restart]
    split
    · exact keepsClients_of_eq rfl rfl rfl
    · exact (keepsClients_dispose h device).trans (keepsClients_enroll _ _)
  | update d => exact (keepsClients_dispose h d.identity.device).trans (keepsClients_enroll _ _)
  | refresh device => exact keepsClients_refresh h device
  | commandDone device answer =>
    cases answer with
    | error e => exact keepsClients_of_eq rfl rfl rfl
    | ok payload => exact keepsClients_refresh h device
  | subscribe => exact keepsClients_of_eq rfl rfl rfl
  | beginShutdown => exact keepsClients_beginShutdown h
  | release device =>
    simp only [step]
    split <;> exact keepsClients_of_eq rfl rfl rfl
  | wake n time =>
    simp only [step, wake]
    split
    · exact keepsClients_of_eq rfl rfl rfl
    · exact keepsClients_withPoller h n _
  | finish n time now answer =>
    simp only [step]
    split
    · exact keepsClients_finish h n time now answer
    · exact keepsClients_of_eq rfl rfl rfl

end Hub

end DeviceHub
