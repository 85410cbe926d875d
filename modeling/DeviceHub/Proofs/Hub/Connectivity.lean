import DeviceHub.Proofs.Hub.History
import Mathlib.Data.List.Chain

/-!
# The connectivity that is told is the one that is tracked

Connectivity is told when it changes, and the health that a device begins with is never told. That
makes no gap only because no poll can bring that first health back: a device is never again as one
that was not yet polled. So, as long as nothing was told of a device, nothing happened to it, and
otherwise the last that was told still holds.

* `ofResult_ne_initial`: no poll leaves a device as it was before the first.
* `Reachable.announced`: what is tracked is what was told last, and nothing is told twice in a row.
* `announcements_tracked`: that, for all runs.
-/
namespace DeviceHub

/-- What an event tells of connectivity. -/
def Event.connectivity? : Event → Option (ConnectivityStatus × Option String)
  | .connectivity _ status detail => some (status, detail)
  | _ => none

/-- What is told of a health. -/
def DeviceHealth.shown (health : DeviceHealth) : ConnectivityStatus × Option String :=
  (health.status, health.detail)

/-! ## No poll brings the first health back -/

theorem TransportFault.kind_ne_offline (f : TransportFault) : f.kind ≠ .offline := by
  cases f <;> simp [kind]

theorem FailureClass.ofStatus_ne_offline (status : Nat) : ofStatus status ≠ .offline := by
  unfold ofStatus
  split
  · simp
  · split <;> simp

/-- Only a vendor can say that a device is offline, and then the message names the device. -/
theorem HubError.kind_eq_offline {e : HubError} (h : e.kind = .offline) :
    ∃ device code, e = .request (.deviceOffline device code) := by
  cases e with
  | request cause =>
    cases cause with
    | deviceOffline device code => exact ⟨device, code, rfl⟩
    | transport f => exact absurd h f.kind_ne_offline
    | http status body => exact absurd h (FailureClass.ofStatus_ne_offline status)
    | _ => cases h
  | _ => cases h

theorem RequestError.deviceOffline_message_ne (device code : String) :
    (RequestError.deviceOffline device code).message ≠ "not yet polled" := by
  intro h
  have hmessage : (RequestError.deviceOffline device code).message =
      "Device '" ++ device ++ "' is not responding (result code " ++ code ++ ")" := rfl
  have hfirst : "Device '".toList = 'D' :: "evice '".toList := by decide
  have hhead : "not yet polled".toList.head? = some 'D' := by
    rw [← h, hmessage]
    simp only [String.toList_append, List.append_assoc, hfirst, List.cons_append, List.head?_cons]
  exact absurd hhead (by decide)

theorem HealthOutcome.ofResult_ne_initial (now : Instant) (r : Except HubError Snapshot)
    (before : DeviceHealth) : ((ofResult now r).health before).shown ≠ DeviceHealth.initial.shown := by
  cases r with
  | ok s =>
    cases hs : s.online <;>
      simp [ofResult, health, status, detail, DeviceHealth.shown, DeviceHealth.initial, hs]
  | error e =>
    intro h
    have hstatus : (failure e.kind e.message).status = .offline := congrArg Prod.fst h
    have hdetail : (failure e.kind e.message).detail = some "not yet polled" := congrArg Prod.snd h
    have hoffline : e.kind = .offline := by
      cases hk : e.kind <;> simp [status, hk] at hstatus
      rfl
    obtain ⟨device, code, rfl⟩ := HubError.kind_eq_offline hoffline
    have hmessage : (HubError.request (.deviceOffline device code)).message = "not yet polled" := by
      simpa [detail, hoffline] using hdetail
    exact RequestError.deviceOffline_message_ne device code hmessage

namespace Hub

variable {κ : Type}

/-! ## What is told and what is tracked -/

/-- The connectivity told of a device since it began, the earliest first. -/
def announcements (h : Hub κ) (device : String) : List (ConnectivityStatus × Option String) :=
  (h.history device).filterMap Event.connectivity?

/-- A device is tracked, what is tracked is what was told last, and nothing is told twice in a row.
A device of which nothing was told is as it began. -/
structure Announced (h : Hub κ) (device : String) : Prop where
  tracked : ∃ health, Dict.get? h.health device = some health ∧
    (h.announcements device = [] → health = .initial) ∧
    ∀ last, (h.announcements device).getLast? = some last → last = health.shown
  news : (h.announcements device).IsChain (· ≠ ·)

theorem SameFor.announced {device : String} {h h' : Hub κ} (hs : SameFor device h h')
    (ha : Announced h device) : Announced h' device := by
  have hann : h'.announcements device = h.announcements device :=
    congrArg (List.filterMap Event.connectivity?) hs.history
  refine ⟨?_, hann ▸ ha.news⟩
  rw [hs.health, hann]
  exact ha.tracked

theorem filterMap_connectivity?_news (h : Hub κ) (r : Except HubError Snapshot) :
    (h.news r).filterMap Event.connectivity? = [] := by
  refine List.filterMap_eq_nil_iff.2 fun e he => ?_
  cases r with
  | error => cases he
  | ok s =>
    obtain ⟨x, -, rfl⟩ := List.mem_map.1 he
    rfl

theorem announcements_absorb (h : Hub κ) {device : String} {r : Except HubError Snapshot}
    (now : Instant) (hr : ∀ s, r = .ok s → s.device = device) :
    (h.absorb device r now).announcements device =
      h.announcements device ++
        if (h.health.transition device (.ofResult now r)).isChange = true then
          [(h.health.transition device (.ofResult now r)).health.shown]
        else [] := by
  rw [announcements, history_absorb h now hr, List.filterMap_append, List.filterMap_append,
    filterMap_connectivity?_news, List.nil_append, connectivityNews]
  split <;> rfl

/-- A transition is news when what is shown of the device changes. -/
theorem transition_isChange {t : HealthTracker} {device : String} {health : DeviceHealth}
    (hh : Dict.get? t device = some health) (o : HealthOutcome) :
    (t.transition device o).isChange = true ↔ health.shown ≠ (o.health health).shown := by
  simp only [HealthTracker.transition, hh, Option.getD_some, decide_eq_true_eq,
    DeviceHealth.shown, ne_eq, Prod.mk.injEq]
  exact Decidable.not_and_iff_not_or_not.symm

theorem Announced.absorb {h : Hub κ} {device : String} (ha : Announced h device)
    {r : Except HubError Snapshot} (now : Instant) (hr : ∀ s, r = .ok s → s.device = device) :
    Announced (h.absorb device r now) device := by
  obtain ⟨health, hh, hinitial, hlast⟩ := ha.tracked
  have hann := announcements_absorb h now hr
  have htracked : Dict.get? (h.absorb device r now).health device =
      some ((HealthOutcome.ofResult now r).health health) := by
    rw [absorb_health, HealthTracker.get?_apply, HealthTracker.transition_health hh]
  rw [HealthTracker.transition_health hh] at hann
  by_cases hchange : (h.health.transition device (.ofResult now r)).isChange = true
  · rw [if_pos hchange] at hann
    rw [transition_isChange hh] at hchange
    refine ⟨⟨_, htracked, fun hempty => ?_, fun last hl => ?_⟩, ?_⟩
    · rw [hann] at hempty
      simp at hempty
    · rw [hann, List.getLast?_concat] at hl
      exact (Option.some.inj hl).symm
    · rw [hann]
      refine ha.news.append (List.isChain_singleton _) fun x hx y hy => ?_
      rw [hlast x hx]
      cases hy
      exact hchange
  · rw [if_neg hchange, List.append_nil] at hann
    rw [transition_isChange hh, ne_eq, not_not] at hchange
    refine ⟨⟨_, htracked, fun hempty => ?_, fun last hl => ?_⟩, hann ▸ ha.news⟩
    · -- then the health was still the first, and no poll leaves that
      rw [hann] at hempty
      rw [hinitial hempty] at hchange
      exact absurd hchange.symm (HealthOutcome.ofResult_ne_initial now r _)
    · rw [hann] at hl
      rw [← hchange]
      exact hlast last hl

theorem announced_accept (h : Hub κ) (d : DeviceConfig) (t : PollTask κ) :
    Announced (h.accept d t) d.identity.device := by
  have hann : (h.accept d t).announcements d.identity.device = [] := by
    rw [announcements, history_accept]
    rfl
  have hhealth : Dict.get? (h.accept d t).health d.identity.device = some .initial :=
    (h.health.get?_reset _ _).trans (if_pos rfl)
  refine ⟨⟨_, hhealth, fun _ => rfl, fun last hl => ?_⟩, ?_⟩
  · rw [hann] at hl
    cases hl
  · rw [hann]
    exact .nil

/-- A device that was refused is told of at once. -/
theorem announced_refuse (h : Hub κ) (d : DeviceConfig) (e : HubError) :
    Announced (h.refuse d e) d.identity.device := by
  have hann : (h.refuse d e).announcements d.identity.device =
      [(.configError, some e.message)] := by
    rw [announcements, history_refuse]
    rfl
  have hhealth : Dict.get? (h.refuse d e).health d.identity.device =
      some ((HealthOutcome.configError e.message).health .initial) := by
    rw [get?_health_refuse, if_pos rfl]
  refine ⟨⟨_, hhealth, fun hempty => ?_, fun last hl => ?_⟩, ?_⟩
  · rw [hann] at hempty
    cases hempty
  · rw [hann] at hl
    exact (Option.some.inj hl).symm
  · rw [hann]
    exact List.isChain_singleton _

theorem Reachable.announced {h : Hub κ} (hr : Reachable h) {device : String}
    (hd : (h.devices.get? device).isSome = true) : Announced h device := by
  refine hr.lifetime (P := (Announced · device)) (fun hs ha => hs.announced ha)
    (fun _ _ _ _ hdev => ?_) (fun _ _ _ _ hdev => ?_) (fun _ _ _ hdev _ ha => ?_) hd
  · exact hdev ▸ announced_accept _ _ _
  · exact hdev ▸ announced_refuse _ _ _
  · exact ha.absorb _ fun s hs => (readAnswer_device hs).trans hdev

/-- Whatever happens, a registered device is tracked; as long as nothing was told of its connectivity
since it began, its health is the one it began with, and otherwise status and detail of its health are
those told last. No two that are told one after the other are the same. -/
theorem announcements_tracked (schemas : SchemaRegistry) (acts : List (Act κ)) {device : String}
    (hd : ((run (.new schemas) acts).devices.get? device).isSome = true) :
    let h := run (.new schemas) acts
    ∃ health, Dict.get? h.health device = some health ∧
      (h.announcements device = [] → health = ⟨.offline, some "not yet polled", 0, none, none⟩) ∧
      (∀ last, (h.announcements device).getLast? = some last →
        last = (health.status, health.detail)) ∧
      (h.announcements device).IsChain (· ≠ ·) := by
  obtain ⟨⟨health, hh, hinitial, hlast⟩, hnews⟩ := (reachable_run schemas acts).announced hd
  exact ⟨health, hh, hinitial, hlast, hnews⟩

/-- A plug is asked twice, in vain, and that is told once. Another one, of a type that nobody knows,
is refused, and that is told too. -/
theorem announcements_tracked_plugs :
    let unknown : DeviceConfig := { plug with identity := ⟨"hub", "p2", "lamp"⟩ }
    let silent : Except RequestError Payload := .error (.deviceOffline "p1" "5")
    let h := run (.new [("plug", plugSchema)]) (plugIsAsked ++ [.enroll unknown,
      .finish 0 0 .epoch silent, .wake 0 60000, .finish 0 60000 .epoch silent])
    h.announcements "p1" =
        [(.offline, some "Device 'p1' is not responding (result code 5)")] ∧
      h.announcements "p2" =
        [(.configError, some "No schema registered for device type 'lamp'")] ∧
      ∀ device ∈ ["p1", "p2"], ∃ health, Dict.get? h.health device = some health ∧
        ∀ last, (h.announcements device).getLast? = some last →
          last = (health.status, health.detail) := by
  intro unknown silent h
  refine ⟨by decide +kernel, by decide +kernel, fun device hmem => ?_⟩
  have hd : ∀ device ∈ ["p1", "p2"], (h.devices.get? device).isSome = true := by decide +kernel
  obtain ⟨health, hh, -, hlast, -⟩ := announcements_tracked _ _ (hd device hmem)
  exact ⟨health, hh, hlast⟩

end Hub

end DeviceHub
