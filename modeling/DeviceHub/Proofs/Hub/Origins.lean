import DeviceHub.Proofs.Credential.Sources
import DeviceHub.Proofs.Hub.Dispatch

/-!
# Whose credentials go where

A client is bound to a device when the device is taken in, and it goes on asking the host that it was
made for. Its credential is another matter: that is looked up under the name of the bridge whenever a
request is sent. So after a bridge has been registered again with another host and other credentials, a
device that was there before sends the new credential to the old host (`sent_after_intake`).

What holds of every request is that its client was made from a configuration of its bridge, and that its
credential comes from a source that its bridge had, the one it had at last if the latest registration
went well. When the bridge was not registered again in between, the two are from one configuration.

* `Sound`: what is known about clients and credentials goes back to intakes.
* `Sound.step`, `Sound.run`: that stays so.
* `sent_authorized`: whose credential a request carries.
-/
namespace DeviceHub

variable {κ : Type}

/-! ## Intakes -/

namespace Intake

variable {log log' : List Intake} {bridge : String} {i : Intake} {client : HttpClient}

/-- The client was made by the latest intake that gave its bridge one. -/
def Chosen (log : List Intake) (client : HttpClient) : Prop :=
  ∃ i, complete? log client.bridge = some i ∧ client = i.config.client

/-- A source that a bridge had. -/
def Had (log : List Intake) (bridge : String) (source : TokenSource) : Prop :=
  ∃ i ∈ log, i.config.id = bridge ∧ source = i.config.source

/-- A source that a bridge had, the latest if that began cleanly. -/
def Gave (log : List Intake) (bridge : String) (source : TokenSource) : Prop :=
  Had log bridge source ∧
    ∀ i, latest? log bridge = some i → i.isClean = true → source = i.config.source

theorem Had.mono {source : TokenSource} (h : Had log bridge source) (hl : log ⊆ log') :
    Had log' bridge source := by
  obtain ⟨i, hi, hid, hsource⟩ := h
  exact ⟨i, hl hi, hid, hsource⟩

theorem complete?_cons_of_ne (h : i.config.id ≠ bridge) :
    complete? (i :: log) bridge = complete? log bridge := by
  simp [complete?, h]

theorem complete?_cons_of_incomplete (h : i.isComplete = false) :
    complete? (i :: log) bridge = complete? log bridge := by
  simp [complete?, h]

theorem latest?_cons_of_ne (h : i.config.id ≠ bridge) :
    latest? (i :: log) bridge = latest? log bridge := by
  simp [latest?, h]

theorem latest?_cons_self : latest? (i :: log) i.config.id = some i := by
  simp [latest?]

theorem latest?_append (h : ∀ i ∈ log, i.config.id ≠ bridge) :
    latest? (log ++ log') bridge = latest? log' bridge := by
  unfold latest?
  rw [List.find?_append, List.find?_eq_none.2 (by simpa using h), Option.none_or]

theorem mem_of_latest? (h : latest? log bridge = some i) : i ∈ log ∧ i.config.id = bridge :=
  ⟨List.mem_of_find?_eq_some h, by simpa using List.find?_some h⟩

/-- A complete intake that is the latest is the latest complete one. -/
theorem complete?_of_latest? (h : latest? log bridge = some i) (hi : i.isComplete = true) :
    complete? log bridge = some i := by
  induction log with
  | nil => cases h
  | cons j log ih =>
    by_cases hj : j.config.id = bridge
    · have hji : j = i := by simpa [latest?, List.find?_cons, hj] using h
      subst hji
      simp [complete?, hj, hi]
    · rw [latest?_cons_of_ne hj] at h
      rw [complete?_cons_of_ne hj, ih h]

end Intake

open Intake (Chosen Had Gave)
open Refresher (Lent Owed Lasts Progress Sourced)
open Renewal (Tenure)

/-! ## What is known -/

namespace Dispatch

/-- What a request has goes back to intakes: its client to those until it was chosen, its credential to
those until it asked. -/
structure Honest (log : List Intake) (r : Refresher TokenSource) (e : Errand) : Prop where
  chosen : Chosen e.chosen e.client
  chosen_suffix : e.chosen <:+ e.asked
  asked_suffix : e.asked <:+ log
  awaited : ∀ n, e.awaited = some n →
    Owed e.client.bridge (Gave e.asked e.client.bridge) r n
  holds : ∀ c, e.phase.sent? = some c →
    Lent e.client.bridge (Gave e.asked e.client.bridge) r c

variable {log log' : List Intake} {r r' : Refresher TokenSource} {e : Errand}

theorem Honest.mono (h : Honest log r e) (hlog : log <:+ log') (hl : Lasts r r') :
    Honest log' r' e :=
  ⟨h.chosen, h.chosen_suffix, h.asked_suffix.trans hlog, fun n hn => (h.awaited n hn).lasts hl,
    fun c hc => (h.holds c hc).lasts hl⟩

/-- A request that has just begun. -/
theorem honest_begun {e : Errand} (hchosen : Chosen e.chosen e.client) (hsuffix : e.chosen <:+ e.asked)
    (hasked : e.asked <:+ log) (hphase : e.phase = .acquiring) (hawaited : e.awaited = none) :
    Honest log r e := by
  refine ⟨hchosen, hsuffix, hasked, fun n hn => ?_, fun c hc => ?_⟩
  · rw [hawaited] at hn
    cases hn
  · rw [hphase] at hc
    cases hc

theorem sent?_credited {phase : Fetch.Phase} {result : Except RequestError Credential}
    {c : Credential} (h : (phase.credited result).sent? = some c) :
    result = .ok c ∨ phase.sent? = some c := by
  cases phase with
  | acquiring | reacquiring =>
    cases result with
    | ok d =>
      cases h
      exact .inl rfl
    | error fault => cases h
  | _ => exact .inr h

/-- An answered request is not under way any more. -/
theorem sent?_answered (phase : Fetch.Phase) (result : Except RequestError Payload) :
    (phase.answered result).sent? = none := by
  cases phase with
  | sent c | resent c =>
    cases result with
    | ok payload => rfl
    | error fault =>
      simp only [Fetch.Phase.answered]
      split <;> rfl
  | _ => rfl

theorem Honest.credited (h : Honest log r e) {result : Except RequestError Credential}
    (hresult : ∀ c, result = .ok c → Lent e.client.bridge (Gave e.asked e.client.bridge) r c) :
    Honest log r { e with phase := e.phase.credited result, awaited := none } := by
  refine ⟨h.chosen, h.chosen_suffix, h.asked_suffix, nofun, fun c hc => ?_⟩
  rcases sent?_credited hc with hc | hc
  · exact hresult c hc
  · exact h.holds c hc

/-- What is known about clients and credentials goes back to intakes. -/
structure Sound (s : Dispatch κ) : Prop where
  clients : ∀ bridge c, s.hub.clients.get? bridge = some (.http c) →
    c.bridge = bridge ∧ Chosen s.intakes c
  count : s.origins.length = s.hub.tasks.length
  tasks : ∀ n t c, s.hub.task? n = some t → t.client = .http c →
    ∃ log, s.origins[n]? = some log ∧ log <:+ s.intakes ∧ Chosen log c
  sourced : ∀ bridge, Sourced bridge (Had s.intakes bridge) s.hub.refresher
  tenure : ∀ bridge i, Intake.latest? s.intakes bridge = some i → i.isClean = true →
    ∃ first, Tenure bridge i.config.source first s.hub.refresher
  errands : ∀ e ∈ s.errands, Honest s.intakes s.hub.refresher e
  sent : ∀ e ∈ s.sent, e.message?.isSome = true ∧ Honest s.intakes s.hub.refresher e

variable {s s' : Dispatch κ}

theorem sound_new (schemas : SchemaRegistry) : Sound (.new schemas : Dispatch κ) := by
  refine ⟨fun bridge c hc => ?_, rfl, fun n t c ht => ?_, fun _ => Refresher.sourced_empty,
    fun bridge i hi => ?_, fun e he => ?_, fun e he => ?_⟩
  · cases hc
  · cases ht
  · cases hi
  · cases he
  · cases he

/-! ## Credentials -/

/-- Credentials go on; no bridge is registered. -/
theorem Sound.withRefresher (h : Sound s) (hp : Progress s.hub.refresher r) :
    Sound (s.withRefresher r) := by
  have hl := hp.lasts
  refine ⟨h.clients, h.count, h.tasks, fun bridge => (h.sourced bridge).step hl (hp.effect bridge),
    fun bridge i hi hclean => ?_, fun e he => (h.errands e he).mono List.suffix_rfl hl,
    fun e he => (h.sent e he).imp_right fun hsent => hsent.mono List.suffix_rfl hl⟩
  obtain ⟨first, htenure⟩ := h.tenure bridge i hi hclean
  exact ⟨first, htenure.step hp.move (hp.effect bridge)⟩

/-- The requests may have changed. -/
theorem Sound.withErrands (h : Sound s) {errands sent : List Errand}
    (herrands : ∀ e ∈ errands, Honest s.intakes s.hub.refresher e)
    (hsent : ∀ e ∈ sent, e.message?.isSome = true ∧ Honest s.intakes s.hub.refresher e) :
    Sound { s with errands := errands, sent := sent } :=
  ⟨h.clients, h.count, h.tasks, h.sourced, h.tenure, herrands, hsent⟩

theorem honest_set (h : Sound s) {i : Nat} (he : Honest s.intakes s.hub.refresher e) :
    ∀ x ∈ s.errands.set i e, Honest s.intakes s.hub.refresher x := by
  intro x hx
  rcases List.mem_or_eq_of_mem_set hx with hx | rfl
  · exact h.errands x hx
  · exact he

theorem Sound.credit (h : Sound s) {i : Nat} {result : Except RequestError Credential}
    (he : Honest s.intakes s.hub.refresher e)
    (hresult : ∀ c, result = .ok c →
      Lent e.client.bridge (Gave e.asked e.client.bridge) s.hub.refresher c) :
    Sound (s.credit i e result) := by
  have hcredited := he.credited hresult
  refine h.withErrands (honest_set h hcredited) fun x hx => ?_
  rcases List.mem_append.1 hx with hx | hx
  · split at hx
    · next hmessage =>
      rw [List.mem_singleton.1 hx]
      exact ⟨hmessage, hcredited⟩
    · cases hx
  · exact h.sent x hx

/-- A bridge either is in the time of its latest source, or its latest intake was not clean. -/
theorem Sound.gave_cases (h : Sound s) (bridge : String) :
    (∃ source first, Tenure bridge source first s.hub.refresher ∧
        ∀ other, other = source → Gave s.intakes bridge other) ∨
      ∀ other, Had s.intakes bridge other → Gave s.intakes bridge other := by
  by_cases hclean : ∃ i, Intake.latest? s.intakes bridge = some i ∧ i.isClean = true
  · obtain ⟨i, hi, hclean⟩ := hclean
    obtain ⟨first, htenure⟩ := h.tenure bridge i hi hclean
    obtain ⟨hmem, hid⟩ := Intake.mem_of_latest? hi
    refine .inl ⟨i.config.source, first, htenure, fun other hother => ?_⟩
    refine ⟨⟨i, hmem, hid, hother⟩, fun j hj _ => ?_⟩
    rw [hi] at hj
    cases hj
    exact hother
  · exact .inr fun other hhad => ⟨hhad, fun i hi hi' => absurd ⟨i, hi, hi'⟩ hclean⟩

theorem Sound.lent_of_call (h : Sound s) {bridge : String} {c : Credential}
    (hc : (s.hub.refresher.call bridge s.now).1 = .granted c) :
    Lent bridge (Gave s.intakes bridge) s.hub.refresher c := by
  rcases h.gave_cases bridge with ⟨source, first, htenure, hgave⟩ | hgave
  · exact (htenure.lent_of_call hc).mono hgave
  · exact ((h.sourced bridge).lent_of_call hc).mono hgave

theorem Sound.owed_of_call (h : Sound s) {bridge : String} {n : Nat}
    (hn : (s.hub.refresher.call bridge s.now).1 = .awaits n) :
    Owed bridge (Gave s.intakes bridge) (s.hub.refresher.call bridge s.now).2 n := by
  rcases h.gave_cases bridge with ⟨source, first, htenure, hgave⟩ | hgave
  · exact (htenure.owed_of_call hn).mono hgave
  · exact ((h.sourced bridge).owed_of_call hn).mono hgave

/-- A request asks: what it asked for until now counts no more. -/
theorem Sound.ask (h : Sound s) {i : Nat} (he : e ∈ s.errands) (hasking : e.isAsking = true) :
    Sound ((s.withRefresher (s.hub.refresher.call e.client.bridge s.now).2).called i
      { e with asked := s.intakes } (s.hub.refresher.call e.client.bridge s.now).1) := by
  have hprogress := s.hub.refresher.progress_call e.client.bridge s.now
  have hafter := h.withRefresher hprogress
  have hhonest := h.errands e he
  have hasked : Honest s.intakes (s.hub.refresher.call e.client.bridge s.now).2
      { e with asked := s.intakes } := by
    refine ⟨hhonest.chosen, hhonest.chosen_suffix.trans hhonest.asked_suffix, List.suffix_rfl,
      fun n hn => ?_, fun c hc => ?_⟩
    · simp [Errand.isAsking, show e.awaited = some n from hn] at hasking
    · have hphase : e.phase.sent? = some c := hc
      cases hp : e.phase <;> simp_all [Errand.isAsking, Fetch.Phase.isAcquiring, Fetch.Phase.sent?]
  cases hcall : (s.hub.refresher.call e.client.bridge s.now).1 with
  | refused fault => exact hafter.credit hasked fun c hc => by cases hc
  | granted c =>
    refine hafter.credit hasked fun d hd => ?_
    cases hd
    exact (h.lent_of_call hcall).lasts hprogress.lasts
  | awaits n =>
    refine hafter.withErrands (honest_set hafter ?_) hafter.sent
    refine ⟨hasked.chosen, hasked.chosen_suffix, hasked.asked_suffix, fun m hm => ?_, hasked.holds⟩
    cases hm
    exact h.owed_of_call hcall

/-! ## Clients -/

/-- A client was made by an intake, whatever bridge is taken in next to its own. -/
theorem chosen_cons {client : HttpClient} {i : Intake} (h : Chosen log client)
    (hi : i.config.id ≠ client.bridge ∨ i.isComplete = false) : Chosen (i :: log) client := by
  obtain ⟨j, hj, hclient⟩ := h
  refine ⟨j, ?_, hclient⟩
  rcases hi with hid | hincomplete
  · rw [Intake.complete?_cons_of_ne hid, hj]
  · rw [Intake.complete?_cons_of_incomplete hincomplete, hj]

/-- The source of a bridge is replaced. -/
theorem Sound.replaced (h : Sound s) {i : Intake}
    (hquiet : i.isQuiet = true → ¬s.hub.refresher.Undecided i.config.id) :
    (∀ bridge, Sourced bridge (Had (i :: s.intakes) bridge) (s.hub.withSource i.config).refresher) ∧
      ∀ bridge j, Intake.latest? (i :: s.intakes) bridge = some j → j.isClean = true →
        ∃ first, Tenure bridge j.config.source first (s.hub.withSource i.config).refresher := by
  have hmono : ∀ bridge source, Had s.intakes bridge source → Had (i :: s.intakes) bridge source :=
    fun _ _ hhad => hhad.mono (List.subset_cons_self _ _)
  refine ⟨fun bridge => ?_, fun bridge j hj hclean => ?_⟩
  · have hold := (h.sourced bridge).mono (hmono bridge)
    by_cases hid : i.config.id = bridge
    · subst hid
      exact hold.register ⟨i, List.mem_cons_self, rfl, rfl⟩ i.config.refresh
    · exact hold.step (Refresher.lasts_of_eq rfl) (Refresher.effect_register hid _ _)
  · by_cases hid : i.config.id = bridge
    · subst hid
      rw [Intake.latest?_cons_self] at hj
      cases hj
      have hdecided := hquiet (Bool.and_eq_true_iff.1 hclean).2
      exact ⟨_, Renewal.tenure_register hdecided i.config.source i.config.refresh⟩
    · rw [Intake.latest?_cons_of_ne hid] at hj
      obtain ⟨first, htenure⟩ := h.tenure bridge j hj hclean
      exact ⟨first, htenure.aside hid _ _⟩

theorem not_undecided_of_isQuiet {bridge : String} (h : r.isQuiet bridge = true) :
    ¬r.Undecided bridge := by
  rintro ⟨n, f, hf, hb, hopen⟩
  have hall := List.all_eq_true.1 h f (List.mem_of_getElem? hf)
  simp [hb, hopen] at hall

/-- A bridge has got another source, and perhaps another client. -/
theorem Sound.intaken (h : Sound s) {hub : Hub κ} {i : Intake}
    (hquiet : i.isQuiet = s.hub.refresher.isQuiet i.config.id)
    (hr : hub.refresher = (s.hub.withSource i.config).refresher) (ht : hub.tasks = s.hub.tasks)
    (hclients : ∀ bridge c, hub.clients.get? bridge = some (.http c) →
      c.bridge = bridge ∧ Chosen (i :: s.intakes) c) : Sound (s.noted hub (some i)) := by
  obtain ⟨hsourced, htenure⟩ := h.replaced fun hi => not_undecided_of_isQuiet (hquiet ▸ hi)
  have horigins : (s.noted hub (some i)).origins = s.origins := by simp [Dispatch.noted, ht]
  have hsuffix : s.intakes <:+ i :: s.intakes := List.suffix_cons _ _
  have hl : Lasts s.hub.refresher hub.refresher := Refresher.lasts_of_eq (by rw [hr]; rfl)
  refine ⟨hclients, ?_, fun n t c htask hc => ?_, fun bridge => hr ▸ hsourced bridge,
    fun bridge j hj hclean => ?_, fun e he => (h.errands e he).mono hsuffix hl,
    fun e he => (h.sent e he).imp_right fun hsent => hsent.mono hsuffix hl⟩
  · rw [horigins, h.count]
    exact congrArg List.length ht.symm
  · have hold : s.hub.task? n = some t := by
      rw [Hub.task?, ← ht]
      exact htask
    obtain ⟨log, hlog, hlogs, hchosen⟩ := h.tasks n t c hold hc
    exact ⟨log, by rw [horigins, hlog], hlogs.trans hsuffix, hchosen⟩
  · obtain ⟨first, hfirst⟩ := htenure bridge j hj hclean
    exact ⟨first, hr ▸ hfirst⟩

/-- Something that is not about bridges has happened. -/
theorem Sound.kept (h : Sound s) {hub : Hub κ} (keeps : Hub.KeepsClients s.hub hub) :
    Sound (s.noted hub none) := by
  have hlength := keeps.length_le
  have hl : Lasts s.hub.refresher hub.refresher := Refresher.lasts_of_eq (by rw [keeps.refresher])
  refine ⟨fun bridge c hc => h.clients bridge c (keeps.clients ▸ hc), ?_, fun n t c ht hc => ?_,
    fun bridge => ?_, fun bridge i hi hclean => ?_,
    fun e he => (h.errands e he).mono List.suffix_rfl hl,
    fun e he => (h.sent e he).imp_right fun hsent => hsent.mono List.suffix_rfl hl⟩
  · simp only [Dispatch.noted, List.length_append, List.length_replicate, h.count]
    omega
  · rcases keeps.tasks n t ht with ⟨u, hu, hsame⟩ | ⟨hle, bridge, hclient⟩
    · obtain ⟨log, hlog, hold, hchosen⟩ := h.tasks n u c hu (hsame ▸ hc)
      refine ⟨log, ?_, hold, hchosen⟩
      rw [Dispatch.noted, List.getElem?_append_left (List.getElem?_eq_some_iff.1 hlog).1, hlog]
    · refine ⟨s.intakes, ?_, List.suffix_rfl, (h.clients bridge c (hc ▸ hclient)).2⟩
      have hn : n < hub.tasks.length := Hub.task?_lt ht
      rw [Dispatch.noted, List.getElem?_append_right (h.count ▸ hle), h.count,
        List.getElem?_replicate, if_pos (by omega)]
      rfl
  · show Sourced bridge (Had s.intakes bridge) hub.refresher
    rw [keeps.refresher]
    exact h.sourced bridge
  · obtain ⟨first, htenure⟩ := h.tenure bridge i hi hclean
    refine ⟨first, ?_⟩
    show Tenure bridge i.config.source first hub.refresher
    rw [keeps.refresher]
    exact htenure

/-- A bridge has a client of another kind. -/
theorem Sound.attached (h : Sound s) (bridge : String) (client : κ) :
    Sound (s.noted (s.hub.attach bridge (.attached client)) none) := by
  have horigins :
      (s.noted (s.hub.attach bridge (.attached client)) none).origins = s.origins := by
    simp [Dispatch.noted, Hub.attach]
  refine ⟨fun other c hc => ?_, horigins ▸ h.count, horigins ▸ h.tasks, h.sourced, h.tenure,
    h.errands, h.sent⟩
  have hget : (s.hub.clients.insert bridge (.attached client)).get? other = some (.http c) := hc
  rw [Dict.get?_insert] at hget
  split at hget
  · cases hget
  · exact h.clients other c hget

theorem Sound.noted (h : Sound s) {hub : Hub κ} {o : Option Intake}
    (ht : s.hub.Turnover hub o) : Sound (s.noted hub o) := by
  cases ht with
  | kept keeps => exact h.kept keeps
  | attached bridge client => exact h.attached bridge client
  | replaced b =>
    refine h.intaken rfl rfl rfl fun bridge c hc => ?_
    obtain ⟨hbridge, hchosen⟩ := h.clients bridge c hc
    exact ⟨hbridge, chosen_cons hchosen (.inr rfl)⟩
  | taken b =>
    refine h.intaken rfl rfl rfl fun bridge c hc => ?_
    have hget : (s.hub.clients.insert b.id (.http b.client)).get? bridge = some (.http c) := hc
    rw [Dict.get?_insert] at hget
    split at hget
    · next hbridge =>
      cases hget
      refine ⟨hbridge, ⟨b, true, s.hub.refresher.isQuiet b.id⟩, ?_, rfl⟩
      simp [Intake.complete?, BridgeConfig.client]
    · next hbridge =>
      obtain ⟨hclient, hchosen⟩ := h.clients bridge c hget
      exact ⟨hclient, chosen_cons hchosen (.inl (by rwa [hclient]))⟩

/-! ## Steps -/

theorem Sound.departing (h : Sound s) {a : Hub.Act κ} (he : s.departing? a = some e)
    (hsuffix : s.intakes <:+ log) : Honest log r e := by
  simp only [departing?, Option.bind_eq_bind, Option.bind_eq_some_iff] at he
  obtain ⟨⟨n, t⟩, hstarts, client, hclient, chosen, horigin, he⟩ := he
  cases he
  have ht : s.hub.task? n = some t := by
    cases a with
    | wake m time =>
      simp only [Hub.starts?] at hstarts
      split at hstarts
      · obtain ⟨u, hu, heq⟩ := Option.map_eq_some_iff.1 hstarts
        cases heq
        exact hu
      · cases hstarts
    | _ => cases hstarts
  have hhttp : t.client = .http client := by
    cases hc : t.client with
    | http c =>
      rw [hc] at hclient
      cases hclient
      rfl
    | attached c =>
      rw [hc] at hclient
      cases hclient
  obtain ⟨past, hpast, hold, hchosen⟩ := h.tasks n t client ht hhttp
  rw [horigin] at hpast
  cases hpast
  exact honest_begun hchosen hold hsuffix rfl rfl

/-- Requests begin. -/
theorem Sound.withDeparting (h : Sound s) {departing : List Errand}
    (hdeparting : ∀ e ∈ departing, Honest s.intakes s.hub.refresher e) :
    Sound { s with errands := s.errands ++ departing } := by
  refine h.withErrands (fun e he => ?_) h.sent
  rcases List.mem_append.1 he with he | he
  · exact h.errands e he
  · exact hdeparting e he

theorem Sound.depart (h : Sound s) {device : String} {request : DeviceRequest}
    {client : Except HubError (Client κ)}
    (hclient : ∀ c, client = .ok c → ∃ bridge, s.hub.clients.get? bridge = some c) :
    Sound (s.depart device request client) := by
  unfold Dispatch.depart
  split
  · next c =>
    obtain ⟨bridge, hbridge⟩ := hclient _ rfl
    refine h.withDeparting fun e he => ?_
    rw [List.mem_singleton.1 he]
    exact honest_begun (h.clients bridge c hbridge).2 List.suffix_rfl List.suffix_rfl rfl rfl
  · exact h

theorem Sound.follow (h : Sound s) {a : Hub.Act κ} (ha : a.isReserved = false) :
    Sound (s.follow a) := by
  refine (h.noted (s.hub.turnover_step ha)).withDeparting fun e he => ?_
  exact h.departing (Option.mem_toList.1 he) (List.suffix_append _ _)

theorem Honest.answered (h : Honest log r e) (result : Except RequestError Payload) :
    Honest log r { e with phase := e.phase.answered result } := by
  refine ⟨h.chosen, h.chosen_suffix, h.asked_suffix, h.awaited, fun c hc => ?_⟩
  rw [sent?_answered] at hc
  cases hc

theorem Sound.step (h : Sound s) (a : Act κ) : Sound (s.step a) := by
  cases a with
  | hub a =>
    simp only [Dispatch.step]
    split
    · exact h
    · next ha => exact h.follow (by simpa using ha)
  | tick now => exact ⟨h.clients, h.count, h.tasks, h.sourced, h.tenure, h.errands, h.sent⟩
  | command device request =>
    refine h.depart fun c hc => ?_
    unfold Hub.commandClient at hc
    split at hc
    · cases hc
    · simp only at hc
      split at hc
      · cases hc
      · next client hclient =>
        cases hc
        exact ⟨_, hclient⟩
  | pollOnce d =>
    refine h.depart fun c hc => ?_
    unfold Hub.resolve at hc
    split at hc
    · cases hc
    · next client hclient =>
      split at hc
      · cases hc
      · cases hc
        exact ⟨_, hclient⟩
  | ask i =>
    simp only [Dispatch.step]
    split
    · next e he =>
      split
      · next hasking => exact h.ask (List.mem_of_getElem? he) hasking
      · exact h
    · exact h
  | hear i =>
    simp only [Dispatch.step]
    split
    · next e he =>
      split
      · next result hresult =>
        have hmem := List.mem_of_getElem? he
        refine h.credit (h.errands e hmem) fun c hc => ?_
        subst hc
        obtain ⟨n, hn, houtcome⟩ := Option.bind_eq_some_iff.1 hresult
        exact ((h.errands e hmem).awaited n hn).lent houtcome
      · exact h
    · exact h
  | answer i result =>
    simp only [Dispatch.step]
    split
    · next e he =>
      have hanswered := (h.errands e (List.mem_of_getElem? he)).answered result
      have hset := h.withErrands (honest_set h (i := i) hanswered) h.sent
      split
      · exact hset.withRefresher (Refresher.progress_invalidateIf ..)
      · exact hset
    · exact h
  | begin n => exact h.withRefresher (s.hub.refresher.progress_begin n)
  | receive n result => exact h.withRefresher (s.hub.refresher.progress_receive n result)
  | resume n => exact h.withRefresher (s.hub.refresher.progress_resume n)
  | close n => exact h.withRefresher (s.hub.refresher.progress_close n)

theorem Sound.run (h : Sound s) (acts : List (Act κ)) : Sound (s.run acts) := by
  induction acts generalizing s with
  | nil => exact h
  | cons a acts ih => exact ih (h.step a)

/-! ## Requests that went out -/

/-- Where a request went, and whose credential it carried. -/
structure Authorized (s : Dispatch κ) (e : Errand) (c : Credential) : Prop where
  message : ∃ m, e.message? = some m ∧ m.authorization = some c.authorization
  chosen_suffix : e.chosen <:+ e.asked
  asked_suffix : e.asked <:+ s.intakes
  /-- It went through the client of a bridge that was taken in. -/
  client : Chosen e.chosen e.client
  /-- The credential is one of that bridge, be it of an earlier source. -/
  bridge : Lent e.client.bridge (Had e.asked e.client.bridge) s.hub.refresher c
  /-- It is one of the latest source, if that began cleanly. -/
  latest : ∀ i, Intake.latest? e.asked e.client.bridge = some i → i.isClean = true →
    Lent e.client.bridge (· = i.config.source) s.hub.refresher c
  /-- Client and credential are of one configuration, if the bridge was not taken in again between the
  choice of the client and the question for the credential. -/
  own : ∀ between, e.asked = between ++ e.chosen → (∀ i ∈ between, i.config.id ≠ e.client.bridge) →
    (∀ i, Intake.latest? e.chosen e.client.bridge = some i → i.isClean = true) →
    ∃ i ∈ e.chosen, e.client = i.config.client ∧
      Lent e.client.bridge (· = i.config.source) s.hub.refresher c

theorem message?_eq_some {e : Errand} (h : e.message?.isSome = true) :
    ∃ c m, e.phase.sent? = some c ∧ e.message? = some m ∧
      m.authorization = some c.authorization := by
  unfold Errand.message? at h ⊢
  cases hc : e.phase.sent? with
  | none => simp [hc] at h
  | some c =>
    rw [hc] at h
    simp only [Option.bind_some, HttpClient.message] at h ⊢
    split at h
    · cases h
    · exact ⟨c, _, rfl, rfl, rfl⟩

theorem Honest.authorized (h : Honest s.intakes s.hub.refresher e) {c : Credential}
    (hc : e.phase.sent? = some c)
    (hmessage : ∃ m, e.message? = some m ∧ m.authorization = some c.authorization) :
    Authorized s e c := by
  have hlent := h.holds c hc
  have hlatest : ∀ i, Intake.latest? e.asked e.client.bridge = some i → i.isClean = true →
      Lent e.client.bridge (· = i.config.source) s.hub.refresher c :=
    fun i hi hclean => hlent.mono fun source hgave => hgave.2 i hi hclean
  refine ⟨hmessage, h.chosen_suffix, h.asked_suffix, h.chosen, hlent.mono fun _ hgave => hgave.1,
    hlatest, fun between hasked hothers hclean => ?_⟩
  have hsame : Intake.latest? e.asked e.client.bridge =
      Intake.latest? e.chosen e.client.bridge := by
    rw [hasked, Intake.latest?_append hothers]
  obtain ⟨j, hj, hclient⟩ := h.chosen
  cases hi : Intake.latest? e.chosen e.client.bridge with
  | none =>
    -- the client was made by some intake of its bridge
    have hmem := List.mem_of_find?_eq_some hj
    have hid := List.find?_some hj
    have hnone := List.find?_eq_none.1 hi j hmem
    simp_all
  | some i =>
    have hcomplete := Intake.complete?_of_latest? hi (Bool.and_eq_true_iff.1 (hclean i hi)).1
    rw [hj] at hcomplete
    cases hcomplete
    exact ⟨j, (Intake.mem_of_latest? hi).1, hclient, hlatest j (hsame.trans hi) (hclean j hi)⟩

/-- Whatever happens, a request that goes out carries a credential that a refresh of its client's bridge
got from a source of that bridge: from the one that the bridge had got last when the request asked, if
that intake was clean. Its client was made by the intake of that bridge that was the latest when the
client was chosen. So without another intake in between, both are of one configuration. -/
theorem sent_authorized (schemas : SchemaRegistry) (acts : List (Act κ)) :
    let s := run (.new schemas) acts
    ∀ e ∈ s.sent, ∃ c, Authorized s e c := by
  intro s e he
  have hsound : Sound s := (sound_new schemas).run acts
  obtain ⟨hsome, hhonest⟩ := hsound.sent e he
  obtain ⟨c, m, hc, hm, hauthorization⟩ := message?_eq_some hsome
  exact ⟨c, hhonest.authorized hc ⟨m, hm, hauthorization⟩⟩

/-! ## A bridge that moves -/

/-- A bridge at a host. -/
def bridgeAt (host token : String) : BridgeConfig :=
  ⟨"hub", ⟨"http", some ⟨"", none, .domain host, none⟩, .segments [""], none, none⟩, .bearer token,
    .usual, .usual⟩

/-- The plug is asked, which takes the first of all refreshes. -/
def firstCycle : List (Act Unit) := [
  .hub (.register Hub.noCertificate (bridgeAt "old" "t")), .hub (.enroll Hub.plug),
  .hub (.wake 0 0), .ask 0, .begin 0, .receive 0 (.ok (.bearer "t")), .close 0, .hear 0,
  .answer 0 (Hub.plugSays true), .hub (.finish 0 0 .epoch (Hub.plugSays true))]

/-- The bridge moves to another host, with another token, and the plug is asked again. -/
def secondCycle : List (Act Unit) := [
  .hub (.register Hub.noCertificate (bridgeAt "new" "u")), .hub (.refresh "p1"),
  .hub (.wake 0 1), .ask 1, .begin 1, .receive 1 (.ok (.bearer "u")), .close 1, .hear 1]

/-- The first request goes to the host that its token was given for. -/
theorem sent_authorized_first :
    let s := run (.new [("plug", Hub.plugSchema)]) firstCycle
    ∃ e ∈ s.sent, ∃ c, Authorized s e c ∧ e.client = (bridgeAt "old" "t").client ∧
      Lent "hub" (· = (bridgeAt "old" "t").source) s.hub.refresher c := by
  intro s
  let first : Intake := ⟨bridgeAt "old" "t", true, true⟩
  have hsent : s.sent.map (fun e => (e.client, e.chosen, e.asked)) =
      [((bridgeAt "old" "t").client, [first], [first])] := by decide +kernel
  obtain ⟨e, he, heq⟩ := List.map_eq_singleton_iff.1 hsent
  have hmem : e ∈ s.sent := he ▸ List.mem_singleton_self e
  obtain ⟨hclient, hchosen, hasked⟩ : e.client = (bridgeAt "old" "t").client ∧
      e.chosen = [first] ∧ e.asked = [first] := by simpa using heq
  obtain ⟨c, hc⟩ := sent_authorized [("plug", Hub.plugSchema)] firstCycle e hmem
  have hlent := hc.latest first (by rw [hasked, hclient]; decide +kernel) rfl
  rw [hclient] at hlent
  exact ⟨e, hmem, c, hc, hclient, hlent⟩

/-- The second goes there as well, but with the token that was given for the other host. So it is of no
configuration that the bridge was taken in with. -/
theorem sent_after_intake :
    let s := run (.new [("plug", Hub.plugSchema)]) (firstCycle ++ secondCycle)
    ∃ e ∈ s.sent, ∃ c, e.phase.sent? = some c ∧
      (e.message?.map fun m => (m.url.text, m.authorization)) =
        some ("http://old/devices/p1", some "Bearer u") ∧
      ¬∃ i ∈ s.intakes, e.client = i.config.client ∧
        Lent e.client.bridge (· = i.config.source) s.hub.refresher c := by
  intro s
  have hsent : (s.sent.head?.map fun e => (e.client, e.phase.sent?,
      e.message?.map fun m => (m.url.text, m.authorization))) =
      some ((bridgeAt "old" "t").client, some (.bearer "u"),
        some ("http://old/devices/p1", some "Bearer u")) := by decide +kernel
  have hintakes : ∀ i ∈ s.intakes, (bridgeAt "old" "t").client = i.config.client →
      i.config.source = (bridgeAt "old" "t").source := by decide +kernel
  have hrefreshes : ∀ f ∈ s.hub.refresher.refreshes, f.source = (bridgeAt "old" "t").source →
      f.phase.outcome? ≠ some (.ok (.bearer "u")) := by decide +kernel
  obtain ⟨e, he, heq⟩ := Option.map_eq_some_iff.1 hsent
  obtain ⟨hclient, hc, hmessage⟩ : e.client = (bridgeAt "old" "t").client ∧
      e.phase.sent? = some (.bearer "u") ∧
      (e.message?.map fun m => (m.url.text, m.authorization)) =
        some ("http://old/devices/p1", some "Bearer u") := by simpa using heq
  refine ⟨e, List.mem_of_head? he, .bearer "u", hc, hmessage, ?_⟩
  rintro ⟨i, hi, hown, n, f, hf, -, hsource, houtcome⟩
  have hold := hintakes i hi (hclient ▸ hown)
  exact hrefreshes f (List.mem_of_getElem? hf) (hsource.trans hold) houtcome

end Dispatch

end DeviceHub
