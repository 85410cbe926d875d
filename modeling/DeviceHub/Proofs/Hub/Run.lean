import DeviceHub.Proofs.Normalize.Channels
import Mathlib.Logic.Relation

/-!
# Runs of a hub

Everything that can happen to a hub, in any order: calls, turns of poll tasks, the end of a cycle
with whatever its request brought, the answer to a command, shutting down. An answer may take as long
as it likes, since the answer to a cycle is an act of its own, which can come any time after the turn
that started the cycle. What cannot happen is skipped: a cycle ends only while it is under way and
with an answer that a vendor can give (`fetch_isFinite`), and a device is released only while the hub
shuts down.

`Change` says once what a single act can do to the devices, their tasks, and what is kept and told of
them. Every property of runs is proved from it: `Reachable.induction` has one case for each kind of
change and not one for each act.

The calls are those of `Engine`, the turns and the ends of cycles those of `poll_loop` and
`DeviceCycle.run`.

* `absorb_store`, `absorb_health`, `absorb_journal`: what the result of a cycle does.
* `changes_step`, `reachable_run`: whatever happens is made of such changes.
-/
namespace DeviceHub

variable {κ : Type}

/-- What a poll task keeps while it works, and whether it is cancelled. -/
def PollTask.badge (t : PollTask κ) : Identity × Schema × Bool :=
  (t.identity, t.schema, t.poller.isCancelled)

namespace Hub

/-! ## Acts -/

/-- What can happen to a hub. -/
inductive Act (κ : Type) where
  | attach (bridge : String) (client : Client κ)
  | register (fault : CertificateFault) (b : BridgeConfig)
  /-- A request under way changes what is known of credentials. -/
  | renew (refresher : Refresher TokenSource)
  | enroll (d : DeviceConfig)
  | dispose (device : String)
  | restart (device : String)
  | update (d : DeviceConfig)
  | refresh (device : String)
  /-- A command was answered. Until then it has changed nothing. -/
  | commandDone (device : String) (answer : Except RequestError Payload)
  | subscribe (device : String)
  | beginShutdown
  | release (device : String)
  | wake (n time : Nat)
  /-- The request of a cycle was answered. -/
  | finish (n time : Nat) (now : Instant) (answer : Except RequestError Payload)

/-- Whether a cycle of a task is under way. -/
def isCycling (h : Hub κ) (n : Nat) : Bool := (h.task? n).any fun t => t.poller.phase = .cycling

/-- The hub after an act; as before when the act cannot happen. -/
def step (h : Hub κ) : Act κ → Hub κ
  | .attach bridge client => h.attach bridge client
  | .register fault b => (h.register fault b).2
  | .renew refresher => { h with refresher := refresher }
  | .enroll d => (h.enroll d).2
  | .dispose device => (h.dispose device).2
  | .restart device => (h.restart device).2
  | .update d => (h.update d).2
  | .refresh device => (h.refresh device).2
  | .commandDone device answer => (h.commandDone device answer).2
  | .subscribe device => { h with store := (h.store.subscribe device).2 }
  | .beginShutdown => h.beginShutdown
  | .release device => if h.isShutDown then h.release device else h
  | .wake n time => (h.wake n time).2
  | .finish n time now answer =>
    if h.isCycling n && answerIsFinite answer then h.finish n time now answer else h

/-- The hub after some acts. -/
def run (h : Hub κ) (acts : List (Act κ)) : Hub κ := acts.foldl step h

/-! ## Changes -/

/-- Nothing has changed but bridges, credentials, subscriptions and the schedules of poll tasks. -/
structure Alike (h h' : Hub κ) : Prop where
  devices : h'.devices = h.devices
  tasks : ∀ n, (h'.task? n).map PollTask.badge = (h.task? n).map PollTask.badge
  store : ∀ d, h'.store.get? d = h.store.get? d
  health : h'.health = h.health
  journal : h'.journal = h.journal
  isShutDown : h'.isShutDown = h.isShutDown

/-- What one act can do, or one half of an act that does two things. -/
inductive Change : Hub κ → Hub κ → Prop where
  | alike {h h' : Hub κ} (ha : Alike h h') : Change h h'
  | accept {h : Hub κ} {d : DeviceConfig} {t : PollTask κ} (hs : h.isShutDown = false)
      (hd : h.devices.get? d.identity.device = none) (ht : h.prepare d = .ok t) :
      Change h (h.accept d t)
  | refuse {h : Hub κ} {d : DeviceConfig} {e : HubError} (hs : h.isShutDown = false)
      (hd : h.devices.get? d.identity.device = none) (he : h.prepare d = .error e) :
      Change h (h.refuse d e)
  | dispose {h : Hub κ} {device : String} {entry : DeviceEntry}
      (hd : h.devices.get? device = some entry) : Change h (h.dispose device).2
  | absorb {h : Hub κ} {n : Nat} {t : PollTask κ} {answer : Except RequestError Payload}
      {now : Instant} (ht : h.task? n = some t) (hc : t.poller.isCancelled = false)
      (ha : answerIsFinite answer = true) :
      Change h (h.absorb t.identity.device (readAnswer t.schema t.identity now answer) now)
  | beginShutdown {h : Hub κ} : Change h h.beginShutdown
  | release {h : Hub κ} {device : String} (hs : h.isShutDown = true) : Change h (h.release device)

/-- Some changes, one after the other. -/
abbrev Changes : Hub κ → Hub κ → Prop := Relation.ReflTransGen Change

/-- A hub that can come about from an empty one. -/
def Reachable (h : Hub κ) : Prop := ∃ schemas, Changes (.new schemas) h

theorem Reachable.induction {P : Hub κ → Prop} (new : ∀ schemas, P (.new schemas))
    (change : ∀ {h h'}, Reachable h → Change h h' → P h → P h') {h : Hub κ} (hr : Reachable h) :
    P h := by
  obtain ⟨schemas, hr⟩ := hr
  induction hr with
  | refl => exact new schemas
  | tail hr hc ih => exact change ⟨schemas, hr⟩ hc ih

/-! ## Acts are made of changes -/

theorem task?_withPoller (h : Hub κ) (n m : Nat) (p : Poller) :
    (h.withPoller n p).task? m =
      (h.task? m).map fun t => if n = m then { t with poller := p } else t := by
  simp only [task?, withPoller, List.getElem?_modify, Option.map_eq_map]

theorem alike_withPoller {h : Hub κ} {n : Nat} {t : PollTask κ} {p : Poller}
    (ht : h.task? n = some t) (hp : p.isCancelled = t.poller.isCancelled) :
    Alike h (h.withPoller n p) := by
  refine ⟨rfl, fun m => ?_, fun _ => rfl, rfl, rfl, rfl⟩
  rw [task?_withPoller]
  by_cases hm : n = m
  · subst hm; simp [ht, PollTask.badge, hp]
  · simp [hm]

theorem alike_refl (h : Hub κ) : Alike h h := ⟨rfl, fun _ => rfl, fun _ => rfl, rfl, rfl, rfl⟩

theorem alike_register (fault : CertificateFault) (h : Hub κ) (b : BridgeConfig) :
    Alike h (h.register fault b).2 := by
  unfold register
  split
  · exact alike_refl h
  · split
    · exact alike_refl h
    · simp only
      split <;> exact ⟨rfl, fun _ => rfl, fun _ => rfl, rfl, rfl, rfl⟩

theorem taskOf?_eq_some {h : Hub κ} {device : String} {n : Nat} {t : PollTask κ}
    (ht : h.taskOf? device = some (n, t)) : h.task? n = some t := by
  simp only [taskOf?, Option.bind_eq_bind, Option.bind_eq_some_iff, Option.some.injEq,
    Prod.mk.injEq] at ht
  obtain ⟨_, -, m, -, u, hu, rfl, rfl⟩ := ht
  exact hu

theorem alike_refresh (h : Hub κ) (device : String) : Alike h (h.refresh device).2 := by
  unfold refresh
  split
  · exact alike_refl h
  · split
    · exact alike_refl h
    · next n t ht => exact alike_withPoller (taskOf?_eq_some ht) t.poller.refresh_isCancelled

theorem alike_subscribe (h : Hub κ) (device : String) :
    Alike h { h with store := (h.store.subscribe device).2 } :=
  ⟨rfl, fun _ => rfl, h.store.get?_subscribe device, rfl, rfl, rfl⟩

theorem alike_wake (h : Hub κ) (n time : Nat) : Alike h (h.wake n time).2 := by
  unfold wake
  split
  · exact alike_refl h
  · next t ht => exact alike_withPoller ht (t.poller.wake_isCancelled time)

theorem changes_enroll (h : Hub κ) (d : DeviceConfig) : Changes h (h.enroll d).2 := by
  unfold enroll
  simp only
  split
  · exact .refl
  · next hs =>
    split
    · exact .refl
    · next hd =>
      have hs : h.isShutDown = false := by simpa using hs
      have hd : h.devices.get? d.identity.device = none := by simpa [Dict.contains] using hd
      split
      · next t ht => exact .single (.accept hs hd ht)
      · next e he => exact .single (.refuse hs hd he)

theorem changes_dispose (h : Hub κ) (device : String) : Changes h (h.dispose device).2 := by
  cases hd : h.devices.get? device with
  | none => simp only [dispose, hd]; exact .refl
  | some entry => exact .single (.dispose hd)

theorem changes_restart (h : Hub κ) (device : String) : Changes h (h.restart device).2 := by
  unfold restart
  split
  · exact .refl
  · exact (changes_dispose h device).trans (changes_enroll _ _)

theorem changes_update (h : Hub κ) (d : DeviceConfig) : Changes h (h.update d).2 :=
  (changes_dispose h d.identity.device).trans (changes_enroll _ _)

/-! ## The result of a cycle -/

/-- What is told of a result's channels, the earliest first. -/
def news (h : Hub κ) : Except HubError Snapshot → List Event
  | .ok s => (s.changes (h.store.get? s.device)).map fun e => .state s.device e.1 e.2
  | .error _ => []

/-- What is told of a device's connectivity after an outcome. -/
def connectivityNews (device : String) (t : Transition) : List Event :=
  if t.isChange then [.connectivity device t.health.status t.health.detail] else []

section

variable (h : Hub κ) (device : String) (r : Except HubError Snapshot) (now : Instant)

@[simp] theorem absorb_devices : (h.absorb device r now).devices = h.devices := by
  unfold absorb record
  cases r <;> simp only <;> split <;> rfl

@[simp] theorem absorb_tasks : (h.absorb device r now).tasks = h.tasks := by
  unfold absorb record
  cases r <;> simp only <;> split <;> rfl

@[simp] theorem absorb_isShutDown : (h.absorb device r now).isShutDown = h.isShutDown := by
  unfold absorb record
  cases r <;> simp only <;> split <;> rfl

theorem absorb_store : (h.absorb device r now).store =
    match r with
    | .ok s => h.store.upsert s
    | .error _ => h.store := by
  unfold absorb record
  cases r <;> simp only <;> split <;> rfl

theorem absorb_health : (h.absorb device r now).health =
    h.health.apply device (.ofResult now r) := by
  unfold absorb record
  cases r <;> simp only <;> split <;> rfl

/-- The channels are told first, then the connectivity. -/
theorem absorb_journal : (h.absorb device r now).journal =
    connectivityNews device (h.health.transition device (.ofResult now r)) ++
      ((h.news r).reverse ++ h.journal) := by
  unfold absorb record connectivityNews
  cases r <;> simp only <;> split <;> rfl

end

/-- The end of a cycle: a cancelled task commits nothing, any other its result. -/
theorem finish_eq {h : Hub κ} {n : Nat} {t : PollTask κ} (ht : h.task? n = some t) (time : Nat)
    (now : Instant) (answer : Except RequestError Payload) :
    ∃ p : Poller, p.isCancelled = t.poller.isCancelled ∧
      h.finish n time now answer =
        (if t.poller.isCancelled then h
          else h.absorb t.identity.device (readAnswer t.schema t.identity now answer) now).withPoller
          n p := by
  unfold finish commit
  simp only [ht]
  split
  · exact ⟨_, t.poller.finish_isCancelled time _, rfl⟩
  · exact ⟨_, t.poller.finish_isCancelled time _, rfl⟩

theorem changes_finish {h : Hub κ} (n time : Nat) (now : Instant)
    {answer : Except RequestError Payload} (ha : answerIsFinite answer = true) :
    Changes h (h.finish n time now answer) := by
  cases ht : h.task? n with
  | none => simp only [finish, ht]; exact .refl
  | some t =>
    obtain ⟨p, hp, heq⟩ := finish_eq ht time now answer
    rw [heq]
    split
    · exact .single (.alike (alike_withPoller ht hp))
    · next hc =>
      have hc : t.poller.isCancelled = false := by simpa using hc
      refine .head (.absorb ht hc ha) (.single (.alike (alike_withPoller ?_ hp)))
      simpa [task?] using ht

theorem changes_step (h : Hub κ) (a : Act κ) : Changes h (h.step a) := by
  cases a with
  | attach | renew => exact .single (.alike ⟨rfl, fun _ => rfl, fun _ => rfl, rfl, rfl, rfl⟩)
  | register fault b => exact .single (.alike (alike_register fault h b))
  | enroll d => exact changes_enroll h d
  | dispose device => exact changes_dispose h device
  | restart device => exact changes_restart h device
  | update d => exact changes_update h d
  | refresh device => exact .single (.alike (alike_refresh h device))
  | commandDone device answer =>
    cases answer with
    | error e => exact .refl
    | ok payload => exact .single (.alike (alike_refresh h device))
  | subscribe device => exact .single (.alike (alike_subscribe h device))
  | beginShutdown => exact .single .beginShutdown
  | release device =>
    simp only [step]
    split
    · next hs => exact .single (.release hs)
    · exact .refl
  | wake n time => exact .single (.alike (alike_wake h n time))
  | finish n time now answer =>
    simp only [step]
    split
    · next hc =>
      rw [Bool.and_eq_true] at hc
      exact changes_finish n time now hc.2
    · exact .refl

theorem changes_run (h : Hub κ) (acts : List (Act κ)) : Changes h (h.run acts) := by
  induction acts generalizing h with
  | nil => exact .refl
  | cons a acts ih => exact (changes_step h a).trans (ih _)

theorem reachable_run (schemas : SchemaRegistry) (acts : List (Act κ)) :
    Reachable (run (.new schemas) acts) := ⟨schemas, changes_run _ acts⟩

/-! ## A small hub -/

/-- A switch that says whether it is on. -/
def plugSchema : Schema := ⟨none, none, [⟨"power", ["power"], .boolean, true⟩]⟩

def plug : DeviceConfig := ⟨⟨"hub", "p1", "plug"⟩, 60, ⟨.get, "devices/p1", none, .json, none⟩⟩

/-- What a plug answers that is switched on or off. -/
def plugSays (isOn : Bool) : Except RequestError Payload :=
  .ok (.json (.object [("power", .bool isOn)]))

/-- A plug is taken in and asked for the first time. -/
def plugIsAsked : List (Act Unit) := [.attach "hub" (.attached ()), .enroll plug, .wake 0 0]

end Hub

end DeviceHub
