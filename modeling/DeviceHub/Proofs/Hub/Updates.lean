import DeviceHub.Proofs.Hub.History
import DeviceHub.Proofs.Hub.Stored
import DeviceHub.Proofs.Snapshot.Changes

/-!
# What is told is what is stored

A cycle tells only the channels that changed. Whoever puts together what was told of a device since it
began, the last value of every channel counting, has nevertheless what is stored: all snapshots of one
task have the same channels, a new task starts from nothing, and what is not committed is neither told
nor stored.

* `Reachable.rebuilds`: what is told gives what is stored, whatever happens.
* `updates_finish`: what one cycle tells.
* `updates_rebuild`: both, for all runs.
-/
namespace DeviceHub

/-- What an event tells of a channel. -/
def Event.update? : Event → Option (String × FieldValue)
  | .state _ channel value => some (channel, value)
  | _ => none

namespace Hub

variable {κ : Type}

/-- The channels told of a device since it began, with their values, the earliest first. -/
def updates (h : Hub κ) (device : String) : List (String × FieldValue) :=
  (h.history device).filterMap Event.update?

/-- The channels that are stored of a device. -/
def kept (h : Hub κ) (device : String) : Dict FieldValue :=
  Snapshot.fieldsOf (h.store.get? device)

/-- What is told of a device gives what is stored, and no value is told twice in a row. -/
structure Rebuilds (h : Hub κ) (device : String) : Prop where
  agree : Agree (h.updates device) (h.kept device)
  news : NoneRepeated (h.updates device)

theorem SameFor.updates {device : String} {h h' : Hub κ} (hs : SameFor device h h') :
    h'.updates device = h.updates device := congrArg (List.filterMap Event.update?) hs.history

theorem SameFor.kept {device : String} {h h' : Hub κ} (hs : SameFor device h h') :
    h'.kept device = h.kept device := congrArg Snapshot.fieldsOf hs.store

/-! ## What a cycle tells -/

theorem filterMap_news (h : Hub κ) (s : Snapshot) :
    (h.news (.ok s)).filterMap Event.update? = s.changes (h.store.get? s.device) := by
  have hsome : (Event.update? ∘ fun e : String × FieldValue => .state s.device e.1 e.2) = some := rfl
  simp only [news, List.filterMap_map, hsome, List.filterMap_some]

theorem filterMap_connectivityNews (device : String) (t : Transition) :
    (connectivityNews device t).filterMap Event.update? = [] := by
  unfold connectivityNews
  split <;> rfl

/-- A failed poll tells nothing of any channel. -/
theorem updates_absorb_error (h : Hub κ) (device : String) (e : HubError) (now : Instant) :
    (h.absorb device (.error e) now).updates device = h.updates device := by
  rw [updates, history_absorb h now (by simp), List.filterMap_append, List.filterMap_append,
    filterMap_connectivityNews]
  simp [updates, news]

/-- A snapshot tells what is new in it. -/
theorem updates_absorb_ok (h : Hub κ) {device : String} {s : Snapshot} (hs : s.device = device)
    (now : Instant) : (h.absorb device (.ok s) now).updates device =
      h.updates device ++ s.changes (h.store.get? device) := by
  have hr : ∀ s', (Except.ok s : Except HubError Snapshot) = .ok s' → s'.device = device := by
    rintro s' heq
    cases heq
    exact hs
  rw [updates, history_absorb h now hr, List.filterMap_append, List.filterMap_append,
    filterMap_connectivityNews, filterMap_news, List.append_nil, hs, updates]

/-! ## What is told and what is stored -/

/-- Of a device that begins nothing is told and nothing stored. -/
theorem rebuilds_of_none {h : Hub κ} {device : String} (hu : h.updates device = [])
    (hs : h.store.get? device = none) : Rebuilds h device := by
  refine ⟨?_, ?_⟩
  · rw [kept, hu, hs]
    exact fun c => .none
  · rw [hu]
    intro before c v after heq
    simp at heq

theorem Rebuilds.absorb {h : Hub κ} {device : String} (hb : Rebuilds h device) (hw : Wired h)
    (hs : Stored h) {n : Nat} {t : PollTask κ} {answer : Except RequestError Payload}
    {now : Instant} (ht : h.task? n = some t) (hc : t.poller.isCancelled = false)
    (hdev : t.identity.device = device) (ha : answerIsFinite answer = true) :
    Rebuilds (h.absorb device (readAnswer t.schema t.identity now answer) now) device := by
  cases hr : readAnswer t.schema t.identity now answer with
  | error e =>
    have hupdates := updates_absorb_error h device e now
    have hkept : (h.absorb device (.error e) now).kept device = h.kept device := by
      rw [kept, absorb_store, kept]
    refine ⟨?_, ?_⟩
    · rw [hupdates, hkept]
      exact hb.agree
    · rw [hupdates]
      exact hb.news
  | ok s =>
    have hsdev : s.device = device := (readAnswer_device hr).trans hdev
    have hsfits : s.Fits t.schema := readAnswer_fits ha hr
    have hprevious : ∀ p, h.store.get? device = some p → p.Fits t.schema := by
      intro p hp
      obtain ⟨-, entry, hentry, hn⟩ := hw.serves n t ht hc
      rw [hdev] at hentry
      obtain ⟨m, u, hm, hu, hfits⟩ := hs.fits device entry p hentry hp
      rw [hn] at hm
      cases hm
      rw [ht] at hu
      cases hu
      exact hfits
    have hupdates := updates_absorb_ok h hsdev now
    have hkept : (h.absorb device (.ok s) now).kept device = s.fields := by
      rw [kept, absorb_store, SnapshotStore.get?_upsert, if_pos hsdev]
      rfl
    refine ⟨?_, ?_⟩
    · rw [hupdates, hkept]
      exact agree_append hb.agree hprevious hsfits
    · rw [hupdates]
      exact noneRepeated_append hb.agree hb.news hsfits.ordered

theorem Reachable.rebuilds {h : Hub κ} (hr : Reachable h) {device : String}
    (hd : (h.devices.get? device).isSome = true) : Rebuilds h device := by
  refine hr.lifetime (P := (Rebuilds · device)) (fun hs hb => ?_) (fun hr hshut hnone _ hdev => ?_)
    (fun hr hshut hnone _ hdev => ?_) (fun hr ht hc hdev ha hb => ?_) hd
  · exact ⟨hs.updates ▸ hs.kept ▸ hb.agree, hs.updates ▸ hb.news⟩
  · refine rebuilds_of_none ?_ (hr.stored.get?_eq_none hshut hnone)
    rw [updates, ← hdev, history_accept]
    rfl
  · refine rebuilds_of_none ?_ (hr.stored.get?_eq_none hshut hnone)
    rw [updates, ← hdev, history_refuse]
    rfl
  · exact hb.absorb hr.wired hr.stored ht hc hdev ha

/-- What a cycle tells of a device it tells in ascending order of the channels. -/
theorem updates_finish (h : Hub κ) (device : String) (n time : Nat) (now : Instant)
    (answer : Except RequestError Payload) :
    ∃ news, (h.step (.finish n time now answer)).updates device = h.updates device ++ news ∧
      news.Pairwise fun a b => a.1 < b.1 := by
  rcases step_finish h n time now answer with ⟨-, -, hj⟩ | ⟨t, p, -, -, ha, heq⟩
  · have hhistory := history_congr hj device
    exact ⟨[], by rw [updates, hhistory, List.append_nil]; rfl, .nil⟩
  · rw [heq]
    show ∃ news, (h.absorb _ _ now).updates device = _ ∧ _
    by_cases hdev : t.identity.device = device
    · rw [hdev]
      cases hr : readAnswer t.schema t.identity now answer with
      | error e => exact ⟨[], by rw [updates_absorb_error, List.append_nil], .nil⟩
      | ok s =>
        rw [updates_absorb_ok h ((readAnswer_device hr).trans hdev)]
        exact ⟨_, rfl, Snapshot.changes_ordered (readAnswer_fits ha hr).ordered _⟩
    · rw [(sameFor_absorb h now (fun s hs => readAnswer_device hs) hdev).updates]
      exact ⟨[], (List.append_nil _).symm, .nil⟩

/-- Whatever happens, the updates told of a registered device since it began, the last value of every
channel counting, give just the channels that are stored of it, each with a value that counts as the
stored one. No update repeats the one before it on its channel, and one cycle tells its channels in
strictly ascending order. -/
theorem updates_rebuild (schemas : SchemaRegistry) (acts : List (Act κ)) {device : String}
    (hd : ((run (.new schemas) acts).devices.get? device).isSome = true) :
    let h := run (.new schemas) acts
    (∀ c, Option.Rel (fun told v => told.same v = true)
      ((Dict.ofList (h.updates device)).get? c) ((h.kept device).get? c)) ∧
    (∀ before c v after, h.updates device = before ++ (c, v) :: after →
      (Dict.ofList before).get? c = none ∨
        ∃ last, (Dict.ofList before).get? c = some last ∧ last.same v = false) ∧
    (∀ n time now answer, ∃ news,
      (h.step (.finish n time now answer)).updates device = h.updates device ++ news ∧
        news.Pairwise fun a b => a.1 < b.1) := by
  have hr : Rebuilds (run (.new schemas) acts) device := (reachable_run schemas acts).rebuilds hd
  exact ⟨hr.agree, hr.news, updates_finish _ device⟩

/-- A plug is found to be off, then on, then still on: two updates, the last of which is stored. -/
theorem updates_rebuild_plug :
    let h := run (.new [("plug", plugSchema)]) (plugIsAsked ++ [
      .finish 0 0 .epoch (plugSays false), .wake 0 60000, .finish 0 60000 .epoch (plugSays true),
      .wake 0 120000, .finish 0 120000 .epoch (plugSays true)])
    (h.devices.get? "p1").isSome = true ∧
      h.updates "p1" = [("power", .boolean false), ("power", .boolean true)] ∧
      ∀ c, Option.Rel (fun told v => told.same v = true)
        ((Dict.ofList (h.updates "p1")).get? c) ((h.kept "p1").get? c) := by
  intro h
  have hd : (h.devices.get? "p1").isSome = true := by decide +kernel
  exact ⟨hd, by decide +kernel, (updates_rebuild _ _ hd).1⟩

end Hub

end DeviceHub
