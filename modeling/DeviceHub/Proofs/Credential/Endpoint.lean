import DeviceHub.Credential.Source

/-!
# What a token endpoint is shown and what it issues

A source that is asked for a credential sends one message to its endpoint, or two: when the endpoint
rejects the refresh token that it is shown, the source goes on with user name and password.
`Wire.noted` writes down every message with what came of it.

* `ask_noted`: one message, and the refresh token of the credential that it brings.
* `asked_account`: the messages of a source that is asked once.
* `Asked.latest?_append`, `Asked.showsLatest`: what these messages do to a log.
-/
namespace DeviceHub

/-- A message to a token endpoint on behalf of a bridge, and what came of it. -/
structure Exchange where
  bridge : String
  request : HttpRequest
  reply : Reply

/-- A wire that writes down what a bridge does with it, the first exchange first. -/
def Wire.noted {τ : Type} (wire : Wire τ) (bridge : String) : Wire (List Exchange × τ) :=
  fun request (log, world) =>
    let (reply, world) := wire request world
    (reply, log ++ [⟨bridge, request, reply⟩], world)

/-- The refresh token that an endpoint is shown with a grant. -/
def Grant.token? : Grant → Option String
  | .password => none
  | .refresh token => some token

namespace Exchange

/-- The refresh token that the endpoint was shown. -/
def shown? (e : Exchange) : Option String :=
  match e.request.body with
  | .form entries => (entries.find? fun e => e.1 = "refresh_token").map Prod.snd
  | _ => none

/-- The refresh token that the endpoint issued. -/
def issued? (e : Exchange) : Option String :=
  match e.reply with
  | .response r =>
    if r.ending = .complete ∧ r.isSuccess then
      (TokenResponse.read? r.text).bind TokenResponse.refreshToken
    else none
  | _ => none

/-- Whether the endpoint refused for good what it was shown. -/
def isRejection (e : Exchange) : Bool :=
  match e.reply with
  | .response r => !r.isSuccess && FailureClass.ofStatus r.status ≠ .transient
  | _ => false

/-- The refresh token issued last to a bridge. -/
def latest? (bridge : String) (log : List Exchange) : Option String :=
  log.reverse.findSome? fun e => if e.bridge = bridge then e.issued? else none

variable {bridge : String} {log : List Exchange}

theorem latest?_concat (log : List Exchange) (e : Exchange) (h : e.bridge = bridge) :
    latest? bridge (log ++ [e]) = e.issued?.or (latest? bridge log) := by
  simp only [latest?, List.reverse_append, List.reverse_cons, List.reverse_nil, List.nil_append,
    List.singleton_append, List.findSome?_cons, h, if_true]
  cases e.issued? <;> rfl

theorem latest?_append (before after : List Exchange) :
    latest? bridge (before ++ after) = (latest? bridge after).or (latest? bridge before) := by
  simp only [latest?, List.reverse_append, List.findSome?_append]

/-- There is none exactly when nothing was issued. -/
theorem latest?_eq_none_iff :
    latest? bridge log = none ↔ ∀ e ∈ log, e.bridge = bridge → e.issued? = none := by
  simp only [latest?, List.findSome?_eq_none_iff, List.mem_reverse, ite_eq_right_iff]

/-- What other bridges exchange does not matter. -/
theorem latest?_append_aside {sent : List Exchange} (h : ∀ e ∈ sent, e.bridge ≠ bridge) :
    latest? bridge (log ++ sent) = latest? bridge log := by
  have hnone : latest? bridge sent = none :=
    latest?_eq_none_iff.2 fun e he hbridge => absurd hbridge (h e he)
  rw [latest?_append, hnone]
  rfl

/-- Whoever is shown a refresh token of a bridge has issued it last. -/
def ShowsLatest (bridge : String) (log : List Exchange) : Prop :=
  ∀ before e after, log = before ++ e :: after → e.bridge = bridge →
    ∀ token, e.shown? = some token → latest? bridge before = some token

theorem showsLatest_nil : ShowsLatest bridge [] := by
  intro before e after h
  exact absurd h (by simp)

theorem ShowsLatest.concat (h : ShowsLatest bridge log) {e : Exchange}
    (he : e.bridge = bridge → ∀ token, e.shown? = some token → latest? bridge log = some token) :
    ShowsLatest bridge (log ++ [e]) := by
  intro before e' after hsplit hbridge token hshown
  rcases List.eq_nil_or_concat after with rfl | ⟨after, last, rfl⟩
  · obtain ⟨rfl, hlast⟩ := List.append_inj' hsplit rfl
    cases hlast
    exact he hbridge token hshown
  · rw [List.concat_eq_append, ← List.cons_append, ← List.append_assoc] at hsplit
    exact h before e' after (List.append_inj' hsplit rfl).1 hbridge token hshown

theorem ShowsLatest.aside (h : ShowsLatest bridge log) {sent : List Exchange}
    (hsent : ∀ e ∈ sent, e.bridge ≠ bridge) : ShowsLatest bridge (log ++ sent) := by
  induction sent generalizing log with
  | nil =>
    rw [List.append_nil]
    exact h
  | cons e sent ih =>
    rw [List.append_cons]
    refine ih (h.concat fun hbridge => ?_) fun e' he' => hsent e' (List.mem_cons_of_mem _ he')
    exact absurd hbridge (hsent e List.mem_cons_self)

end Exchange

namespace Account

/-- Whether a result is what comes of an exchange: a credential has the refresh token that was issued,
else the one that was shown. -/
def Brings (issued shown : Option String) : Except RequestError Credential → Prop
  | .ok c => c.refreshToken = issued.or shown
  | .error _ => issued = none

theorem shown?_request (a : Account) (bridge : String) (grant : Grant) (reply : Reply) :
    (⟨bridge, a.request grant, reply⟩ : Exchange).shown? = grant.token? := by
  cases hsecret : a.clientSecret <;> cases hscope : a.scope <;> cases grant <;>
    simp [Exchange.shown?, request, form, Grant.token?, hsecret, hscope]

/-- A response is read, if at all, as the answer that it is. -/
theorem brings_read (a : Account) (bridge : String) (grant : Grant) (now : Instant)
    (r : HttpResponse) (request : HttpRequest) :
    Brings (⟨bridge, request, .response r⟩ : Exchange).issued? grant.token?
      (a.read grant now r) := by
  cases hending : r.ending with
  | broken | late => simp only [read, HttpResponse.bodyFault?, Exchange.issued?, hending, Brings,
      reduceCtorEq, false_and, if_false]
  | complete =>
    cases hsuccess : r.isSuccess with
    | false =>
      simp only [read, HttpResponse.bodyFault?, Exchange.issued?, hending, hsuccess,
        Bool.false_eq_true, and_false, if_false]
      split <;> rfl
    | true =>
      simp only [read, HttpResponse.bodyFault?, Exchange.issued?, hending, hsuccess, and_self,
        if_true]
      cases TokenResponse.read? r.text with
      | none => rfl
      | some answer =>
        cases grant with
        | refresh token => exact (Option.or_eq_orElse ..).symm
        | password => exact Option.or_none.symm

/-- What comes of a token request, by what became of its message. -/
def outcome (a : Account) (grant : Grant) (now : Instant) (reply : Reply) :
    Except RequestError Credential :=
  match (a.request grant).failure? a.timeoutSeconds reply with
  | .ok r => a.read grant now r
  | .error fault => .error fault

theorem brings_outcome (a : Account) (bridge : String) (grant : Grant) (now : Instant)
    (request : HttpRequest) (reply : Reply) :
    Brings (⟨bridge, request, reply⟩ : Exchange).issued? grant.token?
      (a.outcome grant now reply) := by
  cases reply with
  | response r => exact a.brings_read bridge grant now r request
  | noAnswer | late => rfl

variable {τ : Type}

/-- An endpoint that is asked once gets one message at most. -/
theorem ask_noted (wire : Wire τ) (bridge : String) (now : Instant) (a : Account) (grant : Grant)
    (log : List Exchange) (world : τ) :
    (∃ fault, a.ask (wire.noted bridge) now grant (log, world) =
        (.error (.transport fault), log, world)) ∨
      ∃ e result world', a.ask (wire.noted bridge) now grant (log, world) =
          (result, log ++ [e], world') ∧
        e.bridge = bridge ∧ e.shown? = grant.token? ∧ Brings e.issued? grant.token? result := by
  unfold ask Wire.response
  cases (a.request grant).fault? with
  | some fault => exact .inl ⟨fault, rfl⟩
  | none =>
    obtain ⟨reply, world', hsent⟩ : ∃ reply world',
        wire (a.request grant) world = (reply, world') := ⟨_, _, rfl⟩
    refine .inr ⟨⟨bridge, a.request grant, reply⟩, a.outcome grant now reply, world', ?_, rfl,
      a.shown?_request bridge grant reply, a.brings_outcome bridge grant now _ reply⟩
    simp only [Wire.noted, hsent]
    cases reply <;> rfl

end Account

namespace TokenSource

open Account (Brings)

/-- What a source that is shown a refresh token, if any, exchanges with its endpoint when it is asked
once, and what it makes of it. -/
inductive Asked (bridge : String) (held : Option String) :
    List Exchange → Except RequestError Credential → Prop where
  | unsent (fault : RequestError) : Asked bridge held [] (.error fault)
  | once {e : Exchange} {result : Except RequestError Credential} (ofBridge : e.bridge = bridge)
      (shown : e.shown? = held) (brings : Brings e.issued? held result) :
      Asked bridge held [e] result
  /-- The endpoint rejected the refresh token, and was asked with user name and password. -/
  | again {e e' : Exchange} {result : Except RequestError Credential} (ofBridge : e.bridge = bridge)
      (shown : e.shown? = held) (failed : e.issued? = none) (ofBridge' : e'.bridge = bridge)
      (shown' : e'.shown? = none) (brings : Brings e'.issued? none result) :
      Asked bridge held [e, e'] result

variable {bridge : String} {held : Option String} {sent : List Exchange}
  {result : Except RequestError Credential}

theorem Asked.ofBridge (h : Asked bridge held sent result) : ∀ e ∈ sent, e.bridge = bridge := by
  intro e he
  cases h with
  | unsent => cases he
  | once hb => exact List.mem_singleton.1 he ▸ hb
  | again hb _ _ hb' =>
    rcases List.mem_cons.1 he with rfl | he
    · exact hb
    · exact List.mem_singleton.1 he ▸ hb'

/-- The refresh token that a result brings. -/
def brought? : Except RequestError Credential → Option String
  | .ok c => c.refreshToken
  | .error _ => none

open Exchange (latest? ShowsLatest)

variable {log : List Exchange}

/-- A result brings what was issued last, unless nothing was. -/
theorem latest?_brings {e : Exchange} (hbridge : e.bridge = bridge) {shown : Option String}
    (h : Brings e.issued? shown result)
    (hshown : ∀ token, shown = some token → latest? bridge log = some token) :
    latest? bridge (log ++ [e]) = (brought? result).or (latest? bridge log) := by
  rw [Exchange.latest?_concat log e hbridge]
  cases result with
  | error fault =>
    have hissued : e.issued? = none := h
    rw [hissued]
    rfl
  | ok c =>
    have hbrought : c.refreshToken = e.issued?.or shown := h
    rw [brought?, hbrought, Option.or_assoc]
    cases shown with
    | none => rfl
    | some token =>
      rw [hshown token rfl]
      rfl

/-- The refresh token issued last is the one that the source brings, unless it brings none. -/
theorem Asked.latest?_append (h : Asked bridge held sent result)
    (hheld : ∀ token, held = some token → latest? bridge log = some token) :
    latest? bridge (log ++ sent) = (brought? result).or (latest? bridge log) := by
  cases h with
  | unsent fault =>
    rw [List.append_nil]
    rfl
  | once hbridge _ hbrings => exact latest?_brings hbridge hbrings hheld
  | @again e e' _ hbridge _ hfailed hbridge' _ hbrings =>
    have hfirst : latest? bridge (log ++ [e]) = latest? bridge log := by
      rw [Exchange.latest?_concat log e hbridge, hfailed]
      rfl
    rw [List.append_cons, latest?_brings hbridge' hbrings nofun, hfirst]

theorem Asked.showsLatest (h : Asked bridge held sent result)
    (hheld : ∀ token, held = some token → latest? bridge log = some token)
    (hlog : ShowsLatest bridge log) : ShowsLatest bridge (log ++ sent) := by
  cases h with
  | unsent fault =>
    rw [List.append_nil]
    exact hlog
  | once _ hshown _ => exact hlog.concat fun _ token ht => hheld token (hshown ▸ ht)
  | again _ hshown _ _ hshown' _ =>
    rw [List.append_cons]
    refine (hlog.concat fun _ token ht => hheld token (hshown ▸ ht)).concat fun _ token ht => ?_
    rw [hshown'] at ht
    cases ht

variable {τ : Type}

theorem asked_account (wire : Wire τ) (bridge : String) (now : Instant) (a : Account)
    (held : Option String) (log : List Exchange) (world : τ) :
    ∃ sent result world', (TokenSource.account a).ask (wire.noted bridge) now held (log, world) =
      (result, log ++ sent, world') ∧ Asked bridge held sent result := by
  cases held with
  | none =>
    rcases a.ask_noted wire bridge now .password log world with
      ⟨fault, hask⟩ | ⟨e, result, world', hask, hbridge, hshown, hbrings⟩
    · refine ⟨[], .error (.transport fault), world, ?_, .unsent _⟩
      simp only [TokenSource.ask, hask, List.append_nil]
    · exact ⟨[e], _, _, hask, .once hbridge hshown hbrings⟩
  | some token =>
    rcases a.ask_noted wire bridge now (.refresh token) log world with
      ⟨fault, hask⟩ | ⟨e, result, world', hask, hbridge, hshown, hbrings⟩
    · refine ⟨[], .error (.transport fault), world, ?_, .unsent _⟩
      simp only [TokenSource.ask, hask, List.append_nil]
    · by_cases hrejected : ∃ text, result = .error (.authentication text)
      · obtain ⟨text, rfl⟩ := hrejected
        rcases a.ask_noted wire bridge now .password (log ++ [e]) world' with
          ⟨fault, hagain⟩ | ⟨e', result', world'', hagain, hbridge', hshown', hbrings'⟩
        · refine ⟨[e], .error (.transport fault), world', ?_, .once hbridge hshown hbrings⟩
          simp only [TokenSource.ask, hask, hagain]
        · refine ⟨[e, e'], result', world'', ?_,
            .again hbridge hshown hbrings hbridge' hshown' hbrings'⟩
          simp only [TokenSource.ask, hask, hagain, List.append_assoc, List.singleton_append]
      · refine ⟨[e], result, world', ?_, .once hbridge hshown hbrings⟩
        simp only [TokenSource.ask, hask]
        split
        · next text _ heq =>
          cases heq
          exact absurd ⟨_, rfl⟩ hrejected
        · rfl

/-- Every source sends on behalf of its bridge alone. -/
theorem ask_ofBridge (wire : Wire τ) (bridge : String) (now : Instant) (source : TokenSource)
    (held : Option String) (log : List Exchange) (world : τ) :
    ∃ sent, (source.ask (wire.noted bridge) now held (log, world)).2.1 = log ++ sent ∧
      ∀ e ∈ sent, e.bridge = bridge := by
  cases source with
  | fixed c => exact ⟨[], by simp [TokenSource.ask], fun e he => absurd he List.not_mem_nil⟩
  | account a =>
    obtain ⟨sent, result, world', hask, hasked⟩ := asked_account wire bridge now a held log world
    exact ⟨sent, by rw [hask], hasked.ofBridge⟩

end TokenSource

end DeviceHub
