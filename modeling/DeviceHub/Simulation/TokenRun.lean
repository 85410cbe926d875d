import DeviceHub.Credential.Refresher
import DeviceHub.Simulation.Script

/-!
# Runs of credential renewal

Callers that ask for credentials, and sources that answer after a planned time, on a clock in
milliseconds. The clock moves only while a caller waits, and a refresh has its turns only then: one
whose callers gave up stays where it is, and its timer keeps its time.

The calendar by which credentials expire does not move in a run.
-/
namespace DeviceHub

/-- What a source does when it is asked. -/
structure TokenPlan where
  delay : Nat
  result : Except RequestError Credential

/-- A refresher, its sources and their clock. -/
structure TokenRun where
  refresher : Refresher Nat
  /-- The registered sources, each known by its place, and how often each was asked. -/
  sources : List (List TokenPlan × Nat)
  now : Nat
  /-- When the refreshes that wait for an answer or for the end of a pause go on. -/
  timers : List (Nat × Nat)
  /-- When sources were asked, and the refresh token that they were shown; the latest first. -/
  asked : List (Nat × Option String)

namespace TokenRun

def new : TokenRun := ⟨.empty, [], 0, [], []⟩

/-- Gives a bridge a source. -/
def register (r : TokenRun) (bridge : String) (script : List TokenPlan) (policy : RefreshPolicy) :
    TokenRun :=
  { r with
    refresher := r.refresher.register bridge r.sources.length policy
    sources := r.sources ++ [(script, 0)] }

/-- When a refresh goes on. -/
def timer? (r : TokenRun) (n : Nat) : Option Nat := (r.timers.find? fun t => t.1 = n).map Prod.snd

def withTimer (r : TokenRun) (n due : Nat) : TokenRun :=
  { r with timers := (n, due) :: r.timers.filter fun t => t.1 ≠ n }

/-- What a source does next. -/
def plan (r : TokenRun) (source : Nat) : TokenPlan :=
  match r.sources[source]? with
  | some (script, count) =>
    (Simulation.entry? script count).getD ⟨0, .error (.authentication "")⟩
  | none => ⟨0, .error (.authentication "")⟩

/-- Asks the source of a refresh: the answer comes after the planned time. -/
def ask (r : TokenRun) (n source : Nat) (held : Option String) : TokenRun :=
  { r with
    sources := r.sources.modify source fun (script, count) => (script, count + 1)
    asked := (r.now, held) :: r.asked }.withTimer n (r.now + (r.plan source).delay)

/-- Asks for a refresh if that is what it has come to. -/
def asking (r : TokenRun) (n : Nat) : TokenRun :=
  match r.refresher.refreshes[n]? with
  | some ⟨_, source, _, .asking _ held⟩ => r.ask n source held
  | _ => r

/-- The answer that a source was asked for last. -/
def reply (r : TokenRun) (source : Nat) : Except RequestError Credential :=
  match r.sources[source]? with
  | some (script, count) =>
    ((Simulation.entry? script (count - 1)).map (·.result)).getD (.error (.authentication ""))
  | none => .error (.authentication "")

/-- The next thing that a refresh does at the present time, if there is one. -/
def turn? (r : TokenRun) (n : Nat) : Option TokenRun :=
  match r.refresher.refreshes[n]? with
  | none => none
  | some f =>
    let isDue := (r.timer? n).any fun t => t ≤ r.now
    match f.phase with
    | .created => some ({ r with refresher := r.refresher.begin n }.asking n)
    | .asking .. =>
      if isDue then
        let refresher := r.refresher.answer n (r.reply f.source)
        some ({ r with refresher := refresher }.withTimer n (r.now + f.policy.retryDelay))
      else none
    | .pausing .. =>
      if isDue then some ({ r with refresher := r.refresher.resume n }.asking n) else none
    | .closing _ => some { r with refresher := r.refresher.close n }
    | .ended _ => none

/-- Lets a refresh do what it can do at the present time. -/
def progress (n : Nat) : Nat → TokenRun → TokenRun
  | 0, r => r
  | fuel + 1, r =>
    match r.turn? n with
    | some r => progress n fuel r
    | none => r

/-- Twice the attempts of a refresh and two turns more are enough for it to end. -/
def turns (r : TokenRun) (n : Nat) : Nat :=
  match r.refresher.refreshes[n]? with
  | some f => 2 * f.policy.lastAttempt + 2
  | none => 0

/-- A caller: it waits for a refresh or has its answer. -/
inductive Caller where
  | waiting (refresh : Nat)
  | answered (result : Except RequestError Credential)

/-- Gives a caller a turn. -/
def poll (r : TokenRun) : Caller → Caller × TokenRun
  | .answered result => (.answered result, r)
  | .waiting n =>
    let r := progress n (r.turns n) r
    match r.refresher.outcome? n with
    | some result => (.answered result, r)
    | none => (.waiting n, r)

/-- A new caller, after its first turn. -/
def arrive (r : TokenRun) (bridge : String) : Caller × TokenRun :=
  match r.refresher.call bridge .epoch with
  | (.refused e, refresher) => (.answered (.error e), { r with refresher := refresher })
  | (.granted c, refresher) => (.answered (.ok c), { r with refresher := refresher })
  | (.awaits n, refresher) => { r with refresher := refresher }.poll (.waiting n)

/-- Some new callers, one after the other. -/
def arriveMany (bridge : String) : Nat → TokenRun → List Caller × TokenRun
  | 0, r => ([], r)
  | count + 1, r =>
    let (c, r) := r.arrive bridge
    let (cs, r) := arriveMany bridge count r
    (c :: cs, r)

/-- Gives all callers a turn, one after the other. -/
def pollAll : List Caller → TokenRun → List Caller × TokenRun
  | [], r => ([], r)
  | c :: cs, r =>
    let (c, r) := r.poll c
    let (cs, r) := pollAll cs r
    (c :: cs, r)

/-- When the first of the waited-for refreshes goes on. -/
def next? (r : TokenRun) (callers : List Caller) : Option Nat :=
  (callers.filterMap fun
    | .waiting n => r.timer? n
    | .answered _ => none).min?

/-- Lets callers wait for their answers, until a deadline if there is one. -/
def await (deadline : Option Nat) : Nat → List Caller → TokenRun → List Caller × TokenRun
  | 0, callers, r => (callers, r)
  | fuel + 1, callers, r =>
    match r.next? callers with
    | none => (callers, r)
    | some t =>
      if deadline.any fun d => d < t then (callers, { r with now := deadline.getD r.now })
      else
        let (callers, r) := pollAll callers { r with now := max r.now t }
        await deadline fuel callers r

/-- How often the clock may have to move until all callers have their answers. -/
def moves (r : TokenRun) (callers : List Caller) : Nat :=
  callers.foldl (fun total caller =>
    match caller with
    | .waiting n => total + r.turns n
    | .answered _ => total) 1

/-- What one of a step's callers gets: nothing if it gave up. -/
def Caller.result? : Caller → Option (Except RequestError Credential)
  | .waiting _ => none
  | .answered result => some result

/-- Some callers ask for a credential and wait for it, for some milliseconds at most if a limit is
given. -/
def obtain (r : TokenRun) (bridge : String) (count : Nat) (limit : Option Nat) :
    List (Option (Except RequestError Credential)) × TokenRun :=
  let (callers, r) := arriveMany bridge count r
  let (callers, r) := await (limit.map (r.now + ·)) (r.moves callers) callers r
  (callers.map (·.result?), r)

def invalidate (r : TokenRun) (bridge : String) : TokenRun :=
  { r with refresher := r.refresher.invalidate bridge }

def invalidateIf (r : TokenRun) (bridge : String) (held : Credential) : TokenRun :=
  { r with refresher := r.refresher.invalidateIf bridge held }

/-- Lets time pass while nobody waits. -/
def advance (r : TokenRun) (millis : Nat) : TokenRun := { r with now := r.now + millis }

end TokenRun

end DeviceHub
