import SentinelAI.Core.Principal
import SentinelAI.Db.Models
import SentinelAI.Lib.Stateful
import SentinelAI.Models.Timedelta
import SentinelAI.Services.Executor
import SentinelAI.Services.Notifications
import SentinelAI.Splunk.Client

/-
  What one request runs against: its database session (`app/db/session.py`) and the world
  around the process.

  `Runtime` is fixed for a whole run: the configuration and the library functions the source
  relies on (SHA-256, JSON decoding, bcrypt, Fernet, text formatting). `Env` is what the
  world does during one request: clock readings, generated uuids, and the answers of
  connectors, channels, Splunk and models, any of which may be an exception. Nothing ties
  the `Env` of one request to that of another. The database itself does not fail: a
  statement raises only what its rows make it raise.

  A handler is an `ApiM` action: it may raise and keeps its session when it does, so what it
  had done by then stays visible. `committed` is what a rollback returns to.
-/

namespace SentinelAI

open Lib

/-- `Settings` fields the core logic reads. -/
structure Settings where
  jwtExpireMinutes : Int := 60
  notifyHighRiskThreshold : Int := 80
  priceSearchCents : Int := 2
  priceModelCallCents : Int := 5
  priceTokensCentsPer1k : Int := 1
  priceActionCents : Int := 10

structure Runtime where
  settings : Settings := {}
  /-- `hashlib.sha256(text.encode()).hexdigest()` -/
  sha256 : String → String
  /-- `json.loads`; the class of what it raises: a `JSONDecodeError`, but a `ValueError` at an
      integer too long to convert and a `RecursionError` at too deep a nesting -/
  jsonLoads : String → Except String JsonValue
  /-- `float(text)`; none is the `ValueError` -/
  floatOfText : String → Option FloatValue
  /-- `str(value)` of a list or a dict -/
  reprContainer : JsonValue → String
  /-- `f"{x:.2f}"` -/
  format2 : ℚ → String
  /-- `bcrypt.checkpw`; none is the `ValueError` of a malformed hash -/
  checkpw : List UInt8 → String → Option Bool
  /-- `Fernet.decrypt`; none is `InvalidToken` -/
  fernetDecrypt : String → Option String

/-- A runtime for small examples: any password matches, no text is JSON. -/
def Runtime.plain : Runtime where
  sha256 := id
  jsonLoads := fun _ => .error "JSONDecodeError"
  floatOfText := fun _ => none
  reprContainer := fun _ => ""
  format2 := fun _ => ""
  checkpw := fun _ _ => some true
  fernetDecrypt := fun _ => none

structure Env where
  /-- successive readings of `datetime.now(UTC)` -/
  now : Nat → Time
  /-- successive `uuid.uuid4().hex` -/
  uuid4 : Nat → String
  /-- `bcrypt.hashpw` with the salt drawn for this request -/
  hashpw : List UInt8 → String := fun _ => ""
  /-- `Fernet.encrypt` with the nonce drawn for this request -/
  fernetEncrypt : String → String := id
  connectors : List ActionConnector := [mockConnector]
  channels : List NotificationChannel := [.capture]
  /-- what a client answers to the `k`-th search: SPL, earliest, latest -/
  search : SplunkClient → Nat → String → String → String → Except Exc SearchResult :=
    fun _ _ _ _ _ => .error (.splunk (.connection ""))
  /-- what a model answers to the `k`-th completion: system and user prompt -/
  complete : AIModel → Nat → String → String → Except Exc String :=
    fun _ _ _ _ => .error (.aiModel "")

/-- `CircuitBreaker` (`app/core/resilience.py`). -/
structure CircuitBreaker where
  failureThreshold : Nat := 5
  resetAfterSeconds : ResetTime := .thirtySeconds
  failures : Nat := 0
  openedAt : Option Time := none
  deriving DecidableEq

/-- One SPL search sent to a client. -/
structure SearchCall where
  client : SplunkClient
  spl : String
  deriving DecidableEq, Repr

structure Session where
  db : Database
  committed : Database
  ticks : Nat := 0
  uuids : Nat := 0
  breaker : CircuitBreaker := {}
  sleeps : List ℚ := []
  connectorCalls : List ConnectorCall := []
  searches : List SearchCall := []
  completions : List AIModel := []
  /-- what the capture channel holds -/
  captured : List Notification := []
  /-- the tokens signed so far -/
  issued : List Token := []

/-- The session a request opens. -/
def Session.start (db : Database) (captured : List Notification) (issued : List Token) :
    Session where
  db := db
  committed := db
  captured := captured
  issued := issued

abbrev ApiM := EStateM Exc Session

/-! ## Primitives -/

/-- A statement on the session's rows. -/
def dbCall {α : Type} (f : Database → Except Exc (α × Database)) : ApiM α := fun s =>
  match f s.db with
  | .ok (a, db) => .ok a { s with db := db }
  | .error e => .error e s

/-- A statement that only reads. -/
def query {α : Type} (f : Database → α) : ApiM α := fun s => .ok (f s.db) s

/-- `await session.commit()`. -/
def commit : ApiM Unit := fun s => .ok () { s with committed := s.db }

/-- `datetime.now(UTC)`. -/
def readClock (env : Env) : ApiM Time := fun s =>
  .ok (env.now s.ticks) { s with ticks := s.ticks + 1 }

/-- `uuid.uuid4().hex`. -/
def uuidHex (env : Env) : ApiM String := fun s =>
  .ok (env.uuid4 s.uuids) { s with uuids := s.uuids + 1 }

/-- Keeps a token the platform has signed. -/
def signToken (t : Token) : ApiM Unit := fun s => .ok () { s with issued := s.issued ++ [t] }

/-- `raise e` unless the value is there. -/
def orRaise {α : Type} (e : Exc) : Option α → ApiM α
  | some a => pure a
  | none => throw e

/-- `raise e` if the condition holds. -/
def raiseIf (c : Bool) (e : Exc) : ApiM Unit :=
  if c then throw e else pure ()

/-- The value of a pure computation that may raise. -/
def ofExcept {α : Type} : Except Exc α → ApiM α
  | .ok a => pure a
  | .error e => throw e

/-- Runs `m` and hands back what it raised instead of raising it. -/
def attempt {α : Type} (m : ApiM α) : ApiM (Except Exc α) :=
  tryCatch (Except.ok <$> m) fun e => pure (.error e)

theorem attempt_run {α : Type} (m : ApiM α) (s : Session) :
    (attempt m).run s = match m.run s with
      | .ok a t => .ok (.ok a) t
      | .error e t => .ok (.error e) t := by
  unfold attempt
  rw [run_tryCatch, run_map]
  cases m.run s <;> rfl

/-- `ActionExecutor.execute`, logging the connector invocation it makes. -/
def ActionExecutor.execute (env : Env) (actionType target : String) : ApiM ExecutionResult := do
  modify fun s => { s with
    connectorCalls := s.connectorCalls ++ executorCall env.connectors actionType target }
  ofExcept (executorResult env.connectors actionType target)

theorem ofExcept_run {α : Type} (x : Except Exc α) (s : Session) :
    (ofExcept x).run s = match x with
      | .ok a => .ok a s
      | .error e => .error e s := by
  cases x <;> rfl

/-! ## When a step returns -/

/-- A session after one reading of the clock. -/
def Session.ticked (s : Session) : Session := { s with ticks := s.ticks + 1 }

theorem readClock_run (env : Env) (s : Session) :
    (readClock env).run s = .ok (env.now s.ticks) s.ticked := rfl

theorem uuidHex_run (env : Env) (s : Session) :
    (uuidHex env).run s = .ok (env.uuid4 s.uuids) { s with uuids := s.uuids + 1 } := rfl

theorem ofExcept_eq_ok {α : Type} {x : Except Exc α} {s t : Session} {a : α} :
    (ofExcept x).run s = .ok a t ↔ x = .ok a ∧ t = s := by
  rw [ofExcept_run]
  cases x <;> simp [eq_comm]

theorem raiseIf_eq_ok {c : Bool} {e : Exc} {s t : Session} {u : Unit} :
    (raiseIf c e).run s = .ok u t ↔ c = false ∧ t = s := by
  cases c <;> simp [raiseIf, eq_comm]

theorem orRaise_eq_ok {α : Type} {e : Exc} {x : Option α} {s t : Session} {a : α} :
    (orRaise e x).run s = .ok a t ↔ x = some a ∧ t = s := by
  cases x <;> simp [orRaise, eq_comm]

theorem ActionExecutor.execute_run (env : Env) (actionType target : String) (s : Session) :
    (execute env actionType target).run s =
      (ofExcept (executorResult env.connectors actionType target)).run { s with
        connectorCalls := s.connectorCalls ++ executorCall env.connectors actionType target } :=
  rfl

/-- `channel.send(notification)`. -/
def NotificationChannel.deliver (n : Notification) : NotificationChannel → ApiM Bool
  | .capture => do
    modify fun s => { s with captured := s.captured ++ [n] }
    return true
  | .webhook send => ofExcept (send n)

/-- `NotificationService.notify`: the number of channels that accepted. -/
def NotificationService.notify (env : Env) (n : Notification) : ApiM Nat := do
  let accepted ← env.channels.mapM (NotificationChannel.deliver n)
  return accepted.countP id

def NotificationService.maybeAlertHighRisk (rt : Runtime) (env : Env)
    (tenantId title severity : String) (riskScore : Int) : ApiM Nat :=
  if riskScore < rt.settings.notifyHighRiskThreshold then pure 0
  else notify env (highRiskNotification tenantId title severity riskScore)

def NotificationService.alertActionExecuted (env : Env)
    (tenantId actionType target status : String) : ApiM Nat :=
  notify env (actionExecutedNotification tenantId actionType target status)

/-- `client.search(spl, earliest, latest)`. -/
def SplunkClient.search (env : Env) (client : SplunkClient) (spl earliest latest : String) :
    ApiM SearchResult := do
  let k := (← get).searches.length
  modify fun s => { s with searches := s.searches ++ [⟨client, spl⟩] }
  ofExcept (env.search client k spl earliest latest)

theorem attempt_search_run (env : Env) (client : SplunkClient) (spl a b : String) (s : Session) :
    (attempt (client.search env spl a b)).run s =
      .ok (env.search client s.searches.length spl a b)
        { s with searches := s.searches ++ [⟨client, spl⟩] } := by
  have hrun : (client.search env spl a b).run s =
      (ofExcept (env.search client s.searches.length spl a b)).run
        { s with searches := s.searches ++ [⟨client, spl⟩] } := rfl
  rw [attempt_run, hrun, ofExcept_run]
  cases env.search client s.searches.length spl a b <;> rfl

/-- `model.complete(system, user)`. -/
def AIModel.complete (env : Env) (model : AIModel) (system user : String) : ApiM String := do
  let k := (← get).completions.length
  modify fun s => { s with completions := s.completions ++ [model] }
  ofExcept (env.complete model k system user)

end SentinelAI
