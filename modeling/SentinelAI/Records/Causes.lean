import SentinelAI.Detection.DegradedModel
import SentinelAI.Lib.Contracts
import SentinelAI.Security.Footprints

/-
  Why a request can fail. A route refuses on purpose with an `HTTPException`; every other
  exception that escapes it is a 500. `Failure` lists what may stand behind one: a drawn id
  that is taken, stored credentials no client can be built from, an offset the database has no
  integer for, and what Splunk, the model, a connector or a webhook does. `causes` says which
  of these a request is exposed to.
-/

namespace SentinelAI

open Lib

/-! ## Ids -/

/-- The tables whose rows are given a drawn id. -/
inductive IdKind where
  | tenant
  | user
  | note
  | ruleState
  | case
  | incident
  deriving DecidableEq, Repr

namespace IdKind

def stored (db : Database) : IdKind → List String
  | tenant => db.tenants.rows.map TenantRow.id
  | user => db.users.rows.map UserRow.id
  | note => db.caseNotes.rows.map CaseNoteRow.id
  | ruleState => db.ruleStates.rows.map RuleStateRow.id
  | case => db.investigations.rows.map InvestigationRow.id
  | incident => db.incidents.rows.map IncidentRow.id

/-- The id made of a uuid. -/
def ofUuid : IdKind → String → String
  | case, uuid => shortId "INV-" uuid
  | incident, uuid => shortId "INC-" uuid
  | _, uuid => uuid

/-- One of the first `drawn` uuids makes an id that is stored, or that another of them makes. -/
def Taken (env : Env) (db : Database) (drawn : Nat) (kind : IdKind) : Prop :=
  ∃ n < drawn, kind.ofUuid (env.uuid4 n) ∈ kind.stored db ∨
    ∃ m < n, kind.ofUuid (env.uuid4 m) = kind.ofUuid (env.uuid4 n)

end IdKind

/-! ## Causes -/

inductive Cause where
  | idTaken (kind : IdKind)
  /-- the offset asked for is past the 64-bit integers -/
  | offset (n : Int)
  /-- no client can be built from the stored credentials -/
  | credentials
  /-- the client raises a `SplunkError` -/
  | splunkError
  /-- the client raises anything else -/
  | clientFault
  | modelError
  /-- the model's JSON holds no verdict -/
  | noVerdict
  | connector
  | channel
  deriving DecidableEq, Repr

/-- A request that drew the first `drawn` uuids may end in this exception, exposed to these
    causes. -/
inductive Failure (rt : Runtime) (env : Env) (db : Database) (causes : List Cause) (drawn : Nat) :
    Exc → Prop
  | refused (status : Nat) (detail : ErrorDetail) : Failure rt env db causes drawn (.http status detail)
  | idTaken (kind : IdKind) (h : .idTaken kind ∈ causes) (htaken : kind.Taken env db drawn) :
    Failure rt env db causes drawn .integrity
  | offset (n : Int) (h : .offset n ∈ causes) (hlarge : 2 ^ 63 ≤ n) :
    Failure rt env db causes drawn (.other "OverflowError")
  | credentials (h : .credentials ∈ causes) (row : TenantCredentialRow) (ex : Exc)
    (hrow : row ∈ db.tenantCredentials.rows)
    (hex : resolveSplunkClient rt (some row) .managed = .error ex ∨
      resolveAiModel rt (some row) .managed = .error ex) : Failure rt env db causes drawn ex
  | splunkError (h : .splunkError ∈ causes) (client : SplunkClient) (k : Nat)
    (spl earliest latest : String) (e : SplunkError)
    (hex : env.search client k spl earliest latest = .error (.splunk e)) :
    Failure rt env db causes drawn (.splunk e)
  | clientFault (h : .clientFault ∈ causes) (client : SplunkClient) (k : Nat)
    (spl earliest latest : String) (ex : Exc) (hother : ∀ e, ex ≠ .splunk e)
    (hex : env.search client k spl earliest latest = .error ex) : Failure rt env db causes drawn ex
  | modelError (h : .modelError ∈ causes) (model : AIModel) (k : Nat) (system user : String)
    (ex : Exc) (hex : env.complete model k system user = .error ex) :
    Failure rt env db causes drawn ex
  | noVerdict (h : .noVerdict ∈ causes) (model : AIModel) (k : Nat) (system user text : String)
    (d : Detection) (ex : Exc) (hanswer : env.complete model k system user = .ok text)
    (hex : TriageAgent.conclude rt d (.ok text) = .error ex) : Failure rt env db causes drawn ex
  | connector (h : .connector ∈ causes) (c : ActionConnector) (actionType target : String) (ex : Exc)
    (hc : c ∈ env.connectors) (hex : c.execute actionType target = .error ex) :
    Failure rt env db causes drawn ex
  | channel (h : .channel ∈ causes) (send : Notification → Except Exc Bool) (n : Notification)
    (ex : Exc) (hc : .webhook send ∈ env.channels) (hex : send n = .error ex) :
    Failure rt env db causes drawn ex

/-- What a request is exposed to. -/
def causes : Request → List Cause
  | .search _ _ _ _ => [.clientFault]
  | .runDetections _ => [.credentials, .splunkError, .clientFault]
  | .runInvestigations _ =>
    [.credentials, .splunkError, .clientFault, .modelError, .noVerdict, .idTaken .case,
      .idTaken .incident, .channel]
  | .case _ _ (.execute _) => [.connector, .channel]
  | .case _ _ (.note _) => [.idTaken .note]
  | .admin _ (.createUser _) => [.idTaken .user]
  | .admin _ (.toggleRule _ _) => [.idTaken .ruleState]
  | .provider _ (.createTenant _) => [.idTaken .tenant, .idTaken .user]
  | .read _ (.investigations q) => [.offset q.offset]
  | .read _ (.audit _ offset) => [.offset offset]
  | _ => []

/-- Only for these causes, in the state it is raised in. -/
def Fails (rt : Runtime) (env : Env) (db : Database) (cs : List Cause) (ex : Exc) (t : Session) : Prop :=
  Failure rt env db cs t.uuids ex

/-! ## Statements that always return -/

section

variable {E : Exc → Session → Prop} {α : Type}

@[grind ←] theorem get_silent : Raises E (get : ApiM Session) := Raises.of_ok fun _ => ⟨_, _, rfl⟩

@[grind ←] theorem modify_silent (f : Session → Session) : Raises E (modify f : ApiM PUnit) :=
  Raises.of_ok fun _ => ⟨_, _, rfl⟩

@[grind ←] theorem query_silent (f : Database → α) : Raises E (query f) :=
  Raises.of_ok fun _ => ⟨_, _, rfl⟩

@[grind ←] theorem commit_silent : Raises E commit := Raises.of_ok fun _ => ⟨_, _, rfl⟩

@[grind ←] theorem readClock_silent (env : Env) : Raises E (readClock env) :=
  Raises.of_ok fun _ => ⟨_, _, rfl⟩

@[grind ←] theorem uuidHex_silent (env : Env) : Raises E (uuidHex env) :=
  Raises.of_ok fun _ => ⟨_, _, rfl⟩

@[grind ←] theorem signToken_silent (k : Token) : Raises E (signToken k) :=
  Raises.of_ok fun _ => ⟨_, _, rfl⟩

section

variable {ρ : Type} [Keyed ρ String] {T : TableRef (KeyedTable ρ)}

@[grind ←] theorem selectAll_silent (p : ρ → Bool) : Raises E (selectAll T p) :=
  Raises.of_ok fun _ => ⟨_, _, rfl⟩

@[grind ←] theorem sessionGet_silent (k : String) : Raises E (sessionGet T k) :=
  Raises.of_ok fun _ => ⟨_, _, rfl⟩

@[grind ←] theorem updateRow_silent (k : String) (f : ρ → ρ)
    (hf : ∀ r, Keyed.key (f r) = Keyed.key r) : Raises E (updateRow T k f hf) :=
  Raises.of_ok fun _ => ⟨_, _, rfl⟩

@[grind ←] theorem deleteRow_silent (k : String) : Raises E (deleteRow T k) :=
  Raises.of_ok fun _ => ⟨_, _, rfl⟩

end

@[grind ←] theorem AuditService.recordEntry_silent (rt : Runtime) (env : Env) (e : AuditEntry) :
    Raises E (AuditService.recordEntry rt env e) :=
  Raises.of_ok fun s => ⟨_, _, AuditService.recordEntry_run rt env e s⟩

@[grind ←] theorem MeteringService.record_silent (rt : Runtime) (env : Env) (tenantId kind : String)
    (quantity : Int) (detail : String) :
    Raises E (MeteringService.record rt env tenantId kind quantity detail) := by
  refine Raises.of_ok fun s => ?_
  unfold MeteringService.record
  split
  · exact ⟨_, _, rfl⟩
  · exact ⟨_, _, rfl⟩

@[grind ←] theorem UserRepository.get_silent (tenantId userId : String) :
    Raises E (UserRepository.get tenantId userId) :=
  Raises.of_ok fun s => ⟨_, _, UserRepository.get_run tenantId userId s⟩

@[grind ←] theorem InvestigationRepository.getRow_silent (tenantId invId : String) :
    Raises E (InvestigationRepository.getRow tenantId invId) :=
  Raises.of_ok fun s => ⟨_, _, InvestigationRepository.getRow_run tenantId invId s⟩

@[grind ←] theorem InvestigationRepository.flush_silent (row : InvestigationRow) :
    Raises E (InvestigationRepository.flush row) := updateRow_silent _ _ _

end

end SentinelAI
