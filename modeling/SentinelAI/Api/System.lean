import SentinelAI.Api.AdminRoutes
import SentinelAI.Api.ProviderRoutes
import SentinelAI.Api.TenantRoutes
import SentinelAI.Lib.Run

/-
  The whole service as a state machine. A world is what outlives a request: the committed
  rows, the tokens signed and the notifications captured. A step takes one request in one
  environment, runs its handler in a session of its own, and commits if the handler
  returned and rolls back if it raised.
-/

namespace SentinelAI

open Lib

/-! ## Requests -/

/-- The requests on one investigation that write. -/
inductive CaseRequest where
  | approve (i : Int)
  | execute (i : Int)
  | status (target : String)
  | assign (assignee : Option String)
  | note (body : String)
  deriving DecidableEq, Repr

/-- `/admin` and `PUT /rules`. -/
inductive AdminRequest where
  | createUser (body : AdminRoutes.CreateUserRequest)
  | updateRole (userId role : String)
  | linkIdentity (userId externalId : String)
  | deleteUser (userId : String)
  | toggleRule (ruleId : String) (enabled : Bool)
  | updateSettings (settings : List (String × JsonValue))
  | updateCredentials (body : UpdateCredentials)

inductive ProviderRequest where
  | createTenant (body : ProviderRoutes.CreateTenantRequest)
  | setStatus (tenantId status : String)
  | setPlan (tenantId plan : String)
  | impersonate (tenantId : String)
  | listTenants
  | listUsers
  | usage

/-- The requests that only read. -/
inductive ReadRequest where
  | investigations (q : Routes.ListQuery)
  | investigation (invId : String)
  | sla (invId : String)
  | notes (invId : String)
  | rules
  | mitreCoverage
  | notifications
  | incidents
  | incident (incidentId : String)
  | audit (limit offset : Int)
  | users
  | settings
  | credentials
  | usage
  | quota

inductive Request where
  | login (body : Routes.LoginRequest)
  | logout (auth : Authorization)
  | search (auth : Authorization) (spl earliest latest : String)
  | runDetections (auth : Authorization)
  | runInvestigations (auth : Authorization)
  | case (auth : Authorization) (invId : String) (r : CaseRequest)
  | admin (auth : Authorization) (r : AdminRequest)
  | provider (auth : Authorization) (r : ProviderRequest)
  | read (auth : Authorization) (r : ReadRequest)

/-- The header a request carries; a login carries none. -/
def Request.auth : Request → Authorization
  | .login _ => .missing
  | .logout auth => auth
  | .search auth _ _ _ => auth
  | .runDetections auth => auth
  | .runInvestigations auth => auth
  | .case auth _ _ => auth
  | .admin auth _ => auth
  | .provider auth _ => auth
  | .read auth _ => auth

/-- What a request is answered with. -/
inductive Body where
  | empty
  | token (r : Routes.TokenResponse)
  | searchResult (r : SearchResult)
  | detections (r : List Detection)
  | investigations (r : Routes.InvestigationList)
  | investigation (r : Investigation)
  | note (r : Routes.NoteResponse)
  | notes (r : List Routes.NoteResponse)
  | sla (r : Sla)
  | rule (r : Routes.RuleResponse)
  | rules (r : List Routes.RuleResponse)
  | mitreCoverage (r : Routes.MitreCoverage)
  | notifications (r : List Notification)
  | incident (r : Incident)
  | incidents (r : List Incident)
  | audit (r : Routes.AuditList)
  | user (r : AdminRoutes.UserResponse)
  | users (r : List AdminRoutes.UserResponse)
  | settings (r : TenantRoutes.TenantSettings)
  | credentials (r : CredentialView)
  | usage (r : TenantRoutes.UsageResponse)
  | quota (r : TenantRoutes.QuotaResponse)
  | tenant (r : ProviderRoutes.TenantResponse)
  | tenants (r : List ProviderRoutes.TenantResponse)
  | providerUsers (r : List ProviderRoutes.ProviderUser)
  | impersonation (r : ProviderRoutes.ImpersonateResponse)
  | providerUsage (r : ProviderRoutes.ProviderUsage)

/-! ## Dispatch -/

def handleCase (rt : Runtime) (env : Env) (auth : Authorization) (invId : String) :
    CaseRequest → ApiM Body
  | .approve i => .investigation <$> Routes.approveAction rt env auth invId i
  | .execute i => .investigation <$> Routes.executeAction rt env auth invId i
  | .status target => .investigation <$> Routes.transitionStatus rt env auth invId target
  | .assign assignee => .investigation <$> Routes.assignInvestigation rt env auth invId assignee
  | .note body => .note <$> Routes.addNote rt env auth invId body

def handleAdmin (rt : Runtime) (env : Env) (auth : Authorization) : AdminRequest → ApiM Body
  | .createUser body => .user <$> AdminRoutes.createUser rt env auth body
  | .updateRole userId role => .user <$> AdminRoutes.updateRole rt env auth userId role
  | .linkIdentity userId externalId =>
    .user <$> AdminRoutes.linkIdentity rt env auth userId externalId
  | .deleteUser userId => (fun _ => .empty) <$> AdminRoutes.deleteUser rt env auth userId
  | .toggleRule ruleId enabled => .rule <$> Routes.toggleRule rt env auth ruleId enabled
  | .updateSettings settings => .settings <$> TenantRoutes.updateSettings rt env auth settings
  | .updateCredentials body => .credentials <$> TenantRoutes.updateCredentials rt env auth body

def handleProvider (rt : Runtime) (env : Env) (auth : Authorization) :
    ProviderRequest → ApiM Body
  | .createTenant body => .tenant <$> ProviderRoutes.createTenant rt env auth body
  | .setStatus tenantId status =>
    .tenant <$> ProviderRoutes.setTenantStatus rt env auth tenantId status
  | .setPlan tenantId plan => .tenant <$> ProviderRoutes.setTenantPlan rt env auth tenantId plan
  | .impersonate tenantId => .impersonation <$> ProviderRoutes.impersonate rt env auth tenantId
  | .listTenants => .tenants <$> ProviderRoutes.listTenants env auth
  | .listUsers => .providerUsers <$> ProviderRoutes.listAllUsers env auth
  | .usage => .providerUsage <$> ProviderRoutes.usage env auth

def handleRead (rt : Runtime) (env : Env) (auth : Authorization) : ReadRequest → ApiM Body
  | .investigations q => .investigations <$> Routes.listInvestigations env auth q
  | .investigation invId => .investigation <$> Routes.getInvestigation env auth invId
  | .sla invId => .sla <$> Routes.getSla env auth invId
  | .notes invId => .notes <$> Routes.listNotes env auth invId
  | .rules => .rules <$> Routes.listRules env auth
  | .mitreCoverage => .mitreCoverage <$> Routes.mitreCoverage env auth
  | .notifications => .notifications <$> Routes.listNotifications env auth
  | .incidents => .incidents <$> Routes.listIncidents env auth
  | .incident incidentId => .incident <$> Routes.getIncident env auth incidentId
  | .audit limit offset => .audit <$> Routes.listAudit rt env auth limit offset
  | .users => .users <$> AdminRoutes.listUsers env auth
  | .settings => .settings <$> TenantRoutes.getSettings env auth
  | .credentials => .credentials <$> TenantRoutes.getCredentials env auth
  | .usage => .usage <$> TenantRoutes.getUsage env auth
  | .quota => .quota <$> TenantRoutes.getQuota env auth

def handle (rt : Runtime) (env : Env) : Request → ApiM Body
  | .login body => .token <$> Routes.login rt env body
  | .logout auth => (fun _ => .empty) <$> Routes.logout rt env auth
  | .search auth spl earliest latest =>
    .searchResult <$> Routes.search env auth spl earliest latest
  | .runDetections auth => .detections <$> Routes.runDetections rt env auth
  | .runInvestigations auth => .investigations <$> Routes.runInvestigations rt env auth
  | .case auth invId r => handleCase rt env auth invId r
  | .admin auth r => handleAdmin rt env auth r
  | .provider auth r => handleProvider rt env auth r
  | .read auth r => handleRead rt env auth r

/-! ## Worlds and runs -/

structure World where
  db : Database
  issued : List Token := []
  captured : List Notification := []

/-- The session a request opens in a world. -/
abbrev World.session (w : World) : Session := .start w.db w.captured w.issued

/-- A request and what the world does while it runs. -/
structure Event where
  env : Env
  request : Request

/-- The handler in its own session, with `get_session`'s commit on success. -/
def respond (rt : Runtime) (w : World) (e : Event) : EStateM.Result Exc Session Body :=
  (do
    let body ← handle rt e.env e.request
    commit
    return body : ApiM Body).run (.start w.db w.captured w.issued)

/-- The world after a request: what was committed, whatever the answer. -/
def step (rt : Runtime) (w : World) (e : Event) : World :=
  let s := stateOf (respond rt w e)
  { db := s.committed, issued := s.issued, captured := s.captured }

/-- The connector invocations a request makes. -/
def connectorCalls (rt : Runtime) (w : World) (e : Event) : List ConnectorCall :=
  (stateOf (respond rt w e)).connectorCalls

/-- Whether a request was answered without an error. -/
def succeeds (rt : Runtime) (w : World) (e : Event) : Bool :=
  match respond rt w e with
  | .ok _ _ => true
  | .error _ _ => false

/-- Requests one after another. -/
def run (rt : Runtime) (w : World) (es : List Event) : World := es.foldl (step rt) w

/-- `step` as a relation. -/
def Stepped (rt : Runtime) (w : World) (e : Event) (w' : World) : Prop := w' = step rt w e

theorem steps_iff_run {rt : Runtime} {w w' : World} {es : List Event} :
    Steps (Stepped rt) w es w' ↔ w' = run rt w es := by
  induction es generalizing w with
  | nil =>
    constructor
    · intro h
      cases h
      rfl
    · rintro rfl
      exact Steps.nil _
  | cons e es ih =>
    constructor
    · intro h
      obtain _ | ⟨hs, h⟩ := h
      rw [hs] at h
      exact ih.mp h
    · intro h
      exact Steps.cons rfl (ih.mpr h)

end SentinelAI
