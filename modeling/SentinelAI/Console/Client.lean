import SentinelAI.Api.System

/-
  The operator console (`frontend/src`): the API client and its token (`api/client.ts`), the
  auth state (`hooks/useAuth.tsx`), the permissions it knows of (`api/rbac.ts`) and what its
  pages ask the service for. What a page shows of an answer is left out.
-/

namespace SentinelAI

namespace Console

/-! ## Permissions -/

/-- `Permission` of `api/rbac.ts`. -/
inductive Permission where
  | searchRun
  | detectionRun
  | investigationRead
  | investigationRun
  | actionApprove
  | caseWrite
  | auditRead
  | admin
  deriving DecidableEq, Repr

/-- `ROLE_PERMISSIONS`, with `?? []` for a role that is not in it. A name every object has, such
    as `constructor`, would be looked up there: no role is one. -/
def rolePermissions : String → List Permission
  | "viewer" => [.investigationRead]
  | "analyst" => [.investigationRead, .searchRun, .detectionRun, .investigationRun, .caseWrite]
  | "responder" =>
    [.investigationRead, .searchRun, .detectionRun, .investigationRun, .caseWrite, .actionApprove]
  | "admin" =>
    [.investigationRead, .searchRun, .detectionRun, .investigationRun, .caseWrite, .actionApprove,
      .auditRead, .admin]
  | _ => []

def can (role : Option String) (permission : Permission) : Bool :=
  match role with
  | none => false
  | some role =>
    let perms := rolePermissions role
    perms.contains .admin || perms.contains permission

/-! ## The auth state -/

/-- `authToken` of the API client and the state of `AuthProvider`. -/
structure Tab where
  authToken : Option Token := none
  username : Option String := none
  role : Option String := none
  tenant : Option String := none
  deriving DecidableEq, Repr

namespace Tab

def isAuthenticated (t : Tab) : Bool := t.username.isSome

/-- The header `request` sends. -/
def header (t : Tab) : Authorization :=
  match t.authToken with
  | some token => .bearer token
  | none => .missing

/-- `login`, once the service has answered. -/
def login (user : String) (resp : Routes.TokenResponse) : Tab where
  authToken := some resp.accessToken
  username := some user
  role := some resp.role
  tenant := some resp.tenant

/-- `logout`, whatever the service answers. -/
def logout : Tab := {}

end Tab

/-! ## What the pages ask for -/

inductive Ask where
  -- `DashboardPage`
  | listInvestigations (severity status : Option String)
  | runInvestigations
  -- `InvestigationDetailPage`
  | getInvestigation (id : String)
  | getSla (id : String)
  | listNotes (id : String)
  | transitionStatus (id status : String)
  | approveAction (id : String) (i : Nat)
  | executeAction (id : String) (i : Nat)
  | addNote (id body : String)
  -- `IncidentsPage`
  | listIncidents
  -- `RulesPage`
  | listRules
  | mitreCoverage
  | toggleRule (ruleId : String) (enabled : Bool)
  -- `AuditPage`
  | listAudit
  -- `AdminPage`
  | listUsers
  | createUser (username password role : String)
  | updateRole (userId role : String)
  | deleteUser (userId : String)

namespace Ask

/-- What `can` is asked before the page, or the control, is shown. -/
def gate : Ask → Option Permission
  | listInvestigations _ _ => none
  | runInvestigations => some .investigationRun
  | getInvestigation _ => none
  | getSla _ => none
  | listNotes _ => none
  | transitionStatus _ _ => some .caseWrite
  | approveAction _ _ => some .actionApprove
  | executeAction _ _ => some .actionApprove
  | addNote _ _ => some .caseWrite
  | listIncidents => none
  | listRules => none
  | mitreCoverage => none
  | toggleRule _ _ => some .admin
  | listAudit => some .auditRead
  | listUsers => some .admin
  | createUser _ _ _ => some .admin
  | updateRole _ _ => some .admin
  | deleteUser _ => some .admin

/-- The method of `api` a page calls. -/
def request (auth : Authorization) : Ask → Request
  | listInvestigations severity status =>
    .read auth (.investigations { status := status, severity := severity, limit := 100 })
  | runInvestigations => .runInvestigations auth
  | getInvestigation id => .read auth (.investigation id)
  | getSla id => .read auth (.sla id)
  | listNotes id => .read auth (.notes id)
  | transitionStatus id status => .case auth id (.status status)
  | approveAction id i => .case auth id (.approve i)
  | executeAction id i => .case auth id (.execute i)
  | addNote id body => .case auth id (.note body)
  | listIncidents => .read auth .incidents
  | listRules => .read auth .rules
  | mitreCoverage => .read auth .mitreCoverage
  | toggleRule ruleId enabled => .admin auth (.toggleRule ruleId enabled)
  | listAudit => .read auth (.audit 100 0)
  | listUsers => .read auth .users
  | createUser username password role => .admin auth (.createUser ⟨username, password, role⟩)
  | updateRole userId role => .admin auth (.updateRole userId role)
  | deleteUser userId => .admin auth (.deleteUser userId)

/-- What the page loads again once it has been answered. -/
def reloads : Ask → List Ask
  | transitionStatus id _ => [getSla id]
  | approveAction id _ => [getSla id]
  | executeAction id _ => [getSla id]
  | addNote id _ => [listNotes id]
  | toggleRule _ _ => [listRules, mitreCoverage]
  | createUser _ _ _ => [listUsers]
  | updateRole _ _ => [listUsers]
  | deleteUser _ => [listUsers]
  | _ => []

end Ask

/-- The tab shows what asks for it. -/
def Tab.shows (t : Tab) (a : Ask) : Bool :=
  t.isAuthenticated && a.gate.all fun p => can t.role p

/-! ## The console and the service -/

/-- A request of the console. -/
inductive Sent where
  | login (body : Routes.LoginRequest)
  | logout (auth : Authorization)
  | ask (a : Ask) (auth : Authorization)
  /-- of a page that has been answered, whoever is signed in by then -/
  | reload (a : Ask) (auth : Authorization)

def Sent.request : Sent → Request
  | login body => .login body
  | logout auth => .logout auth
  | ask a auth => a.request auth
  | reload a auth => a.request auth

/-- A request and what it was answered. -/
structure Reply where
  sent : Sent
  answer : Except Exc Body

/-- The tab once `await request(…)` returns or raises. -/
def Tab.receive (t : Tab) (r : Reply) : Tab :=
  match r.sent, r.answer with
  | .login body, .ok (.token resp) => .login body.username resp
  | _, _ => t

def Reply.reloads (r : Reply) : List Ask :=
  match r.sent, r.answer with
  | .ask a _, .ok _ => a.reloads
  | _, _ => []

/-- What a request is answered. -/
def answer (rt : Runtime) (w : World) (e : Event) : Except Exc Body :=
  match respond rt w e with
  | .ok body _ => .ok body
  | .error ex _ => .error ex

/-- A tab, the service, and what is under way between them. -/
structure System where
  world : World
  tab : Tab := {}
  sent : List Sent := []
  replies : List Reply := []

/-- What may happen next. Requests and answers overtake each other and get lost, and the
    service serves others meanwhile. -/
inductive Step (rt : Runtime) (s : System) : System → Prop
  | signIn (body : Routes.LoginRequest) : Step rt s { s with sent := s.sent ++ [.login body] }
  /-- the request is on its way before the token is dropped -/
  | signOut (h : s.tab.isAuthenticated = true) :
    Step rt s { s with tab := .logout, sent := s.sent ++ [.logout s.tab.header] }
  | ask (a : Ask) (h : s.tab.shows a = true) :
    Step rt s { s with sent := s.sent ++ [.ask a s.tab.header] }
  | serve (env : Env) (q : Sent) (before after : List Sent) (h : s.sent = before ++ q :: after) :
    Step rt s { s with
      world := step rt s.world ⟨env, q.request⟩
      sent := before ++ after
      replies := s.replies ++ [⟨q, answer rt s.world ⟨env, q.request⟩⟩] }
  | receive (r : Reply) (before after : List Reply) (h : s.replies = before ++ r :: after) :
    Step rt s { s with
      tab := s.tab.receive r
      sent := s.sent ++ r.reloads.map fun a => .reload a (s.tab.receive r).header
      replies := before ++ after }
  | loseRequest (q : Sent) (before after : List Sent) (h : s.sent = before ++ q :: after) :
    Step rt s { s with sent := before ++ after }
  | loseReply (r : Reply) (before after : List Reply) (h : s.replies = before ++ r :: after) :
    Step rt s { s with replies := before ++ after }
  | other (e : Event) : Step rt s { s with world := step rt s.world e }

end Console

end SentinelAI
