import SentinelAI.Api.Deps
import SentinelAI.Services.Audit
import SentinelAI.Services.Quotas

/-
  The tenant-scoped API (`app/api/routes.py`). A handler resolves its dependencies in the
  order of its parameters and then validates its body.
-/

namespace SentinelAI

namespace Routes

/-! ## Authentication -/

structure LoginRequest where
  username : String
  password : String
  tenant : String := "default"
  deriving DecidableEq, Repr

structure TokenResponse where
  accessToken : Token
  role : String
  tenant : String
  deriving DecidableEq, Repr

def login (rt : Runtime) (env : Env) (body : LoginRequest) : ApiM TokenResponse := do
  match ← TenantRepository.getByName body.tenant with
  | none => throw (httpError 401 "Invalid credentials")
  | some tenant =>
    raiseIf (tenant.status == "suspended") (httpError 403 "Tenant is suspended")
    match ← UserRepository.authenticate rt tenant.id body.username body.password with
    | none =>
      AuditService.recordEntry rt env
        { tenantId := tenant.id
          actor := body.username
          action := "auth.login.failed"
          targetType := "user"
          targetId := body.username }
      -- the audit record outlives the 401
      commit
      throw (httpError 401 "Invalid credentials")
    | some user =>
      AuditService.recordEntry rt env
        { tenantId := tenant.id
          actor := user.username
          action := "auth.login.success"
          targetType := "user"
          targetId := user.id }
      let token ← issueToken rt env
        { userId := user.id, username := user.username, tenantId := tenant.id, role := user.role }
      return { accessToken := token, role := user.role, tenant := tenant.name }

def logout (rt : Runtime) (env : Env) (auth : Authorization) : ApiM Unit := do
  let principal ← Deps.getPrincipal env auth
  match principal.jti with
  | some jti => TokenRepository.revoke env principal.tenantId jti
  | none => pure ()
  AuditService.recordEntry rt env
    { tenantId := principal.tenantId
      actor := principal.username
      action := "auth.logout"
      targetType := "user"
      targetId := principal.userId }

/-! ## Agents -/

def search (env : Env) (auth : Authorization) (spl earliest latest : String) :
    ApiM SearchResult := do
  let _ ← Deps.require env auth .searchRun
  match ← attempt (SplunkClient.managed.search env spl earliest latest) with
  | .ok result => return result
  | .error (.splunk e) => throw (httpError 400 e.message)
  | .error e => throw e

def runDetections (rt : Runtime) (env : Env) (auth : Authorization) : ApiM (List Detection) := do
  let principal ← Deps.require env auth .detectionRun
  let orch ← Deps.getTenantOrchestrator rt principal
  orch.runDetections env []

structure InvestigationList where
  investigations : List Investigation
  total : Nat
  limit : Int
  offset : Int
  deriving DecidableEq

/-- The quota check of `run_investigations`. -/
def checkSearchQuota (env : Env) (tenantId plan : String) (want : Int) : ApiM Unit := do
  match ← attempt (QuotaService.checkOrRaise env tenantId plan kindSearch want) with
  | .ok _ => return ()
  | .error (.quota kind used limit) =>
    throw (.http 429 (.quotaExceeded kind used limit
      "Monthly search quota exceeded. Upgrade plan to continue."))
  | .error e => throw e

/-- Meters the model calls of a pipeline run that found something. -/
def meterModelCalls (rt : Runtime) (env : Env) (tenantId : String)
    (investigations : List Investigation) : ApiM Unit := do
  if !investigations.isEmpty then
    let _ ← MeteringService.record rt env tenantId kindModelCall (investigations.length : Int)
      "triage"

/-- Stores and audits one investigation. -/
def saveInvestigation (rt : Runtime) (env : Env) (principal : Principal) (inv : Investigation) :
    ApiM Unit := do
  let _ ← InvestigationRepository.save env principal.tenantId inv
  AuditService.recordEntry rt env
    { tenantId := principal.tenantId
      actor := principal.username
      action := "investigation.created"
      targetType := "investigation"
      targetId := inv.id
      detail := some [("severity", .str inv.detection.severity.value),
        ("title", .str inv.detection.title)] }

/-- `_incident_risk`. -/
def incidentRisk (incident : Incident) (investigations : List Investigation) : Int :=
  (((investigations.filter fun i => incident.investigationIds.contains i.id).map riskFrom).max?).getD 0

/-- The body of `run_investigations`, its dependencies resolved. -/
def runInvestigationsFor (rt : Runtime) (env : Env) (principal : Principal)
    (orch : Orchestrator) : ApiM InvestigationList := do
  let disabled ← RuleStateRepository.disabledRuleIds principal.tenantId
  let enabledRuleCount : Int := (defaultRules.countP fun r => !disabled.contains r.ruleId : Nat)
  let tenant ← TenantRepository.get principal.tenantId
  let plan := (tenant.map TenantRow.plan).getD "free"
  checkSearchQuota env principal.tenantId plan enabledRuleCount
  let investigations ← orch.runFullPipeline rt env disabled
  let _ ← MeteringService.record rt env principal.tenantId kindSearch enabledRuleCount "detection run"
  meterModelCalls rt env principal.tenantId investigations
  investigations.forM (saveInvestigation rt env principal)
  let (items, total) ← InvestigationRepository.list principal.tenantId none none none 50 0
  let correlated ← correlate env items
  let incidents := correlated.map fun inc => { inc with riskScore := incidentRisk inc items }
  IncidentRepository.replaceAll env principal.tenantId incidents
  incidents.forM fun inc => do
    let _ ← NotificationService.maybeAlertHighRisk rt env principal.tenantId inc.title
      inc.severity.value inc.riskScore
  return { investigations := items, total := total, limit := items.length, offset := 0 }

def runInvestigations (rt : Runtime) (env : Env) (auth : Authorization) :
    ApiM InvestigationList := do
  let principal ← Deps.require env auth .investigationRun
  let orch ← Deps.getTenantOrchestrator rt principal
  runInvestigationsFor rt env principal orch

/-! ## Investigations -/

structure ListQuery where
  status : Option String := none
  severity : Option String := none
  assignee : Option String := none
  limit : Int := 50
  offset : Int := 0
  deriving DecidableEq, Repr

def listInvestigations (env : Env) (auth : Authorization) (q : ListQuery) :
    ApiM InvestigationList := do
  let principal ← Deps.require env auth .investigationRead
  Deps.validateRange "limit" 1 (some 200) q.limit
  Deps.validateRange "offset" 0 none q.offset
  bindOffset q.offset
  let (items, total) ← InvestigationRepository.list principal.tenantId q.status q.severity
    q.assignee q.limit.toNat q.offset.toNat
  return { investigations := items, total := total, limit := q.limit, offset := q.offset }

def getInvestigation (env : Env) (auth : Authorization) (invId : String) :
    ApiM Investigation := do
  let principal ← Deps.require env auth .investigationRead
  orRaise (httpError 404 "Investigation not found")
    (← InvestigationRepository.get principal.tenantId invId)

/-- An audit entry about an investigation. -/
def investigationEntry (principal : Principal) (action invId : String)
    (detail : Option (List (String × JsonValue))) : AuditEntry where
  tenantId := principal.tenantId
  actor := principal.username
  action := action
  targetType := "investigation"
  targetId := invId
  detail := detail

def approveAction (rt : Runtime) (env : Env) (auth : Authorization) (invId : String) (i : Int) :
    ApiM Investigation := do
  let principal ← Deps.require env auth .actionApprove
  let inv ← orRaise (httpError 404 "Investigation or action not found")
    (← InvestigationRepository.approveAction principal.tenantId invId i)
  AuditService.recordEntry rt env
    (investigationEntry principal "action.approved" invId (some [("action_index", .int i)]))
  return inv

/-- The answer to an execution that cannot run. -/
def executeError : CaseError → Exc
  | .notApproved => httpError 409 "Action must be approved before execution"
  | _ => httpError 404 "Investigation or action not found"

/-- `None` as JSON. -/
def optionJson : Option String → JsonValue
  | some s => .str s
  | none => .null

/-- Meters, audits and announces an executed action. -/
def afterExecution (rt : Runtime) (env : Env) (principal : Principal) (invId : String) (i : Int)
    (executed : IncidentAction) : ApiM Unit := do
  let _ ← MeteringService.record rt env principal.tenantId kindAction 1 executed.actionType
  AuditService.recordEntry rt env
    (investigationEntry principal "action.executed" invId
      (some [("action_index", .int i), ("action_type", .str executed.actionType),
        ("status", optionJson executed.executionStatus)]))
  let status := executed.executionStatus.getD ""
  let _ ← NotificationService.alertActionExecuted env principal.tenantId executed.actionType
    executed.target (if status == "" then "unknown" else status)

def executeAction (rt : Runtime) (env : Env) (auth : Authorization) (invId : String) (i : Int) :
    ApiM Investigation := do
  let principal ← Deps.require env auth .actionApprove
  match ← InvestigationRepository.executeAction env principal.tenantId invId i with
  | .error e => throw (executeError e)
  | .ok inv =>
    let executed ← orRaise (.other "IndexError") (actionAt inv i)
    afterExecution rt env principal invId i executed
    return inv

/-- The answer to a status change that is refused. -/
def statusError (status : String) : CaseError → Exc
  | .illegalTransition => httpError 409 ("Illegal status transition to '" ++ status ++ "'")
  | .invalidStatus => httpError 422 ("Unknown status '" ++ status ++ "'")
  | _ => httpError 404 "Investigation not found"

def transitionStatus (rt : Runtime) (env : Env) (auth : Authorization) (invId status : String) :
    ApiM Investigation := do
  let principal ← Deps.require env auth .caseWrite
  match ← CaseWorkflowMixin.transitionStatus env principal.tenantId invId status with
  | .error e => throw (statusError status e)
  | .ok inv =>
    AuditService.recordEntry rt env
      (investigationEntry principal "case.status_changed" invId (some [("status", .str status)]))
    return inv

def getSla (env : Env) (auth : Authorization) (invId : String) : ApiM Sla := do
  let principal ← Deps.require env auth .investigationRead
  orRaise (httpError 404 "Investigation not found")
    (← CaseWorkflowMixin.sla env principal.tenantId invId)

def assignInvestigation (rt : Runtime) (env : Env) (auth : Authorization) (invId : String)
    (assignee : Option String) : ApiM Investigation := do
  let principal ← Deps.require env auth .caseWrite
  let inv ← orRaise (httpError 404 "Investigation not found")
    (← InvestigationRepository.setAssignee principal.tenantId invId assignee)
  AuditService.recordEntry rt env
    (investigationEntry principal "case.assigned" invId (some [("assignee", optionJson assignee)]))
  return inv

structure NoteResponse where
  id : String
  author : String
  body : String
  createdAt : Time
  deriving DecidableEq, Repr

def noteResponse (n : CaseNoteRow) : NoteResponse := ⟨n.id, n.author, n.body, n.createdAt⟩

def addNote (rt : Runtime) (env : Env) (auth : Authorization) (invId body : String) :
    ApiM NoteResponse := do
  let principal ← Deps.require env auth .caseWrite
  Deps.validateLength "body" 1 5000 body
  let note ← orRaise (httpError 404 "Investigation not found")
    (← InvestigationRepository.addNote env principal.tenantId invId principal.username body)
  AuditService.recordEntry rt env (investigationEntry principal "case.note_added" invId none)
  return noteResponse note

def listNotes (env : Env) (auth : Authorization) (invId : String) :
    ApiM (List NoteResponse) := do
  let principal ← Deps.require env auth .investigationRead
  let notes ← InvestigationRepository.listNotes principal.tenantId invId
  return notes.map noteResponse

/-! ## Rules -/

structure RuleResponse where
  rule : DetectionRule
  enabled : Bool
  deriving DecidableEq, Repr

def listRules (env : Env) (auth : Authorization) : ApiM (List RuleResponse) := do
  let principal ← Deps.require env auth .investigationRead
  let disabled ← RuleStateRepository.disabledRuleIds principal.tenantId
  return defaultRules.map fun r => ⟨r, !disabled.contains r.ruleId⟩

def toggleRule (rt : Runtime) (env : Env) (auth : Authorization) (ruleId : String)
    (enabled : Bool) : ApiM RuleResponse := do
  let principal ← Deps.require env auth .admin
  let rule ← orRaise (httpError 404 "Rule not found")
    (defaultRules.find? fun r => r.ruleId == ruleId)
  RuleStateRepository.setEnabled env principal.tenantId ruleId enabled
  AuditService.recordEntry rt env
    { tenantId := principal.tenantId
      actor := principal.username
      action := "rule.toggled"
      targetType := "rule"
      targetId := ruleId
      detail := some [("enabled", .bool enabled)] }
  return ⟨rule, enabled⟩

structure MitreCoverage where
  coverage : List (String × Nat)
  totalRules : Nat
  enabledRules : Nat
  deriving DecidableEq, Repr

/-- The tactics of the enabled rules with how many rules cover each. -/
def coverageOf (rules : List DetectionRule) : List (String × Nat) :=
  let tactics := rules.flatMap DetectionRule.mitreTactics
  tactics.eraseDups.map fun t => (t, tactics.count t)

def mitreCoverage (env : Env) (auth : Authorization) : ApiM MitreCoverage := do
  let principal ← Deps.require env auth .investigationRead
  let disabled ← RuleStateRepository.disabledRuleIds principal.tenantId
  let rules := defaultRules.filter fun r => !disabled.contains r.ruleId
  return ⟨coverageOf rules, defaultRules.length, rules.length⟩

/-! ## Notifications, incidents, audit -/

/-- The captured notifications of the tenant; none are captured without a capture channel. -/
def listNotifications (env : Env) (auth : Authorization) : ApiM (List Notification) := do
  let principal ← Deps.require env auth .investigationRead
  let captures := env.channels.any fun c => match c with
    | .capture => true
    | .webhook _ => false
  if !captures then return []
  return (← get).captured.filter fun n => n.tenantId == principal.tenantId

def listIncidents (env : Env) (auth : Authorization) : ApiM (List Incident) := do
  let principal ← Deps.require env auth .investigationRead
  IncidentRepository.list principal.tenantId

def getIncident (env : Env) (auth : Authorization) (incidentId : String) : ApiM Incident := do
  let principal ← Deps.require env auth .investigationRead
  orRaise (httpError 404 "Incident not found")
    (← IncidentRepository.get principal.tenantId incidentId)

structure AuditList where
  entries : List (Nat × AuditLogRow)
  chainValid : Bool

def listAudit (rt : Runtime) (env : Env) (auth : Authorization) (limit offset : Int) :
    ApiM AuditList := do
  let principal ← Deps.require env auth .auditRead
  Deps.validateRange "limit" 1 (some 500) limit
  Deps.validateRange "offset" 0 none offset
  bindOffset offset
  let entries ← AuditService.listEntries principal.tenantId limit.toNat offset.toNat
  let valid ← AuditService.chainValid rt principal.tenantId
  return ⟨entries, valid⟩

end Routes

end SentinelAI
