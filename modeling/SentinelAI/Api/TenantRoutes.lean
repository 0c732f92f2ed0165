import SentinelAI.Api.Routes

/-
  Tenant self-service (`app/api/tenant_routes.py`): settings, credentials, usage and quota,
  for the tenant's ADMIN. Secrets go in and never come out.
-/

namespace SentinelAI

namespace TenantRoutes

structure TenantSettings where
  tenant : String
  plan : String
  status : String
  settings : List (String × JsonValue)

def settingsResponse (t : TenantRow) : TenantSettings := ⟨t.name, t.plan, t.status, t.settings⟩

/-- An audit entry about the tenant itself. -/
def tenantEntry (principal : Principal) (action : String)
    (detail : Option (List (String × JsonValue))) : AuditEntry where
  tenantId := principal.tenantId
  actor := principal.username
  action := action
  targetType := "tenant"
  targetId := principal.tenantId
  detail := detail

/-- A sorted list of texts as JSON. -/
def sortedJson (xs : List String) : JsonValue := .arr ((xs.insertionSort (· ≤ ·)).map .str)

def getSettings (env : Env) (auth : Authorization) : ApiM TenantSettings := do
  let principal ← Deps.require env auth .admin
  let tenant ← orRaise (httpError 404 "Tenant not found")
    (← TenantRepository.get principal.tenantId)
  return settingsResponse tenant

def updateSettings (rt : Runtime) (env : Env) (auth : Authorization)
    (settings : List (String × JsonValue)) : ApiM TenantSettings := do
  let principal ← Deps.require env auth .admin
  let tenant ← orRaise (httpError 404 "Tenant not found")
    (← TenantRepository.updateSettings principal.tenantId settings)
  AuditService.recordEntry rt env
    (tenantEntry principal "tenant.settings_updated"
      (some [("keys", sortedJson (settings.map Prod.fst))]))
  return settingsResponse tenant

def getCredentials (env : Env) (auth : Authorization) : ApiM CredentialView := do
  let principal ← Deps.require env auth .admin
  CredentialRepository.view principal.tenantId

/-- A field whose value, if given, must be one of a set. -/
def checkChoice (value : Option String) (valid : List String) (detail : String → String) :
    ApiM Unit :=
  match value with
  | none => pure ()
  | some v => raiseIf (!valid.contains v) (httpError 422 (detail v))

/-- The fields of a request that are given. -/
def changedFields (u : UpdateCredentials) : List String :=
  [("mode", u.mode), ("splunk_backend", u.splunkBackend), ("splunk_host", u.splunkHost),
    ("splunk_token", u.splunkToken), ("splunk_mcp_url", u.splunkMcpUrl),
    ("splunk_mcp_token", u.splunkMcpToken), ("ai_backend", u.aiBackend), ("ai_model", u.aiModel),
    ("ai_token", u.aiToken)].filterMap fun (k, v) => v.map fun _ => k

def updateCredentials (rt : Runtime) (env : Env) (auth : Authorization) (body : UpdateCredentials) :
    ApiM CredentialView := do
  let principal ← Deps.require env auth .admin
  checkChoice body.mode ["managed", "byo"] fun v => "Invalid mode '" ++ v ++ "'"
  checkChoice body.splunkBackend ["mock", "live", "mcp"] fun _ => "Invalid splunk_backend"
  checkChoice body.aiBackend ["mock", "live"] fun _ => "Invalid ai_backend"
  let _ ← CredentialRepository.upsert env principal.tenantId body
  -- which fields changed, never their values
  AuditService.recordEntry rt env
    (tenantEntry principal "tenant.credentials_updated"
      (some [("changed_fields", sortedJson (changedFields body))]))
  CredentialRepository.view principal.tenantId

structure UsageResponse where
  tenant : String
  byKind : List (String × KindUsage)
  totalCostCents : Int
  totalCostUsd : ℚ
  deriving DecidableEq

def getUsage (env : Env) (auth : Authorization) : ApiM UsageResponse := do
  let principal ← Deps.require env auth .admin
  let tenant ← TenantRepository.get principal.tenantId
  let rollup ← MeteringService.rollup principal.tenantId none none
  return ⟨(tenant.map TenantRow.name).getD principal.tenantId, rollup.byKind,
    rollup.totalCostCents, rollup.totalCostUsd⟩

structure QuotaStatusItem where
  kind : String
  used : Int
  limit : Int
  remaining : Int
  warn : Bool
  deriving DecidableEq, Repr

structure QuotaResponse where
  tenant : String
  plan : String
  quotas : List QuotaStatusItem
  deriving DecidableEq, Repr

/-- A status as the response shows it. -/
def quotaStatusItem (st : QuotaStatus) : QuotaStatusItem :=
  ⟨st.kind, st.used, st.limit, st.remaining, st.warn⟩

def getQuota (env : Env) (auth : Authorization) : ApiM QuotaResponse := do
  let principal ← Deps.require env auth .admin
  let tenant ← TenantRepository.get principal.tenantId
  let plan := (tenant.map TenantRow.plan).getD "free"
  let searches ← QuotaService.status env principal.tenantId plan kindSearch 0
  let modelCalls ← QuotaService.status env principal.tenantId plan kindModelCall 0
  return ⟨(tenant.map TenantRow.name).getD principal.tenantId, plan,
    [quotaStatusItem searches, quotaStatusItem modelCalls]⟩

end TenantRoutes

end SentinelAI
