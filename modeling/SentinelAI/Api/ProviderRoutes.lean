import SentinelAI.Api.AdminRoutes

/-
  The provider plane (`app/api/provider_routes.py`): administration across tenants, reserved
  for the provider scope.
-/

namespace SentinelAI

/-- The tenant of the platform owner, and the audit partition of cross-tenant actions. -/
def platformTenant : String := "__platform__"

namespace ProviderRoutes

def validStatus : List String := ["active", "suspended", "trial"]

def validPlan : List String := ["free", "pro", "enterprise"]

structure TenantResponse where
  id : String
  name : String
  status : String
  plan : String
  userCount : Nat
  createdAt : Time
  deriving DecidableEq, Repr

def tenantResponse (t : TenantRow) (userCount : Nat) : TenantResponse :=
  ⟨t.id, t.name, t.status, t.plan, userCount, t.createdAt⟩

/-- An audit entry of the platform partition about a tenant. -/
def platformEntry (principal : Principal) (action tenantId : String)
    (detail : List (String × JsonValue)) : AuditEntry where
  tenantId := platformTenant
  actor := principal.username
  action := action
  targetType := "tenant"
  targetId := tenantId
  detail := some detail

def checkStatus (status : String) : ApiM Unit :=
  raiseIf (!validStatus.contains status) (httpError 422 ("Invalid status '" ++ status ++ "'"))

def checkPlan (plan : String) : ApiM Unit :=
  raiseIf (!validPlan.contains plan) (httpError 422 ("Invalid plan '" ++ plan ++ "'"))

/-- The tenants but the platform's own. -/
def customerTenants : ApiM (List TenantRow) := do
  let tenants ← TenantRepository.list
  return tenants.filter fun t => t.name != platformTenant

def listTenants (env : Env) (auth : Authorization) : ApiM (List TenantResponse) := do
  let _ ← Deps.requireProvider env auth
  let tenants ← customerTenants
  tenants.mapM fun t => do
    let members ← UserRepository.list t.id
    return tenantResponse t members.length

structure CreateTenantRequest where
  name : String
  plan : String := "pro"
  status : String := "active"
  adminUsername : String
  adminPassword : String
  deriving DecidableEq, Repr

def createTenant (rt : Runtime) (env : Env) (auth : Authorization) (body : CreateTenantRequest) :
    ApiM TenantResponse := do
  let principal ← Deps.requireProvider env auth
  Deps.validateLength "name" 1 200 body.name
  Deps.validateLength "admin_username" 1 150 body.adminUsername
  Deps.validateLength "admin_password" 8 200 body.adminPassword
  checkStatus body.status
  checkPlan body.plan
  let existing ← TenantRepository.getByName body.name
  raiseIf existing.isSome (httpError 409 "Tenant already exists")
  let tenant ← TenantRepository.create env body.name body.status body.plan
  let _ ← UserRepository.create env tenant.id body.adminUsername body.adminPassword
    Role.admin.value none
  AuditService.recordEntry rt env
    (platformEntry principal "provider.tenant_created" tenant.id
      [("name", .str body.name), ("plan", .str body.plan), ("admin", .str body.adminUsername)])
  return tenantResponse tenant 1

/-- What `set_tenant_status` and `set_tenant_plan` do once the tenant is changed. -/
def afterTenantChange (rt : Runtime) (env : Env) (principal : Principal) (tenantId action : String)
    (detail : List (String × JsonValue)) (changed : Option TenantRow) : ApiM TenantResponse := do
  let tenant ← orRaise (httpError 404 "Tenant not found") changed
  AuditService.recordEntry rt env (platformEntry principal action tenantId detail)
  let members ← UserRepository.list tenant.id
  return tenantResponse tenant members.length

def setTenantStatus (rt : Runtime) (env : Env) (auth : Authorization) (tenantId status : String) :
    ApiM TenantResponse := do
  let principal ← Deps.requireProvider env auth
  checkStatus status
  let tenant ← TenantRepository.setStatus tenantId status
  afterTenantChange rt env principal tenantId "provider.tenant_status_changed"
    [("status", .str status)] tenant

def setTenantPlan (rt : Runtime) (env : Env) (auth : Authorization) (tenantId plan : String) :
    ApiM TenantResponse := do
  let principal ← Deps.requireProvider env auth
  checkPlan plan
  let tenant ← TenantRepository.setPlan tenantId plan
  afterTenantChange rt env principal tenantId "provider.tenant_plan_changed"
    [("plan", .str plan)] tenant

structure ProviderUser where
  id : String
  username : String
  role : String
  tenantId : String
  tenantName : String
  deriving DecidableEq, Repr

def listAllUsers (env : Env) (auth : Authorization) : ApiM (List ProviderUser) := do
  let _ ← Deps.requireProvider env auth
  let tenants ← customerTenants
  let users ← tenants.mapM fun t => do
    let members ← UserRepository.list t.id
    return members.map fun u => (⟨u.id, u.username, u.role, t.id, t.name⟩ : ProviderUser)
  return users.flatten

structure ImpersonateResponse where
  accessToken : Token
  tenant : String
  role : String
  impersonatedUser : String
  deriving DecidableEq, Repr

def impersonate (rt : Runtime) (env : Env) (auth : Authorization) (tenantId : String) :
    ApiM ImpersonateResponse := do
  let principal ← Deps.requireProvider env auth
  let tenant ← orRaise (httpError 404 "Tenant not found") (← TenantRepository.get tenantId)
  let members ← UserRepository.list tenantId
  let admin ← orRaise (httpError 404 "Tenant has no admin to impersonate")
    (members.find? fun u => u.role == Role.admin.value)
  let token ← issueToken rt env
    { userId := admin.id, username := admin.username, tenantId := tenantId, role := admin.role }
  AuditService.recordEntry rt env
    (platformEntry principal "provider.impersonation" tenantId [("as_user", .str admin.username)])
  AuditService.recordEntry rt env
    { tenantId := tenantId
      actor := principal.username
      action := "provider.impersonation"
      targetType := "user"
      targetId := admin.id
      detail := some [("by_provider", .str principal.username)] }
  return ⟨token, tenant.name, admin.role, admin.username⟩

structure ProviderUsageRow where
  tenantId : String
  tenantName : String
  plan : String
  totalCostCents : Int
  totalCostUsd : ℚ
  deriving DecidableEq

structure ProviderUsage where
  tenants : List ProviderUsageRow
  grandTotalCents : Int
  grandTotalUsd : ℚ
  deriving DecidableEq

def usage (env : Env) (auth : Authorization) : ApiM ProviderUsage := do
  let _ ← Deps.requireProvider env auth
  let tenants ← customerTenants
  let rows ← tenants.mapM fun t => do
    let rollup ← MeteringService.rollup t.id none none
    return (⟨t.id, t.name, t.plan, rollup.totalCostCents, rollup.totalCostUsd⟩ : ProviderUsageRow)
  let grand := (rows.map ProviderUsageRow.totalCostCents).sum
  return ⟨rows, grand, roundTo 2 (grand / 100)⟩

end ProviderRoutes

end SentinelAI
