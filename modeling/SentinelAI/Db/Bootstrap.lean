import SentinelAI.Api.ProviderRoutes

/-
  Seed data (`app/db/bootstrap.py`): a default tenant with its admin, and the platform's
  tenant with the provider administrator.
-/

namespace SentinelAI

/-- `TenantRepository.ensure`. -/
def TenantRepository.ensure (env : Env) (name : String) : ApiM TenantRow := do
  match ← getByName name with
  | some tenant => return tenant
  | none => create env name "active" "enterprise"

namespace Bootstrap

def defaultTenant : String := "default"

def defaultUser : String := "analyst"

def defaultPassword : String := "sentinel-demo"

def providerUser : String := "provider"

def providerPassword : String := "provider-demo"

/-- A user of the tenant, created if there is none of that name. -/
def ensureUser (env : Env) (tenantId username password role : String) : ApiM Unit := do
  let existing ← UserRepository.getByUsername tenantId username
  if existing.isNone then
    let _ ← UserRepository.create env tenantId username password role none

def seedDefault (env : Env) : ApiM Unit := do
  let tenant ← TenantRepository.ensure env defaultTenant
  ensureUser env tenant.id defaultUser defaultPassword "admin"
  let platform ← TenantRepository.ensure env platformTenant
  ensureUser env platform.id providerUser providerPassword "provider_admin"
  commit

end Bootstrap

end SentinelAI
