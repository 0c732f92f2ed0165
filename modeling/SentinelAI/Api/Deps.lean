import SentinelAI.Agents.Orchestrator
import SentinelAI.Db.Repositories
import SentinelAI.Services.Credentials

/-
  Request dependencies (`app/api/deps.py`): who is asking, whether the role permits it, and
  the clients of the caller's tenant. They run before a request's body is validated.
-/

namespace SentinelAI

namespace Deps

/-- `get_principal` for a signed token. -/
def principalOfToken (env : Env) (token : Token) : ApiM Principal := do
  let now ← readClock env
  let issued := (← get).issued
  let principal ← ofExcept (principalFromToken issued now token)
  raiseIf (← TokenRepository.isRevoked token.jti) (httpError 401 "Token has been revoked")
  let tenant ← TenantRepository.get principal.tenantId
  raiseIf (tenant.any fun t => t.status == "suspended") (httpError 403 "Tenant is suspended")
  return principal

/-- `get_principal`. -/
def getPrincipal (env : Env) : Authorization → ApiM Principal
  | .missing => throw (httpError 401 "Missing bearer token")
  | .unsigned => throw (httpError 401 "Invalid or expired token")
  | .bearer token => principalOfToken env token

/-- `require(permission)`. -/
def require (env : Env) (auth : Authorization) (permission : Permission) : ApiM Principal := do
  let principal ← getPrincipal env auth
  raiseIf (!principal.can permission)
    (httpError 403
      ("Role '" ++ principal.role ++ "' lacks permission '" ++ permission.value ++ "'"))
  return principal

/-- `require_provider`. -/
def requireProvider (env : Env) (auth : Authorization) : ApiM Principal := do
  let principal ← getPrincipal env auth
  raiseIf (!principal.can .provider)
    (httpError 403 "Provider administration requires the provider_admin role")
  return principal

/-- `get_tenant_orchestrator`. -/
def getTenantOrchestrator (rt : Runtime) (principal : Principal) : ApiM Orchestrator := do
  let row ← CredentialRepository.getRow principal.tenantId
  let splunk ← ofExcept (resolveSplunkClient rt row .managed)
  let model ← ofExcept (resolveAiModel rt row .managed)
  return ⟨splunk, model⟩

/-- `Field(min_length=…, max_length=…)`. -/
def validateLength (field : String) (minLength maxLength : Nat) (value : String) : ApiM Unit :=
  raiseIf (!(minLength ≤ value.length && value.length ≤ maxLength))
    (.http 422 (.invalidField field))

/-- `Query(ge=…, le=…)`. -/
def validateRange (field : String) (lo : Int) (hi : Option Int) (value : Int) : ApiM Unit :=
  raiseIf (!(lo ≤ value && hi.all fun h => value ≤ h)) (.http 422 (.invalidField field))

end Deps

end SentinelAI
