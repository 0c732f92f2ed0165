/-
  Role-based access control (`app/core/rbac.py`): roles map to permission sets, and the
  ADMIN wildcard grants every permission but the cross-tenant provider scope.
-/

namespace SentinelAI

inductive Permission where
  | searchRun
  | detectionRun
  | investigationRead
  | investigationRun
  | actionApprove
  | caseWrite
  | auditRead
  | admin
  | provider
  deriving DecidableEq, Repr

def Permission.value : Permission → String
  | .searchRun => "search:run"
  | .detectionRun => "detection:run"
  | .investigationRead => "investigation:read"
  | .investigationRun => "investigation:run"
  | .actionApprove => "action:approve"
  | .caseWrite => "case:write"
  | .auditRead => "audit:read"
  | .admin => "admin:*"
  | .provider => "provider:*"

inductive Role where
  | viewer
  | analyst
  | responder
  | admin
  | providerAdmin
  deriving DecidableEq, Repr

def Role.value : Role → String
  | .viewer => "viewer"
  | .analyst => "analyst"
  | .responder => "responder"
  | .admin => "admin"
  | .providerAdmin => "provider_admin"

def Role.all : List Role := [.viewer, .analyst, .responder, .admin, .providerAdmin]

/-- `Role(s)`; none is the `ValueError`. -/
def Role.ofValue? (s : String) : Option Role := Role.all.find? fun r => r.value == s

/-- `_ROLE_PERMISSIONS`. -/
def rolePermissions : Role → List Permission
  | .viewer => [.investigationRead]
  | .analyst => [.investigationRead, .searchRun, .detectionRun, .investigationRun, .caseWrite]
  | .responder =>
    [.investigationRead, .searchRun, .detectionRun, .investigationRun, .caseWrite, .actionApprove]
  | .admin =>
    [.searchRun, .detectionRun, .investigationRead, .investigationRun, .actionApprove, .caseWrite,
      .auditRead, .admin]
  | .providerAdmin => [.provider]

def permissionsFor (role : String) : List Permission :=
  match Role.ofValue? role with
  | some r => rolePermissions r
  | none => []

def hasPermission (role : String) (permission : Permission) : Bool :=
  let perms := permissionsFor role
  if perms.contains permission then true
  -- the ADMIN wildcard never grants the provider scope
  else if permission = .provider then false
  else perms.contains .admin

theorem Role.value_of_ofValue? {s : String} {r : Role} (h : Role.ofValue? s = some r) :
    r.value = s := by
  simpa using List.find?_some h

/-- The provider scope is held by one role only. -/
theorem hasPermission_provider (role : String) :
    hasPermission role .provider = true ↔ role = "provider_admin" := by
  constructor
  · intro h
    unfold hasPermission permissionsFor at h
    cases hr : Role.ofValue? role with
    | none => simp [hr] at h
    | some r =>
      rw [hr] at h
      rw [← Role.value_of_ofValue? hr]
      cases r <;> first | rfl | exact absurd h (by decide)
  · rintro rfl
    decide

end SentinelAI
