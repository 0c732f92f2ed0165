import SentinelAI.Api.Routes

/-
  Tenant-scoped user management (`app/api/admin_routes.py`). All endpoints require ADMIN.
-/

namespace SentinelAI

namespace AdminRoutes

/-- `_VALID_ROLES`. -/
def validRoles : List String := Role.all.map Role.value

structure UserResponse where
  id : String
  username : String
  role : String
  externalId : Option String
  createdAt : Time
  deriving DecidableEq, Repr

def toResponse (u : UserRow) : UserResponse := ⟨u.id, u.username, u.role, u.externalId, u.createdAt⟩

/-- An audit entry about a user. -/
def userEntry (principal : Principal) (action userId : String)
    (detail : Option (List (String × JsonValue))) : AuditEntry where
  tenantId := principal.tenantId
  actor := principal.username
  action := action
  targetType := "user"
  targetId := userId
  detail := detail

def listUsers (env : Env) (auth : Authorization) : ApiM (List UserResponse) := do
  let principal ← Deps.require env auth .admin
  let users ← UserRepository.list principal.tenantId
  return users.map toResponse

structure CreateUserRequest where
  username : String
  password : String
  role : String := "analyst"
  deriving DecidableEq, Repr

/-- The role check of `create_user` and `update_role`. -/
def checkRole (role : String) : ApiM Unit :=
  raiseIf (!validRoles.contains role) (httpError 422 ("Unknown role '" ++ role ++ "'"))

def createUser (rt : Runtime) (env : Env) (auth : Authorization) (body : CreateUserRequest) :
    ApiM UserResponse := do
  let principal ← Deps.require env auth .admin
  Deps.validateLength "username" 1 150 body.username
  Deps.validateLength "password" 8 200 body.password
  checkRole body.role
  let existing ← UserRepository.getByUsername principal.tenantId body.username
  raiseIf existing.isSome (httpError 409 "Username already exists")
  let user ← UserRepository.create env principal.tenantId body.username body.password body.role none
  AuditService.recordEntry rt env
    (userEntry principal "admin.user_created" user.id
      (some [("username", .str body.username), ("role", .str body.role)]))
  return toResponse user

def updateRole (rt : Runtime) (env : Env) (auth : Authorization) (userId role : String) :
    ApiM UserResponse := do
  let principal ← Deps.require env auth .admin
  checkRole role
  let user ← orRaise (httpError 404 "User not found")
    (← UserRepository.setRole principal.tenantId userId role)
  AuditService.recordEntry rt env
    (userEntry principal "admin.role_changed" userId (some [("role", .str role)]))
  return toResponse user

def linkIdentity (rt : Runtime) (env : Env) (auth : Authorization) (userId externalId : String) :
    ApiM UserResponse := do
  let principal ← Deps.require env auth .admin
  Deps.validateLength "external_id" 1 255 externalId
  let user ← orRaise (httpError 404 "User not found")
    (← UserRepository.linkExternalId principal.tenantId userId externalId)
  AuditService.recordEntry rt env
    (userEntry principal "admin.identity_linked" userId (some [("external_id", .str externalId)]))
  return toResponse user

def deleteUser (rt : Runtime) (env : Env) (auth : Authorization) (userId : String) :
    ApiM Unit := do
  let principal ← Deps.require env auth .admin
  raiseIf (userId == principal.userId) (httpError 409 "Cannot delete your own account")
  let ok ← UserRepository.delete principal.tenantId userId
  raiseIf (!ok) (httpError 404 "User not found")
  AuditService.recordEntry rt env (userEntry principal "admin.user_deleted" userId none)

end AdminRoutes

end SentinelAI
