import SentinelAI.Security.Issuance

/-
  Where the authority of a request comes from. `require` reads the role off the token, and a
  token carries the role its user had when it was signed. The row of the user is not looked
  at again: a role change or a deletion reaches the tokens signed afterwards.
-/

namespace SentinelAI

open Lib

/-- The step signs the token, for a row with its user, tenant and role. -/
def SignedForRow (rt : Runtime) (token : Token) (w : World) (e : Event) : Prop :=
  (step rt w e).issued = w.issued ++ [token] ∧ ∃ user ∈ w.db.users.rows,
    user.id = token.uid ∧ user.tenantId = token.tenantId ∧ user.role = token.role

/-- A token the platform has signed is one it started with, or one a step signed for a row. -/
theorem signed_in_run (rt : Runtime) {token : Token} (w : World) (es : List Event)
    (h : token ∈ (run rt w es).issued) :
    token ∈ w.issued ∨ Occurs (step rt) (SignedForRow rt token) w es := by
  induction es generalizing w with
  | nil => exact Or.inl h
  | cons e es ih =>
    obtain hmem | hocc := ih (step rt w e) h
    · obtain hsame | ⟨k, hnew, hk⟩ := step_signs rt w e
      · exact Or.inl (hsame ▸ hmem)
      · rw [hnew] at hmem
        obtain hmem | hmem := List.mem_append.mp hmem
        · exact Or.inl hmem
        · obtain rfl := List.mem_singleton.mp hmem
          obtain ⟨user, huser, hkey⟩ := hk.user
          refine Or.inr (Or.inl ⟨hnew, user, huser, ?_⟩)
          rw [hkey]
          exact ⟨rfl, rfl, rfl⟩
    · exact Or.inr (Or.inr hocc)

/-- The world with other users. -/
def World.withUsers (w : World) (users : KeyedTable UserRow) : World :=
  { w with db := { w.db with users := users } }

/-- Admission does not read the users. -/
theorem require_withUsers {env : Env} {auth : Authorization} {permission : Permission}
    {w : World} {p : Principal} {t : Session} (users : KeyedTable UserRow)
    (h : (Deps.require env auth permission).run w.session = .ok p t) :
    ∃ t', (Deps.require env auth permission).run (w.withUsers users).session = .ok p t' := by
  obtain ⟨⟨token, hid, hp, hcan⟩, _⟩ := require_eq_ok.mp h
  refine ⟨_, require_eq_ok.mpr ⟨⟨token, ?_, hp, hcan⟩, rfl⟩⟩
  exact ⟨hid.bearer, hid.signed, hid.unexpired, hid.complete, hid.unrevoked, hid.unsuspended⟩

/-- Whoever `require` lets through has a token whose role grants the permission, signed for a
    user row that had this role then; what the users are by now makes no difference. -/
theorem authority_at_issue (rt : Runtime) (w : World) (es : List Event) (env : Env)
    (auth : Authorization) (permission : Permission) (p : Principal) (t : Session)
    (h : (Deps.require env auth permission).run (run rt w es).session = .ok p t) :
    (∃ token, auth = .bearer token ∧ p = token.principal ∧
      hasPermission token.role permission = true ∧
      (token ∈ w.issued ∨ Occurs (step rt) (SignedForRow rt token) w es)) ∧
    ∀ users, ∃ t', (Deps.require env auth permission).run
      ((run rt w es).withUsers users).session = .ok p t' := by
  obtain ⟨⟨token, hid, hp, hcan⟩, _⟩ := require_eq_ok.mp h
  refine ⟨⟨token, hid.bearer, hp, ?_, signed_in_run rt w es hid.signed⟩, fun users => ?_⟩
  · rw [hp] at hcan
    exact hcan
  · exact require_withUsers users h

/-! ## A demoted analyst -/

/-- A tenant with an admin and an analyst. -/
def globex : World where
  db := { Database.empty with
    tenants := ⟨[{ id := "t1", name := "globex", createdAt := 0 }], by decide⟩
    users := ⟨[
      { id := "u1", tenantId := "t1", username := "root", passwordHash := "", role := "admin",
        createdAt := 0 },
      { id := "u2", tenantId := "t1", username := "ana", passwordHash := "", role := "analyst",
        createdAt := 0 }], by decide⟩ }

/-- A login whose token gets the id `jti`. -/
def globexLogin (username jti : String) : Event where
  env := { now := fun _ => 0, uuid4 := fun _ => jti }
  request := .login { username := username, password := "correct horse", tenant := "globex" }

/-- The token such a login is answered with. -/
def globexToken (uid username role jti : String) : Token where
  sub := username
  uid := uid
  tenantId := "t1"
  role := role
  jti := jti
  exp := 3600

def anaToken : Token := globexToken "u2" "ana" "analyst" "j2"

/-- The admin makes the analyst a viewer. -/
def demoteAna : Event where
  env := { now := fun _ => 0, uuid4 := fun _ => "j3" }
  request := .admin (.bearer (globexToken "u1" "root" "admin" "j1")) (.updateRole "u2" "viewer")

def quietEnv : Env where
  now := fun _ => 0
  uuid4 := fun _ => ""

/-- The analyst's token is admitted, and was signed for an analyst. -/
theorem authority_at_issue_login :
    (∃ token, Authorization.bearer anaToken = .bearer token ∧
      anaToken.principal = token.principal ∧ hasPermission token.role .searchRun = true ∧
      (token ∈ globex.issued ∨
        Occurs (step .plain) (SignedForRow .plain token) globex [globexLogin "ana" "j2"])) ∧
    ∀ users, ∃ t', (Deps.require quietEnv (.bearer anaToken) .searchRun).run
      ((run .plain globex [globexLogin "ana" "j2"]).withUsers users).session =
        .ok anaToken.principal t' :=
  authority_at_issue .plain globex [globexLogin "ana" "j2"] quietEnv (.bearer anaToken) .searchRun
    anaToken.principal _ rfl

/-- After the demotion the analyst's token still runs searches, which the account may not. -/
theorem demoted_still_admitted :
    ¬ ∀ (rt : Runtime) (w : World) (es : List Event) (env : Env) (auth : Authorization)
      (permission : Permission) (p : Principal) (t : Session), w.issued = [] →
      (Deps.require env auth permission).run (run rt w es).session = .ok p t →
      ∃ user ∈ (run rt w es).db.users.rows, user.id = p.userId ∧ user.tenantId = p.tenantId ∧
        hasPermission user.role permission = true := by
  intro h
  have hadmitted := h .plain globex
    [globexLogin "root" "j1", globexLogin "ana" "j2", demoteAna] quietEnv (.bearer anaToken)
    .searchRun anaToken.principal _ rfl rfl
  revert hadmitted
  decide

end SentinelAI
