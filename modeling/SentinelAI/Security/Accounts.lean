import SentinelAI.Security.Issuance

/-
  What a request does to the rows of `users`. `AccountChange` lists what it may make of the
  table, with what the request must have been for that (`step_account_change`), and
  `changeAccount_step` and `deleteUser_step` say that an admitted request does it. `WritesUser`
  is about the single rows: those a request may add or change (`step_users_cases`).
-/

namespace SentinelAI

open Lib

/-- A row a request adds or changes. -/
inductive WritesUser (w : World) (e : Event) : UserRow → Prop
  | created (auth : Authorization) (body : AdminRoutes.CreateUserRequest) (p : Principal)
    (he : e.request = .admin auth (.createUser body))
    (hp : Admitted w.db w.issued (e.env.now 0) auth .admin p)
    (hname : 1 ≤ body.username.length ∧ body.username.length ≤ 150)
    (hpassword : 8 ≤ body.password.length ∧ body.password.length ≤ 200)
    (hrole : AdminRoutes.validRoles.contains body.role = true)
    (hfree : ∀ u ∈ w.db.users.rows, u.tenantId = p.tenantId → u.username ≠ body.username)
    (hid : ∀ u ∈ w.db.users.rows, u.id ≠ e.env.uuid4 0) :
    WritesUser w e
      { id := e.env.uuid4 0
        tenantId := p.tenantId
        username := body.username
        passwordHash := hashPassword e.env body.password
        role := body.role
        createdAt := e.env.now 1 }
  | roleChanged (auth : Authorization) (userId role : String) (p : Principal) (user : UserRow)
    (he : e.request = .admin auth (.updateRole userId role))
    (hp : Admitted w.db w.issued (e.env.now 0) auth .admin p)
    (hrole : AdminRoutes.validRoles.contains role = true) (huser : user ∈ w.db.users.rows)
    (hof : user.tenantId = p.tenantId) (hid : user.id = userId) :
    WritesUser w e { user with role := role }
  | linked (auth : Authorization) (userId externalId : String) (p : Principal) (user : UserRow)
    (he : e.request = .admin auth (.linkIdentity userId externalId))
    (hp : Admitted w.db w.issued (e.env.now 0) auth .admin p)
    (huser : user ∈ w.db.users.rows) (hof : user.tenantId = p.tenantId) (hid : user.id = userId) :
    WritesUser w e { user with externalId := some externalId }
  | tenantAdmin (auth : Authorization) (body : ProviderRoutes.CreateTenantRequest)
    (he : e.request = .provider auth (.createTenant body))
    (hname : 1 ≤ body.adminUsername.length ∧ body.adminUsername.length ≤ 150) :
    WritesUser w e
      { id := e.env.uuid4 1
        tenantId := e.env.uuid4 0
        username := body.adminUsername
        passwordHash := hashPassword e.env body.adminPassword
        role := Role.admin.value
        createdAt := e.env.now 2 }

/-- The account `create_user` adds for an administrator. -/
def createdAccount (e : Event) (p : Principal) (body : AdminRoutes.CreateUserRequest) : UserRow where
  id := e.env.uuid4 0
  tenantId := p.tenantId
  username := body.username
  passwordHash := hashPassword e.env body.password
  role := body.role
  createdAt := e.env.now 1

/-- The account `create_tenant` adds for the tenant's first administrator. -/
def tenantAccount (e : Event) (body : ProviderRoutes.CreateTenantRequest) : UserRow where
  id := e.env.uuid4 1
  tenantId := e.env.uuid4 0
  username := body.adminUsername
  passwordHash := hashPassword e.env body.adminPassword
  role := Role.admin.value
  createdAt := e.env.now 2

/-- The requests that change one account, with the change. -/
inductive ChangesAccount : AdminRequest → String → (UserRow → UserRow) → Prop
  | role (userId role : String) (hrole : AdminRoutes.validRoles.contains role = true) :
    ChangesAccount (.updateRole userId role) userId fun u => { u with role := role }
  | link (userId externalId : String)
    (hlength : 1 ≤ externalId.length ∧ externalId.length ≤ 255) :
    ChangesAccount (.linkIdentity userId externalId) userId
      fun u => { u with externalId := some externalId }

/-- The account is one of the principal's tenant. -/
def OwnAccount (w : World) (p : Principal) (userId : String) (user : UserRow) : Prop :=
  user ∈ w.db.users.rows ∧ user.tenantId = p.tenantId ∧ user.id = userId

/-- What a request makes of the users. -/
inductive AccountChange (w : World) (e : Event) : KeyedTable UserRow → Prop
  | kept : AccountChange w e w.db.users
  | created (auth : Authorization) (body : AdminRoutes.CreateUserRequest) (p : Principal)
    (users : KeyedTable UserRow) (he : e.request = .admin auth (.createUser body))
    (hp : Admitted w.db w.issued (e.env.now 0) auth .admin p)
    (hname : 1 ≤ body.username.length ∧ body.username.length ≤ 150)
    (hpassword : 8 ≤ body.password.length ∧ body.password.length ≤ 200)
    (hrole : AdminRoutes.validRoles.contains body.role = true)
    (hfree : ∀ u ∈ w.db.users.rows, u.tenantId = p.tenantId → u.username ≠ body.username)
    (hins : w.db.users.insert? (createdAccount e p body) = some users) : AccountChange w e users
  | changed (auth : Authorization) (r : AdminRequest) (userId : String) (f : UserRow → UserRow)
    (hf : ∀ u, (f u).id = u.id) (p : Principal) (user : UserRow)
    (he : e.request = .admin auth r) (hr : ChangesAccount r userId f)
    (hp : Admitted w.db w.issued (e.env.now 0) auth .admin p)
    (huser : OwnAccount w p userId user) : AccountChange w e (w.db.users.modify userId f hf)
  | deleted (auth : Authorization) (userId : String) (p : Principal) (user : UserRow)
    (he : e.request = .admin auth (.deleteUser userId))
    (hp : Admitted w.db w.issued (e.env.now 0) auth .admin p) (hother : userId ≠ p.userId)
    (huser : OwnAccount w p userId user) :
    AccountChange w e (w.db.users.deleteWhere fun u => u.id == userId)
  | tenantAdmin (auth : Authorization) (body : ProviderRoutes.CreateTenantRequest)
    (users : KeyedTable UserRow) (he : e.request = .provider auth (.createTenant body))
    (hname : 1 ≤ body.adminUsername.length ∧ body.adminUsername.length ≤ 150)
    (htenant : ∀ t ∈ w.db.tenants.rows, t.id ≠ e.env.uuid4 0)
    (hins : w.db.users.insert? (tenantAccount e body) = some users) : AccountChange w e users

/-! ## The repository -/

theorem UserRepository.create_eq_ok {env : Env} {tenantId username password role : String}
    {x : Option String} {s t : Session} {user : UserRow}
    (h : (UserRepository.create env tenantId username password role x).run s = .ok user t) :
    user = { id := env.uuid4 s.uuids, tenantId := tenantId, username := username,
             passwordHash := hashPassword env password, role := role, externalId := x,
             createdAt := env.now s.ticks } ∧
      ∃ users, s.db.users.insert? user = some users ∧
        t = { s.ticked with uuids := s.uuids + 1, db := { s.db with users := users } } := by
  unfold UserRepository.create at h
  rw [run_bind_ok (uuidHex_run env s), run_bind_ok (readClock_run env _), run_bind_eq_ok] at h
  obtain ⟨_, u, hrun, h⟩ := h
  obtain ⟨users, hins, rfl⟩ := insertRow_eq_ok.mp hrun
  cases h
  exact ⟨rfl, users, hins, rfl⟩

theorem TenantRepository.create_eq_ok {env : Env} {name status plan : String} {s t : Session}
    {tenant : TenantRow}
    (h : (TenantRepository.create env name status plan).run s = .ok tenant t) :
    tenant = { id := env.uuid4 s.uuids, name := name, status := status, plan := plan,
               createdAt := env.now s.ticks } ∧
      (∀ r ∈ s.db.tenants.rows, r.name ≠ name) ∧
      ∃ tenants, s.db.tenants.insert? tenant = some tenants ∧
        t = { s.ticked with uuids := s.uuids + 1, db := { s.db with tenants := tenants } } := by
  unfold TenantRepository.create TenantRepository.checkNameFree at h
  rw [run_bind_ok (uuidHex_run env s), run_bind_ok (readClock_run env _)] at h
  simp only [run_bind_eq_ok, raiseIf_eq_ok] at h
  obtain ⟨_, _, ⟨taken, _, hsel, hfree, rfl⟩, _, _, hrun, hret⟩ := h
  cases hsel
  obtain ⟨tenants, hins, rfl⟩ := insertRow_eq_ok.mp hrun
  cases hret
  refine ⟨rfl, fun r hr hname => ?_, tenants, hins, rfl⟩
  have hempty : (Tables.tenants.get s.db).select (fun t => t.name == name) = [] := by
    rw [Bool.not_eq_false', List.isEmpty_iff] at hfree
    exact hfree
  have hmem : r ∈ (Tables.tenants.get s.db).select fun t => t.name == name :=
    KeyedTable.mem_select.mpr ⟨hr, by simp [hname]⟩
  rw [hempty] at hmem
  cases hmem

/-- A user of the tenant, by its id. -/
theorem UserRepository.get_eq_some {tenantId userId : String} {s : Session} {user : UserRow} :
    ((s.db.users.find? userId).filter fun u => u.tenantId == tenantId) = some user ↔
      user ∈ s.db.users.rows ∧ user.tenantId = tenantId ∧ user.id = userId := by
  rw [Option.filter_eq_some_iff, KeyedTable.find?_eq_some, beq_iff_eq]
  exact ⟨fun ⟨⟨hmem, hid⟩, hof⟩ => ⟨hmem, hof, hid⟩, fun ⟨hmem, hof, hid⟩ => ⟨⟨hmem, hid⟩, hof⟩⟩

theorem UserRepository.update_run {tenantId userId : String} {f : UserRow → UserRow}
    {hf : ∀ r, (f r).id = r.id} {s : Session} {user : UserRow} (huser : user ∈ s.db.users.rows)
    (hof : user.tenantId = tenantId) (hid : user.id = userId) :
    (UserRepository.update tenantId userId f hf).run s = .ok (some (f user))
      { s with db := { s.db with users := s.db.users.modify userId f hf } } := by
  have hget := UserRepository.get_run tenantId userId s
  rw [UserRepository.get_eq_some.mpr ⟨huser, hof, hid⟩] at hget
  unfold UserRepository.update
  rw [run_bind_ok hget, ← hid]
  rfl

/-- An update changes the user it found, or finds none. -/
theorem UserRepository.update_eq_ok {tenantId userId : String} {f : UserRow → UserRow}
    {hf : ∀ r, (f r).id = r.id} {s t : Session} {o : Option UserRow}
    (h : (UserRepository.update tenantId userId f hf).run s = .ok o t) :
    (o = none ∧ t = s) ∨ ∃ user ∈ s.db.users.rows, user.tenantId = tenantId ∧ user.id = userId ∧
      o = some (f user) ∧
      t = { s with db := { s.db with users := s.db.users.modify userId f hf } } := by
  cases hfind : (s.db.users.find? userId).filter fun u => u.tenantId == tenantId with
  | none =>
    have hget := UserRepository.get_run tenantId userId s
    rw [hfind] at hget
    unfold UserRepository.update at h
    rw [run_bind_ok hget] at h
    cases h
    exact Or.inl ⟨rfl, rfl⟩
  | some user =>
    obtain ⟨huser, hof, hid⟩ := UserRepository.get_eq_some.mp hfind
    rw [UserRepository.update_run huser hof hid] at h
    cases h
    exact Or.inr ⟨user, huser, hof, hid, rfl, rfl⟩

theorem UserRepository.delete_run {tenantId userId : String} {s : Session} {user : UserRow}
    (huser : user ∈ s.db.users.rows) (hof : user.tenantId = tenantId) (hid : user.id = userId) :
    (UserRepository.delete tenantId userId).run s = .ok true
      { s with db := { s.db with users := s.db.users.deleteWhere fun u => u.id == userId } } := by
  have hget := UserRepository.get_run tenantId userId s
  rw [UserRepository.get_eq_some.mpr ⟨huser, hof, hid⟩] at hget
  unfold UserRepository.delete
  rw [run_bind_ok hget, ← hid]
  rfl

/-- A deletion that says so has deleted a user of the tenant. -/
theorem UserRepository.delete_eq_ok {tenantId userId : String} {s t : Session}
    (h : (UserRepository.delete tenantId userId).run s = .ok true t) :
    ∃ user ∈ s.db.users.rows, user.tenantId = tenantId ∧ user.id = userId ∧
      t = { s with db := { s.db with users := s.db.users.deleteWhere fun u => u.id == userId } } := by
  cases hfind : (s.db.users.find? userId).filter fun u => u.tenantId == tenantId with
  | none =>
    have hget := UserRepository.get_run tenantId userId s
    rw [hfind] at hget
    unfold UserRepository.delete at h
    rw [run_bind_ok hget] at h
    cases h
  | some user =>
    obtain ⟨huser, hof, hid⟩ := UserRepository.get_eq_some.mp hfind
    rw [UserRepository.delete_run huser hof hid] at h
    cases h
    exact ⟨user, huser, hof, hid, rfl⟩

theorem mem_users_insert {users users' : KeyedTable UserRow} {user v : UserRow}
    (h : users.insert? user = some users') (hv : v ∈ users'.rows) : v ∈ users.rows ∨ v = user := by
  rw [KeyedTable.insert?_rows h] at hv
  obtain hv | hv := List.mem_append.mp hv
  · exact Or.inl hv
  · exact Or.inr (List.mem_singleton.mp hv)

/-- The statement of `get_by_username`. -/
def usersNamed (db : Database) (tenantId username : String) : List UserRow :=
  db.users.select fun u => u.tenantId == tenantId && u.username == username

theorem mem_usersNamed {db : Database} {tenantId username : String} {user : UserRow} :
    user ∈ usersNamed db tenantId username ↔
      user ∈ db.users.rows ∧ user.tenantId = tenantId ∧ user.username = username := by
  unfold usersNamed
  rw [KeyedTable.mem_select, Bool.and_eq_true, beq_iff_eq, beq_iff_eq]

theorem UserRepository.getByUsername_run {tenantId username : String} {s t : Session}
    {o : Option UserRow} : (UserRepository.getByUsername tenantId username).run s = .ok o t ↔
      usersNamed s.db tenantId username = o.toList ∧ t = s := selectOne_eq_ok

theorem UserRepository.getByUsername_none {tenantId username : String} {s t : Session}
    (h : (UserRepository.getByUsername tenantId username).run s = .ok none t) :
    t = s ∧ ∀ u ∈ s.db.users.rows, u.tenantId = tenantId → u.username ≠ username := by
  obtain ⟨hnone, rfl⟩ := UserRepository.getByUsername_run.mp h
  refine ⟨rfl, fun u hu hof hname => ?_⟩
  have hmem : u ∈ usersNamed t.db tenantId username := mem_usersNamed.mpr ⟨hu, hof, hname⟩
  rw [hnone] at hmem
  cases hmem

/-! ## The requests -/

theorem validateLength_eq_ok {field : String} {lo hi : Nat} {v : String} {s t : Session} {x : Unit} :
    (Deps.validateLength field lo hi v).run s = .ok x t ↔ (lo ≤ v.length ∧ v.length ≤ hi) ∧ t = s := by
  unfold Deps.validateLength
  rw [raiseIf_eq_ok]
  simp

theorem checkRole_eq_ok {role : String} {s t : Session} {x : Unit} :
    (AdminRoutes.checkRole role).run s = .ok x t ↔
      AdminRoutes.validRoles.contains role = true ∧ t = s := by
  unfold AdminRoutes.checkRole
  rw [raiseIf_eq_ok, Bool.not_eq_false']

section

variable {rt : Runtime} {w : World} {e : Event} {auth : Authorization} {t : Session}

/-- A new account is stored under a free username. -/
theorem createUser_stores {body : AdminRoutes.CreateUserRequest} {r : AdminRoutes.UserResponse}
    (h : (AdminRoutes.createUser rt e.env auth body).run w.session = .ok r t) :
    ∃ p, Admitted w.db w.issued (e.env.now 0) auth .admin p ∧
      (1 ≤ body.username.length ∧ body.username.length ≤ 150) ∧
      (8 ≤ body.password.length ∧ body.password.length ≤ 200) ∧
      AdminRoutes.validRoles.contains body.role = true ∧
      (∀ u ∈ w.db.users.rows, u.tenantId = p.tenantId → u.username ≠ body.username) ∧
      w.db.users.insert? (createdAccount e p body) = some t.db.users ∧
      t.db.ruleStates = w.db.ruleStates := by
  unfold AdminRoutes.createUser at h
  simp only [run_bind_eq_ok, require_eq_ok, validateLength_eq_ok, checkRole_eq_ok,
    raiseIf_eq_ok] at h
  obtain ⟨p, _, ⟨hadm, rfl⟩, _, _, ⟨hname, rfl⟩, _, _, ⟨hpassword, rfl⟩, _, _, ⟨hrole, rfl⟩,
    existing, _, hex, _, _, ⟨hnone, rfl⟩, user, _, hc, _, _, hrec, hret⟩ := h
  cases hret
  obtain rfl : existing = none := by simpa using hnone
  obtain ⟨rfl, hfree⟩ := UserRepository.getByUsername_none hex
  obtain ⟨rfl, users, hins, rfl⟩ := UserRepository.create_eq_ok hc
  rw [AuditService.recordEntry_run] at hrec
  cases hrec
  exact ⟨p, hadm, hname, hpassword, hrole, hfree, hins, rfl⟩

theorem createUser_change {body : AdminRoutes.CreateUserRequest} {r : AdminRoutes.UserResponse}
    (he : e.request = .admin auth (.createUser body))
    (h : (AdminRoutes.createUser rt e.env auth body).run w.session = .ok r t) :
    AccountChange w e t.db.users := by
  obtain ⟨p, hp, hname, hpassword, hrole, hfree, hins, _⟩ := createUser_stores h
  exact AccountChange.created auth body p _ he hp hname hpassword hrole hfree hins

/-- The account's change and its audit entry, at the end of a route. -/
theorem updateThenRecord_run (rt : Runtime) {tenantId userId : String} (f : UserRow → UserRow)
    (hf : ∀ r, (f r).id = r.id) {ex : Exc} {entry : AuditEntry} {env : Env} {s : Session}
    {user : UserRow} (huser : user ∈ s.db.users.rows) (hof : user.tenantId = tenantId)
    (hid : user.id = userId) :
    ∃ r t, (UserRepository.update tenantId userId f hf >>= fun o => orRaise ex o >>= fun user =>
        AuditService.recordEntry rt env entry >>= fun _ =>
          pure (AdminRoutes.toResponse user)).run s = .ok r t ∧
      t.db.users = s.db.users.modify userId f hf := by
  rw [run_bind_ok (UserRepository.update_run huser hof hid),
    run_bind_ok (orRaise_eq_ok.mpr ⟨rfl, rfl⟩), run_bind_ok (AuditService.recordEntry_run ..)]
  exact ⟨_, _, rfl, rfl⟩

theorem updateThenRecord_eq_ok {tenantId userId : String} {f : UserRow → UserRow}
    {hf : ∀ r, (f r).id = r.id} {ex : Exc} {entry : AuditEntry} {env : Env} {s : Session}
    {r : AdminRoutes.UserResponse}
    (h : (UserRepository.update tenantId userId f hf >>= fun o => orRaise ex o >>= fun user =>
        AuditService.recordEntry rt env entry >>= fun _ =>
          pure (AdminRoutes.toResponse user)).run s = .ok r t) :
    ∃ user ∈ s.db.users.rows, user.tenantId = tenantId ∧ user.id = userId ∧
      t.db.users = s.db.users.modify userId f hf := by
  obtain ⟨o, u, hupdate, hrest⟩ := run_bind_eq_ok.mp h
  obtain ⟨rfl, rfl⟩ | ⟨user, huser, hof, hid, rfl, rfl⟩ := UserRepository.update_eq_ok hupdate
  · cases hrest
  · rw [run_bind_ok (orRaise_eq_ok.mpr ⟨rfl, rfl⟩),
      run_bind_ok (AuditService.recordEntry_run ..)] at hrest
    cases hrest
    exact ⟨user, huser, hof, hid, rfl⟩

theorem updateRole_change {userId role : String} {r : AdminRoutes.UserResponse}
    (he : e.request = .admin auth (.updateRole userId role))
    (h : (AdminRoutes.updateRole rt e.env auth userId role).run w.session = .ok r t) :
    AccountChange w e t.db.users := by
  obtain ⟨p, _, hp, h⟩ := run_bind_eq_ok.mp h
  obtain ⟨hadm, rfl⟩ := require_eq_ok.mp hp
  obtain ⟨_, _, hcheck, h⟩ := run_bind_eq_ok.mp h
  obtain ⟨hrole, rfl⟩ := checkRole_eq_ok.mp hcheck
  obtain ⟨user, huser, hof, hid, husers⟩ := updateThenRecord_eq_ok h
  rw [husers]
  exact AccountChange.changed auth _ userId _ _ p user he (.role userId role hrole) hadm
    ⟨huser, hof, hid⟩

theorem linkIdentity_change {userId externalId : String} {r : AdminRoutes.UserResponse}
    (he : e.request = .admin auth (.linkIdentity userId externalId))
    (h : (AdminRoutes.linkIdentity rt e.env auth userId externalId).run w.session = .ok r t) :
    AccountChange w e t.db.users := by
  obtain ⟨p, _, hp, h⟩ := run_bind_eq_ok.mp h
  obtain ⟨hadm, rfl⟩ := require_eq_ok.mp hp
  obtain ⟨_, _, hcheck, h⟩ := run_bind_eq_ok.mp h
  obtain ⟨hlength, rfl⟩ := validateLength_eq_ok.mp hcheck
  obtain ⟨user, huser, hof, hid, husers⟩ := updateThenRecord_eq_ok h
  rw [husers]
  exact AccountChange.changed auth _ userId _ _ p user he (.link userId externalId hlength) hadm
    ⟨huser, hof, hid⟩

theorem deleteUser_change {userId : String} {r : Unit}
    (he : e.request = .admin auth (.deleteUser userId))
    (h : (AdminRoutes.deleteUser rt e.env auth userId).run w.session = .ok r t) :
    AccountChange w e t.db.users := by
  unfold AdminRoutes.deleteUser at h
  simp only [run_bind_eq_ok, require_eq_ok, raiseIf_eq_ok] at h
  obtain ⟨p, _, ⟨hadm, rfl⟩, _, _, ⟨hother, rfl⟩, ok, s, hdel, _, _, ⟨hok, rfl⟩, hrec⟩ := h
  obtain rfl : ok = true := by simpa using hok
  obtain ⟨user, huser, hof, hid, rfl⟩ := UserRepository.delete_eq_ok hdel
  rw [AuditService.recordEntry_run] at hrec
  cases hrec
  exact AccountChange.deleted auth userId p user he hadm (by simpa using hother) ⟨huser, hof, hid⟩

/-- A new tenant is stored with its administrator's account. -/
theorem createTenant_stores {body : ProviderRoutes.CreateTenantRequest}
    {r : ProviderRoutes.TenantResponse}
    (h : (ProviderRoutes.createTenant rt e.env auth body).run w.session = .ok r t) :
    (1 ≤ body.adminUsername.length ∧ body.adminUsername.length ≤ 150) ∧
      ∃ tenant : TenantRow, tenant.id = e.env.uuid4 0 ∧
        (∀ r ∈ w.db.tenants.rows, r.name ≠ tenant.name) ∧
        w.db.tenants.insert? tenant = some t.db.tenants ∧
        w.db.users.insert? (tenantAccount e body) = some t.db.users := by
  unfold ProviderRoutes.createTenant ProviderRoutes.checkStatus ProviderRoutes.checkPlan at h
  simp only [run_bind_eq_ok, validateLength_eq_ok, raiseIf_eq_ok] at h
  obtain ⟨p, _, hp, _, _, ⟨_, rfl⟩, _, _, ⟨hname, rfl⟩, _, _, ⟨_, rfl⟩, _, _, ⟨_, rfl⟩, _, _,
    ⟨_, rfl⟩, existing, _, hex, _, _, ⟨_, rfl⟩, tenant, _, hcreate, user, _, hc, _, _, hrec,
    hret⟩ := h
  cases hret
  obtain rfl := requireProvider_keeps hp
  obtain ⟨rfl, _⟩ := getByName_ok hex
  obtain ⟨rfl, hfree, tenants, htenants, rfl⟩ := TenantRepository.create_eq_ok hcreate
  obtain ⟨rfl, users, husers, rfl⟩ := UserRepository.create_eq_ok hc
  rw [AuditService.recordEntry_run] at hrec
  cases hrec
  refine ⟨hname, _, ?_, ?_, htenants, husers⟩
  · rfl
  · exact hfree

theorem createTenant_account {body : ProviderRoutes.CreateTenantRequest}
    {r : ProviderRoutes.TenantResponse} (he : e.request = .provider auth (.createTenant body))
    (h : (ProviderRoutes.createTenant rt e.env auth body).run w.session = .ok r t) :
    AccountChange w e t.db.users := by
  obtain ⟨hname, tenant, hid, _, htenants, husers⟩ := createTenant_stores h
  refine AccountChange.tenantAdmin auth body _ he hname (fun t ht => ?_) husers
  rw [← hid]
  exact KeyedTable.insert?_key_ne htenants t ht

end

/-- A request makes of the users what `AccountChange` lists. -/
theorem step_account_change (rt : Runtime) (w : World) (e : Event) :
    AccountChange w e (step rt w e).db.users := by
  by_cases hF : .users ∈ footprint e.request
  · have hc : .committed ∉ footprint e.request := by
      intro hc
      obtain ⟨body, he⟩ := committed_footprint hc
      simp [he, footprint] at hF
    obtain ⟨body, t, hrun, hdb⟩ | ⟨_, hdb⟩ := step_db rt hc
    · rw [hdb]
      cases he : e.request with
      | admin auth r =>
        cases r with
        | createUser body =>
          obtain ⟨r, h, rfl⟩ := (handled_eq_ok he rfl).mp hrun
          exact createUser_change he h
        | updateRole userId role =>
          obtain ⟨r, h, rfl⟩ := (handled_eq_ok he rfl).mp hrun
          exact updateRole_change he h
        | linkIdentity userId externalId =>
          obtain ⟨r, h, rfl⟩ := (handled_eq_ok he rfl).mp hrun
          exact linkIdentity_change he h
        | deleteUser userId =>
          obtain ⟨r, h, rfl⟩ := (handled_eq_ok he rfl).mp hrun
          exact deleteUser_change he h
        | _ => simp [he, footprint] at hF
      | provider auth r =>
        cases r with
        | createTenant body =>
          obtain ⟨r, h, rfl⟩ := (handled_eq_ok he rfl).mp hrun
          exact createTenant_account he h
        | _ => simp [he, footprint] at hF
      | case auth invId r => cases r <;> simp [he, footprint] at hF
      | _ => simp [he, footprint] at hF
    · rw [hdb]
      exact AccountChange.kept
  · rw [step_users hF]
    exact AccountChange.kept

/-- A changed row is the one the account had. -/
theorem mem_users_modify {w : World} {p : Principal} {userId : String} {user v : UserRow}
    {f : UserRow → UserRow} {hf : ∀ r, (f r).id = r.id} (huser : OwnAccount w p userId user)
    (hv : v ∈ (w.db.users.modify userId f hf).rows) : v ∈ w.db.users.rows ∨ v = f user := by
  obtain ⟨r, hr, hkey, rfl⟩ | ⟨hv, _⟩ := (KeyedTable.mem_modify hf).mp hv
  · obtain rfl := w.db.users.eq_of_key_eq hr huser.1 (hkey.trans huser.2.2.symm)
    exact Or.inr rfl
  · exact Or.inl hv

/-- After a request, a user row is one of before, or one the request writes. -/
theorem step_users_cases (rt : Runtime) (w : World) (e : Event) :
    ∀ u ∈ (step rt w e).db.users.rows, u ∈ w.db.users.rows ∨ WritesUser w e u := by
  intro u hu
  have hchange := step_account_change rt w e
  generalize (step rt w e).db.users = users at hu hchange
  cases hchange with
  | kept => exact Or.inl hu
  | created auth body p _ he hp hname hpassword hrole hfree hins =>
    refine (mem_users_insert hins hu).imp_right fun hnew => ?_
    rw [hnew]
    exact WritesUser.created auth body p he hp hname hpassword hrole hfree
      (KeyedTable.insert?_key_ne hins)
  | changed auth r userId f hf p user he hr hp huser =>
    refine (mem_users_modify huser hu).imp_right fun hnew => ?_
    rw [hnew]
    obtain ⟨hmem, hof, hid⟩ := huser
    cases hr with
    | role _ role hrole => exact WritesUser.roleChanged auth userId role p user he hp hrole hmem hof hid
    | link _ externalId => exact WritesUser.linked auth userId externalId p user he hp hmem hof hid
  | deleted => exact Or.inl (List.mem_of_mem_filter hu)
  | tenantAdmin auth body _ he hname htenant hins =>
    refine (mem_users_insert hins hu).imp_right fun hnew => ?_
    rw [hnew]
    exact WritesUser.tenantAdmin auth body he hname

/-! ## What an administrator's request does -/

section

variable (rt : Runtime) {w : World} {e : Event} {auth : Authorization} {p : Principal}
  {userId : String} {user : UserRow}

/-- An administrator's change of an account of the tenant is made. -/
theorem changeAccount_step {r : AdminRequest} {f : UserRow → UserRow} (hf : ∀ u, (f u).id = u.id)
    (he : e.request = .admin auth r) (hr : ChangesAccount r userId f)
    (hp : Admitted w.db w.issued (e.env.now 0) auth .admin p) (huser : OwnAccount w p userId user) :
    (step rt w e).db.users = w.db.users.modify userId f hf := by
  have hpass : (Deps.require e.env auth .admin).run w.session = .ok p w.session.ticked :=
    require_eq_ok.mpr ⟨hp, rfl⟩
  obtain ⟨hmem, hof, hid⟩ := huser
  cases hr with
  | role _ role hrole =>
    have hcheck : (AdminRoutes.checkRole role).run w.session.ticked = .ok () w.session.ticked :=
      checkRole_eq_ok.mpr ⟨hrole, rfl⟩
    obtain ⟨r, t, hrun, husers⟩ := updateThenRecord_run rt (s := w.session.ticked)
      (fun u => { u with role := role }) hf hmem hof hid
    have hhandled : handled rt w e = .ok (.user r) t := (handled_eq_ok he rfl).mpr
      ⟨_, (run_bind_ok hpass).trans ((run_bind_ok hcheck).trans hrun), rfl⟩
    rw [step_eq, hhandled]
    exact husers
  | link _ externalId hlength =>
    have hcheck : (Deps.validateLength "external_id" 1 255 externalId).run w.session.ticked =
        .ok () w.session.ticked := validateLength_eq_ok.mpr ⟨hlength, rfl⟩
    obtain ⟨r, t, hrun, husers⟩ := updateThenRecord_run rt (s := w.session.ticked)
      (fun u => { u with externalId := some externalId }) hf hmem hof hid
    have hhandled : handled rt w e = .ok (.user r) t := (handled_eq_ok he rfl).mpr
      ⟨_, (run_bind_ok hpass).trans ((run_bind_ok hcheck).trans hrun), rfl⟩
    rw [step_eq, hhandled]
    exact husers

/-- An administrator's deletion of another account of the tenant is made. -/
theorem deleteUser_step (he : e.request = .admin auth (.deleteUser userId))
    (hp : Admitted w.db w.issued (e.env.now 0) auth .admin p) (hother : userId ≠ p.userId)
    (huser : OwnAccount w p userId user) :
    (step rt w e).db.users = w.db.users.deleteWhere fun u => u.id == userId := by
  have hpass : (Deps.require e.env auth .admin).run w.session = .ok p w.session.ticked :=
    require_eq_ok.mpr ⟨hp, rfl⟩
  have hrun : ∃ t, (AdminRoutes.deleteUser rt e.env auth userId).run w.session = .ok () t ∧
      t.db.users = w.db.users.deleteWhere fun u => u.id == userId := by
    unfold AdminRoutes.deleteUser
    rw [run_bind_ok hpass, run_bind_ok (raiseIf_eq_ok (u := ()) |>.mpr ⟨by simpa using hother, rfl⟩),
      run_bind_ok (UserRepository.delete_run huser.1 huser.2.1 huser.2.2)]
    exact ⟨_, rfl, rfl⟩
  obtain ⟨t, hrun, husers⟩ := hrun
  have hhandled : handled rt w e = .ok .empty t := (handled_eq_ok he rfl).mpr ⟨_, hrun, rfl⟩
  rw [step_eq, hhandled]
  exact husers

end

end SentinelAI
