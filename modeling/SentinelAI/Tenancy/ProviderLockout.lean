import SentinelAI.Tenancy.Seeding

/-
  Whether the provider plane can lock itself out.

  The platform's tenant is a row like any other: a provider administrator can suspend it by
  its id, and `get_principal` then refuses every token of the administrators, as `login`
  refuses them a new one. `Intact` is what the seeded database has and no request of the
  plane takes from it, whatever its status; `Intact.unlocked_iff` reduces the question to that
  status and `Intact.suspends_iff` says which requests set it.
-/

namespace SentinelAI

open Lib

/-! ## The plane -/

/-- The provider plane's requests, and the logins that give its administrators their tokens. -/
def ProviderPlane : Request → Prop
  | .login _ => True
  | .provider _ _ => True
  | _ => False

/-- A provider administrator is a user of the tenant. -/
def Houses (db : Database) (tenantId : String) : Prop :=
  ∃ u ∈ db.users.rows, u.role = "provider_admin" ∧ u.tenantId = tenantId

/-- Someone can log in as a provider administrator and, until the token expires, make any
    tenant active. -/
def CanReactivate (rt : Runtime) (w : World) : Prop :=
  ∃ body : Routes.LoginRequest, ∀ env : Env, ∃ r t,
    handled rt w ⟨env, .login body⟩ = .ok (.token r) t ∧ r.role = "provider_admin" ∧
    ∀ (env' : Env) (tenant : TenantRow), tenant ∈ w.db.tenants.rows →
      Time.seconds (env'.now 0) ≤ r.accessToken.exp →
      let w' := step rt w ⟨env, .login body⟩
      let e' : Event := ⟨env', .provider (.bearer r.accessToken) (.setStatus tenant.id "active")⟩
      succeeds rt w' e' = true ∧
        (step rt w' e').db.tenants.find? tenant.id = some { tenant with status := "active" }

/-- No tenant of a provider administrator is suspended, and one of them can undo any
    suspension. -/
structure Unlocked (rt : Runtime) (w : World) : Prop where
  unsuspended : ∀ t ∈ w.db.tenants.rows, Houses w.db t.id → t.status ≠ "suspended"
  reactivates : CanReactivate rt w

/-- An admitted request suspends the tenant of a provider administrator. -/
def SuspendsProvider (w : World) (e : Event) : Prop :=
  ∃ auth tenantId p, e.request = .provider auth (.setStatus tenantId "suspended") ∧
    Houses w.db tenantId ∧ Admitted w.db w.issued (e.env.now 0) auth .provider p

/-- A database as `seed_default` leaves a new one. -/
structure Seeded (rt : Runtime) (env : Env) (db : Database) : Prop where
  stored : ∃ t, (Bootstrap.seedDefault env).run (.start .empty [] []) = .ok () t ∧
    db = t.committed
  /-- a uuid is not the empty text -/
  ids : ∀ k, env.uuid4 k ≠ ""
  /-- bcrypt verifies the hashes it makes -/
  hashes : ∀ password, verifyPassword rt password (hashPassword env password) = true

/-! ## Changes of a tenant -/

theorem requireProvider_eq_ok {env : Env} {auth : Authorization} {s t : Session} {p : Principal} :
    (Deps.requireProvider env auth).run s = .ok p t ↔
      Admitted s.db s.issued (env.now s.ticks) auth .provider p ∧ t = s.ticked := by
  unfold Deps.requireProvider Admitted
  rw [run_bind_eq_ok]
  constructor
  · rintro ⟨q, u, hq, h⟩
    obtain ⟨token, hid, rfl, rfl⟩ := getPrincipal_eq_ok.mp hq
    obtain ⟨_, _, hcan, h⟩ := run_bind_eq_ok.mp h
    obtain ⟨hnot, rfl⟩ := raiseIf_eq_ok.mp hcan
    cases h
    exact ⟨⟨token, hid, rfl, by simpa using hnot⟩, rfl⟩
  · rintro ⟨⟨token, hid, rfl, hcan⟩, rfl⟩
    refine ⟨token.principal, s.ticked, getPrincipal_eq_ok.mpr ⟨token, hid, rfl, rfl⟩, ?_⟩
    rw [run_bind_ok (raiseIf_eq_ok (u := ()) |>.mpr ⟨by simp [hcan], rfl⟩)]
    rfl

section

variable (rt : Runtime) (env : Env) (p : Principal) (action : String)
  (detail : List (String × JsonValue)) (f : TenantRow → TenantRow) (hf : ∀ r, (f r).id = r.id)
  {tenantId : String} {s t : Session}

/-- A tenant that is there is changed. -/
theorem changeTenant_run {tenant : TenantRow} (h : s.db.tenants.find? tenantId = some tenant) :
    ∃ r t, (TenantRepository.update tenantId f hf >>=
        ProviderRoutes.afterTenantChange rt env p tenantId action detail).run s = .ok r t ∧
      t.db.tenants = s.db.tenants.modify tenant.id f hf := by
  have hget : (TenantRepository.get tenantId).run s = .ok (some tenant) s := by
    rw [tenantGet_run, h]
  have hupdate : (TenantRepository.update tenantId f hf).run s = .ok (some (f tenant))
      { s with db := { s.db with tenants := s.db.tenants.modify tenant.id f hf } } := by
    unfold TenantRepository.update
    rw [run_bind_ok hget]
    rfl
  rw [run_bind_ok hupdate]
  unfold ProviderRoutes.afterTenantChange
  rw [run_bind_ok (orRaise_eq_ok.mpr ⟨rfl, rfl⟩), run_bind_ok (AuditService.recordEntry_run ..)]
  exact ⟨_, _, rfl, rfl⟩

/-- An answered change has found its tenant. -/
theorem changeTenant_eq_ok {r : ProviderRoutes.TenantResponse}
    (h : (TenantRepository.update tenantId f hf >>=
      ProviderRoutes.afterTenantChange rt env p tenantId action detail).run s = .ok r t) :
    t.db.tenants = s.db.tenants.modify tenantId f hf := by
  cases hfind : s.db.tenants.find? tenantId with
  | none =>
    have hget : (TenantRepository.get tenantId).run s = .ok none s := by
      rw [tenantGet_run, hfind]
    have hupdate : (TenantRepository.update tenantId f hf).run s = .ok none s := by
      unfold TenantRepository.update
      rw [run_bind_ok hget]
      rfl
    rw [run_bind_ok hupdate] at h
    cases h
  | some tenant =>
    obtain ⟨r', t', hrun, htenants⟩ := changeTenant_run rt env p action detail f hf hfind
    cases hrun.symm.trans h
    rwa [show tenant.id = tenantId from ((s.db.tenants.find?_eq_some _ _).mp hfind).2] at htenants

/-- An answered request for a change is an administrator's. -/
theorem setTenant_eq_ok {auth : Authorization} {c : Bool} {ex : Exc}
    {r : ProviderRoutes.TenantResponse}
    (h : (Deps.requireProvider env auth >>= fun p => raiseIf c ex >>= fun _ =>
      TenantRepository.update tenantId f hf >>=
        ProviderRoutes.afterTenantChange rt env p tenantId action detail).run s = .ok r t) :
    ∃ p, Admitted s.db s.issued (env.now s.ticks) auth .provider p ∧
      t.db.tenants = s.db.tenants.modify tenantId f hf := by
  obtain ⟨p, u, hp, h⟩ := run_bind_eq_ok.mp h
  obtain ⟨hadm, rfl⟩ := requireProvider_eq_ok.mp hp
  obtain ⟨_, _, hvalid, h⟩ := run_bind_eq_ok.mp h
  obtain ⟨_, rfl⟩ := raiseIf_eq_ok.mp hvalid
  have htenants := changeTenant_eq_ok rt env p action detail f hf h
  exact ⟨p, hadm, htenants⟩

end

/-- An administrator sets the status of a tenant. -/
theorem setTenantStatus_run (rt : Runtime) {env : Env} {auth : Authorization} {p : Principal}
    {tenantId status : String} {s : Session} {tenant : TenantRow}
    (hp : Admitted s.db s.issued (env.now s.ticks) auth .provider p)
    (hstatus : ProviderRoutes.validStatus.contains status = true)
    (h : s.db.tenants.find? tenantId = some tenant) :
    ∃ r t, (ProviderRoutes.setTenantStatus rt env auth tenantId status).run s = .ok r t ∧
      t.db.tenants =
        s.db.tenants.modify tenantId (fun t => { t with status := status }) fun _ => rfl := by
  have hvalid : (ProviderRoutes.checkStatus status).run s.ticked = .ok () s.ticked :=
    raiseIf_eq_ok.mpr ⟨by rw [hstatus]; rfl, rfl⟩
  obtain ⟨r, t, hrun, htenants⟩ := changeTenant_run rt env p "provider.tenant_status_changed"
    [("status", .str status)] (fun t => { t with status := status }) (fun _ => rfl) (s := s.ticked) h
  have hchanged := changeTenant_eq_ok rt env p _ _ _ _ hrun
  refine ⟨r, t, ?_, hchanged⟩
  unfold ProviderRoutes.setTenantStatus
  rw [run_bind_ok (requireProvider_eq_ok.mpr ⟨hp, rfl⟩), run_bind_ok hvalid]
  exact hrun

/-! ## What a request of the plane changes -/

/-- The tenants and users after a request of the plane. -/
inductive PlaneChange (w : World) (e : Event) (db : Database) : Prop
  | kept (htenants : db.tenants = w.db.tenants) (husers : db.users = w.db.users)
  /-- a new tenant, and its admin -/
  | created (tenant : TenantRow) (user : UserRow)
    (htenants : w.db.tenants.insert? tenant = some db.tenants)
    (hname : ∀ t ∈ w.db.tenants.rows, t.name ≠ tenant.name)
    (husers : w.db.users.insert? user = some db.users) (hof : user.tenantId = tenant.id)
    (hrole : user.role = Role.admin.value)
  | planned (tenantId plan : String)
    (htenants : db.tenants =
      w.db.tenants.modify tenantId (fun t => { t with plan := plan }) fun _ => rfl)
    (husers : db.users = w.db.users)
  | statusSet (auth : Authorization) (tenantId status : String) (p : Principal)
    (he : e.request = .provider auth (.setStatus tenantId status))
    (hp : Admitted w.db w.issued (e.env.now 0) auth .provider p)
    (htenants : db.tenants =
      w.db.tenants.modify tenantId (fun t => { t with status := status }) fun _ => rfl)
    (husers : db.users = w.db.users)

section

variable {rt : Runtime} {w : World} {e : Event} {auth : Authorization}

theorem createTenant_change {body : ProviderRoutes.CreateTenantRequest}
    {r : ProviderRoutes.TenantResponse} {t : Session}
    (h : (ProviderRoutes.createTenant rt e.env auth body).run w.session = .ok r t) :
    PlaneChange w e t.db := by
  obtain ⟨_, tenant, hid, hname, htenants, husers⟩ := createTenant_stores h
  exact PlaneChange.created tenant _ htenants hname husers hid.symm rfl

/-- A request outside the two tables. -/
theorem planeChange_of_kept (htenants : .tenants ∉ writes e.request)
    (husers : .users ∉ writes e.request) : PlaneChange w e (step rt w e).db :=
  PlaneChange.kept (step_kept .tenants htenants) (step_kept .users husers)

/-- A request of the plane creates a tenant, sets a plan or a status, or changes neither
    table. -/
theorem plane_change (rt : Runtime) (w : World) {e : Event} (hplane : ProviderPlane e.request) :
    PlaneChange w e (step rt w e).db := by
  cases he : e.request with
  | login body =>
    exact planeChange_of_kept (by simp [he, writes]) (by simp [he, writes])
  | provider auth r =>
    have hcommitted : .committed ∉ footprint e.request := by
      intro hc
      obtain ⟨body, hlogin⟩ := committed_footprint hc
      cases he.symm.trans hlogin
    obtain ⟨body, t, hrun, hdb⟩ | ⟨_, hdb⟩ := step_db rt hcommitted
    · cases r with
      | createTenant body =>
        obtain ⟨r, h, rfl⟩ := (handled_eq_ok he rfl).mp hrun
        rw [hdb]
        exact createTenant_change h
      | setStatus tenantId status =>
        obtain ⟨r, h, rfl⟩ := (handled_eq_ok he rfl).mp hrun
        obtain ⟨p, hadm, htenants⟩ := setTenant_eq_ok rt e.env _ _ _ _ h
        refine PlaneChange.statusSet auth tenantId status p he hadm ?_ ?_
        · rw [hdb]
          exact htenants
        · exact step_kept .users (by simp [he, writes])
      | setPlan tenantId plan =>
        obtain ⟨r, h, rfl⟩ := (handled_eq_ok he rfl).mp hrun
        obtain ⟨_, _, htenants⟩ := setTenant_eq_ok rt e.env _ _ _ _ h
        refine PlaneChange.planned tenantId plan ?_ ?_
        · rw [hdb]
          exact htenants
        · exact step_kept .users (by simp [he, writes])
      | _ => exact planeChange_of_kept (by simp [he, writes]) (by simp [he, writes])
    · exact PlaneChange.kept (by rw [hdb]) (by rw [hdb])
  | _ =>
    rw [he] at hplane
    exact absurd hplane id

end

/-! ## What the plane keeps -/

/-- The seeded credentials of the provider administrator. -/
def providerLogin : Routes.LoginRequest where
  username := Bootstrap.providerUser
  password := Bootstrap.providerPassword
  tenant := platformTenant

/-- The platform's tenant and its administrator, by their ids: the tenant alone has its name,
    the administrator alone is in it and has the role, and no token has been revoked. -/
structure Intact (rt : Runtime) (tenantId userId : String) (db : Database) : Prop where
  tenant : ∃ tenant, db.tenants.find? tenantId = some tenant ∧ tenant.name = platformTenant
  named : ∀ t ∈ db.tenants.rows, t.name = platformTenant → t.id = tenantId
  user : ∃ user, db.users.find? userId = some user ∧ user.tenantId = tenantId ∧
    user.username = Bootstrap.providerUser ∧ user.role = "provider_admin" ∧
      verifyPassword rt Bootstrap.providerPassword user.passwordHash = true
  alone : ∀ u ∈ db.users.rows, u.tenantId = tenantId → u.id = userId
  provider : ∀ u ∈ db.users.rows, u.role = "provider_admin" → u.id = userId
  unrevoked : db.revokedTokens.rows = []
  ids : tenantId ≠ "" ∧ userId ≠ ""

namespace Intact

variable {rt : Runtime} {tenantId userId : String} {w : World} {e : Event} {db db' : Database}

/-- It is about three tables. -/
theorem kept (h : Intact rt tenantId userId db) (htenants : db'.tenants = db.tenants)
    (husers : db'.users = db.users) (hrevoked : db'.revokedTokens = db.revokedTokens) :
    Intact rt tenantId userId db' := by
  constructor
  · rw [htenants]
    exact h.tenant
  · rw [htenants]
    exact h.named
  · rw [husers]
    exact h.user
  · rw [husers]
    exact h.alone
  · rw [husers]
    exact h.provider
  · rw [hrevoked]
    exact h.unrevoked
  · exact h.ids

/-- A change of the tenants that keeps their ids and names. -/
theorem modified (h : Intact rt tenantId userId db) {k : String} {f : TenantRow → TenantRow}
    {hf : ∀ r, (f r).id = r.id} (hname : ∀ r, (f r).name = r.name)
    (htenants : db'.tenants = db.tenants.modify k f hf) (husers : db'.users = db.users)
    (hrevoked : db'.revokedTokens = db.revokedTokens) : Intact rt tenantId userId db' where
  tenant := by
    obtain ⟨tenant, hfind, hnamed⟩ := h.tenant
    rw [htenants]
    by_cases hk : tenantId = k
    · subst hk
      exact ⟨f tenant, KeyedTable.find?_modify_self hf hfind, (hname tenant).trans hnamed⟩
    · exact ⟨tenant, (KeyedTable.find?_modify_ne hf hk).trans hfind, hnamed⟩
  named t ht hnamed := by
    rw [htenants] at ht
    obtain ⟨r, hr, _, rfl⟩ | ⟨ht, _⟩ := (KeyedTable.mem_modify hf).mp ht
    · exact (hf r).trans (h.named r hr ((hname r).symm.trans hnamed))
    · exact h.named t ht hnamed
  user := by
    rw [husers]
    exact h.user
  alone := by
    rw [husers]
    exact h.alone
  provider := by
    rw [husers]
    exact h.provider
  unrevoked := by
    rw [hrevoked]
    exact h.unrevoked
  ids := h.ids

/-- A new tenant with its admin. -/
theorem created (h : Intact rt tenantId userId db) {tenant : TenantRow} {user : UserRow}
    (htenants : db.tenants.insert? tenant = some db'.tenants)
    (hname : ∀ t ∈ db.tenants.rows, t.name ≠ tenant.name)
    (husers : db.users.insert? user = some db'.users) (hof : user.tenantId = tenant.id)
    (hrole : user.role = Role.admin.value) (hrevoked : db'.revokedTokens = db.revokedTokens) :
    Intact rt tenantId userId db' := by
  obtain ⟨platform, hplatform, hnamed⟩ := h.tenant
  obtain ⟨admin, hadmin, hadminOf⟩ := h.user
  obtain ⟨hmem, hid⟩ := (db.tenants.find?_eq_some _ _).mp hplatform
  obtain ⟨huser, huserId⟩ := (db.users.find?_eq_some _ _).mp hadmin
  have hfresh : platform.id ≠ tenant.id := KeyedTable.insert?_key_ne htenants platform hmem
  have hfreshUser : admin.id ≠ user.id := KeyedTable.insert?_key_ne husers admin huser
  refine ⟨⟨platform, ?_, hnamed⟩, fun t ht ht' => ?_, ⟨admin, ?_, hadminOf⟩, fun u hu hu' => ?_,
    fun u hu hu' => ?_, by rw [hrevoked]; exact h.unrevoked, h.ids⟩
  · rw [← hid]
    have hfind : db.tenants.find? platform.id = some platform :=
      (db.tenants.find?_eq_some _ _).mpr ⟨hmem, rfl⟩
    exact ((KeyedTable.find?_insert? htenants).2.2 _ hfresh).trans hfind
  · rw [KeyedTable.insert?_rows htenants] at ht
    obtain ht | ht := List.mem_append.mp ht
    · exact h.named t ht ht'
    · obtain rfl := List.mem_singleton.mp ht
      exact absurd (hnamed.trans ht'.symm) (hname platform hmem)
  · rw [← huserId]
    have hfind : db.users.find? admin.id = some admin :=
      (db.users.find?_eq_some _ _).mpr ⟨huser, rfl⟩
    exact ((KeyedTable.find?_insert? husers).2.2 _ hfreshUser).trans hfind
  · obtain hu | rfl := mem_users_insert husers hu
    · exact h.alone u hu hu'
    · exact absurd (hid.trans (hu'.symm.trans hof)) hfresh
  · obtain hu | rfl := mem_users_insert husers hu
    · exact h.provider u hu hu'
    · exact absurd (hrole.symm.trans hu') (by decide)

/-- No request of the plane takes it away. -/
theorem step (h : Intact rt tenantId userId w.db) (hplane : ProviderPlane e.request) :
    Intact rt tenantId userId (step rt w e).db := by
  have hrevoked : (SentinelAI.step rt w e).db.revokedTokens = w.db.revokedTokens := by
    refine step_kept .revokedTokens ?_
    cases he : e.request with
    | login body => simp [writes]
    | provider auth r => cases r <;> simp [writes]
    | _ =>
      rw [he] at hplane
      exact absurd hplane id
  cases plane_change rt w hplane with
  | kept htenants husers => exact h.kept htenants husers hrevoked
  | created tenant user htenants hname husers hof hrole =>
    exact h.created htenants hname husers hof hrole hrevoked
  | planned k plan htenants husers =>
    refine h.modified ?_ htenants husers hrevoked
    exact fun _ => rfl
  | statusSet auth k status p he hp htenants husers =>
    refine h.modified ?_ htenants husers hrevoked
    exact fun _ => rfl

/-- The administrator's tenant is the platform's. -/
theorem houses_iff (h : Intact rt tenantId userId db) {k : String} :
    Houses db k ↔ k = tenantId := by
  obtain ⟨user, hfind, hof, _, hrole, _⟩ := h.user
  obtain ⟨huser, hid⟩ := (db.users.find?_eq_some _ _).mp hfind
  constructor
  · rintro ⟨u, hu, hur, rfl⟩
    obtain rfl := db.users.eq_of_key_eq hu huser ((h.provider u hu hur).trans hid.symm)
    exact hof
  · rintro rfl
    exact ⟨user, huser, hrole, hof⟩

/-- While the platform's tenant is not suspended, only an administrator's request suspends it. -/
theorem suspends_of_suspended (h : Intact rt tenantId userId w.db)
    (hplane : ProviderPlane e.request)
    (hopen : ∀ t, w.db.tenants.find? tenantId = some t → t.status ≠ "suspended") {t : TenantRow}
    (ht : (SentinelAI.step rt w e).db.tenants.find? tenantId = some t)
    (hstatus : t.status = "suspended") : SuspendsProvider w e := by
  obtain ⟨tenant, hfind, _⟩ := h.tenant
  cases plane_change rt w hplane with
  | kept htenants husers =>
    rw [htenants] at ht
    exact absurd hstatus (hopen t ht)
  | created new user htenants hname husers hof hrole =>
    obtain ⟨hmem, hid⟩ := (w.db.tenants.find?_eq_some _ _).mp hfind
    have hfresh : tenantId ≠ new.id := by
      rw [← hid]
      exact KeyedTable.insert?_key_ne htenants tenant hmem
    rw [(KeyedTable.find?_insert? htenants).2.2 _ hfresh] at ht
    exact absurd hstatus (hopen t ht)
  | planned k plan htenants husers =>
    rw [htenants] at ht
    by_cases hk : tenantId = k
    · subst hk
      rw [KeyedTable.find?_modify_self _ hfind] at ht
      cases ht
      exact absurd hstatus (hopen tenant hfind)
    · rw [KeyedTable.find?_modify_ne _ hk] at ht
      exact absurd hstatus (hopen t ht)
  | statusSet auth k status p he hp htenants husers =>
    rw [htenants] at ht
    by_cases hk : tenantId = k
    · subst hk
      rw [KeyedTable.find?_modify_self _ hfind] at ht
      cases ht
      obtain rfl : status = "suspended" := hstatus
      exact ⟨auth, tenantId, p, he, h.houses_iff.mpr rfl, hp⟩
    · rw [KeyedTable.find?_modify_ne _ hk] at ht
      exact absurd hstatus (hopen t ht)

/-- An administrator's request that suspends the platform's tenant is answered. -/
theorem suspended_of_suspends (h : Intact rt tenantId userId w.db) (hs : SuspendsProvider w e) :
    ∃ t, (SentinelAI.step rt w e).db.tenants.find? tenantId = some t ∧
      t.status = "suspended" := by
  obtain ⟨tenant, hfind, _⟩ := h.tenant
  obtain ⟨auth, k, p, he, hhouses, hp⟩ := hs
  obtain rfl := h.houses_iff.mp hhouses
  obtain ⟨r, t, hrun, htenants⟩ := setTenantStatus_run rt (s := w.session) hp
    (show ProviderRoutes.validStatus.contains "suspended" = true by decide) hfind
  have hhandled : handled rt w e = .ok (.tenant r) t := (handled_eq_ok he rfl).mpr ⟨r, hrun, rfl⟩
  refine ⟨{ tenant with status := "suspended" }, ?_, rfl⟩
  rw [step_eq, hhandled]
  dsimp only
  rw [htenants]
  exact KeyedTable.find?_modify_self _ hfind

/-- While the platform's tenant is not suspended, a request suspends it exactly if it is an
    administrator's and sets that status. -/
theorem suspends_iff (h : Intact rt tenantId userId w.db) (hplane : ProviderPlane e.request)
    (hopen : ∀ t, w.db.tenants.find? tenantId = some t → t.status ≠ "suspended") :
    (∃ t, (SentinelAI.step rt w e).db.tenants.find? tenantId = some t ∧ t.status = "suspended") ↔
      SuspendsProvider w e := by
  constructor
  · rintro ⟨t, ht, hstatus⟩
    exact h.suspends_of_suspended hplane hopen ht hstatus
  · exact h.suspended_of_suspends

/-- The administrator's credentials find it. -/
theorem authenticate_run (h : Intact rt tenantId userId w.db) :
    ∃ tenant user, w.db.tenants.find? tenantId = some tenant ∧
      (TenantRepository.getByName platformTenant).run w.session = .ok (some tenant) w.session ∧
      (UserRepository.authenticate rt tenant.id Bootstrap.providerUser
        Bootstrap.providerPassword).run w.session = .ok (some user) w.session ∧
      tenant.id = tenantId ∧ user.id = userId ∧ user.username = Bootstrap.providerUser ∧
      user.role = "provider_admin" := by
  obtain ⟨tenant, hfind, hnamed⟩ := h.tenant
  obtain ⟨user, huser, hof, hname, hrole, hverify⟩ := h.user
  obtain ⟨hmem, hid⟩ := (w.db.tenants.find?_eq_some _ _).mp hfind
  obtain ⟨husermem, huserid⟩ := (w.db.users.find?_eq_some _ _).mp huser
  replace hid : tenant.id = tenantId := hid
  replace huserid : user.id = userId := huserid
  have htenant : (TenantRepository.getByName platformTenant).run w.session =
      .ok (some tenant) w.session := by
    refine selectOne_eq_ok.mpr ⟨KeyedTable.select_eq_singleton _ hmem fun t ht => ?_, rfl⟩
    rw [beq_iff_eq]
    constructor
    · exact fun ht' => w.db.tenants.eq_of_key_eq ht hmem ((h.named t ht ht').trans hid.symm)
    · rintro rfl
      exact hnamed
  have hbyname : (UserRepository.getByUsername tenant.id Bootstrap.providerUser).run w.session =
      .ok (some user) w.session := by
    refine selectOne_eq_ok.mpr ⟨KeyedTable.select_eq_singleton _ husermem fun u hu => ?_, rfl⟩
    rw [Bool.and_eq_true, beq_iff_eq, beq_iff_eq]
    constructor
    · rintro ⟨hu', _⟩
      exact w.db.users.eq_of_key_eq hu husermem
        ((h.alone u hu (hu'.trans hid)).trans huserid.symm)
    · rintro rfl
      exact ⟨hof.trans hid.symm, hname⟩
  refine ⟨tenant, user, hfind, htenant, ?_, hid, huserid, hname, hrole⟩
  unfold UserRepository.authenticate
  rw [run_bind_ok hbyname]
  dsimp only
  rw [hverify]
  rfl

/-- Unless its tenant is suspended, the administrator's login is answered with a token that has
    all its claims. -/
theorem login_run (h : Intact rt tenantId userId w.db)
    (hopen : ∀ t, w.db.tenants.find? tenantId = some t → t.status ≠ "suspended") (env : Env) :
    ∃ r t, handled rt w ⟨env, .login providerLogin⟩ = .ok (.token r) t ∧
      r.role = "provider_admin" ∧ r.accessToken ∈ t.issued ∧
      r.accessToken.tenantId = tenantId ∧ r.accessToken.role = "provider_admin" ∧
      r.accessToken.claimsMissing = false := by
  obtain ⟨tenant, user, hfind, htenant, hauth, hid, huserid, hname, hrole⟩ := h.authenticate_run
  have hactive : (raiseIf (tenant.status == "suspended") (httpError 403 "Tenant is suspended")).run
      w.session = .ok () w.session := raiseIf_eq_ok.mpr ⟨by simpa using hopen tenant hfind, rfl⟩
  have hlogin : ∃ r t, (Routes.login rt env providerLogin).run w.session = .ok r t ∧
      r.role = user.role ∧ r.accessToken ∈ t.issued ∧ r.accessToken.tenantId = tenant.id ∧
      r.accessToken.role = user.role ∧ r.accessToken.sub = user.username ∧
      r.accessToken.uid = user.id := by
    unfold Routes.login providerLogin
    dsimp only
    rw [run_bind_ok htenant]
    dsimp only
    rw [run_bind_ok hactive, run_bind_ok hauth]
    dsimp only
    rw [run_bind_ok (AuditService.recordEntry_run ..)]
    exact ⟨_, _, rfl, rfl, List.mem_append_right _ (List.mem_singleton_self _), rfl, rfl, rfl, rfl⟩
  obtain ⟨r, t, hrun, hr, hissued, htoken, htokenRole, hsub, huid⟩ := hlogin
  refine ⟨r, t, run_bind_ok hrun, hr.trans hrole, hissued, htoken.trans hid,
    htokenRole.trans hrole, ?_⟩
  unfold Token.claimsMissing
  rw [hsub, hname, htoken, hid, htokenRole, hrole, huid, huserid]
  simp [Bootstrap.providerUser, h.ids.1, h.ids.2]

/-- The plane is unlocked exactly while the platform's tenant is not suspended. -/
theorem unlocked_iff (h : Intact rt tenantId userId w.db) : Unlocked rt w ↔
    ∀ t, w.db.tenants.find? tenantId = some t → t.status ≠ "suspended" := by
  constructor
  · intro hunlocked t ht
    obtain ⟨hmem, hid⟩ := (w.db.tenants.find?_eq_some _ _).mp ht
    exact hunlocked.unsuspended t hmem (h.houses_iff.mpr hid)
  · intro hopen
    refine ⟨fun t ht hhouses => ?_, providerLogin, fun env => ?_⟩
    · exact hopen t ((w.db.tenants.find?_eq_some _ _).mpr ⟨ht, h.houses_iff.mp hhouses⟩)
    obtain ⟨r, t, hrun, hrole, hissued, htoken, htokenRole, hclaims⟩ := h.login_run hopen env
    refine ⟨r, t, hrun, hrole, fun env' tenant htenant hexp => ?_⟩
    let w' := SentinelAI.step rt w ⟨env, .login providerLogin⟩
    let e' : Event := ⟨env', .provider (.bearer r.accessToken) (.setStatus tenant.id "active")⟩
    have hw' : Intact rt tenantId userId w'.db := h.step trivial
    have htenants : w'.db.tenants = w.db.tenants := step_kept .tenants (by simp [writes])
    have hsigned : r.accessToken ∈ w'.issued := by
      show r.accessToken ∈ (SentinelAI.step rt w _).issued
      rw [step_eq, hrun]
      exact hissued
    have hid : Identified w'.db w'.issued (env'.now 0) (.bearer r.accessToken) r.accessToken := by
      refine ⟨rfl, hsigned, hexp, hclaims, ?_, fun platform hplatform => ?_⟩
      · unfold KeyedTable.find?
        rw [hw'.unrevoked]
        rfl
      · rw [htenants, htoken] at hplatform
        exact hopen platform hplatform
    have hp : Admitted w'.db w'.issued (env'.now 0) (.bearer r.accessToken) .provider
        r.accessToken.principal := ⟨r.accessToken, hid, rfl, (hasPermission_provider _).mpr htokenRole⟩
    have hfind : w'.db.tenants.find? tenant.id = some tenant := by
      rw [htenants]
      exact (w.db.tenants.find?_eq_some _ _).mpr ⟨htenant, rfl⟩
    obtain ⟨b, u, hset, hmodified⟩ := setTenantStatus_run rt (s := w'.session) hp
      (show ProviderRoutes.validStatus.contains "active" = true by decide) hfind
    have hhandled : handled rt w' e' = .ok (.tenant b) u := run_bind_ok hset
    refine ⟨(succeeds_iff rt w' e').mpr ⟨_, u, hhandled⟩, ?_⟩
    show (SentinelAI.step rt w' e').db.tenants.find? tenant.id = _
    rw [step_eq, hhandled]
    dsimp only
    rw [hmodified]
    exact KeyedTable.find?_modify_self _ hfind

end Intact

/-! ## The seeded database -/

section

variable {env : Env} {s t : Session}

theorem ensure_eq_ok {name : String} {tenant : TenantRow}
    (hnew : ∀ r ∈ s.db.tenants.rows, r.name ≠ name)
    (h : (TenantRepository.ensure env name).run s = .ok tenant t) :
    (TenantRepository.create env name "active" "enterprise").run s = .ok tenant t := by
  obtain ⟨hfound, _⟩ | ⟨_, hcreate⟩ := ensure_cases h
  · obtain ⟨hrow, hname⟩ := of_tenantsNamed hfound
    exact absurd hname (hnew tenant hrow)
  · exact hcreate

theorem ensureUser_eq_ok {tenantId username password role : String} {x : Unit}
    (hnew : ∀ u ∈ s.db.users.rows, u.username ≠ username)
    (h : (Bootstrap.ensureUser env tenantId username password role).run s = .ok x t) :
    ∃ user, (UserRepository.create env tenantId username password role none).run s =
      .ok user t := by
  obtain ⟨⟨user, hfound⟩, _⟩ | ⟨_, hcreate⟩ := ensureUser_cases h
  · obtain ⟨hrow, _, hname⟩ := of_usersNamed hfound
    exact absurd hname (hnew user hrow)
  · exact hcreate

/-- What `seed_default` stores in a new database. -/
theorem seedDefault_stores (h : (Bootstrap.seedDefault env).run (.start .empty [] []) = .ok () t) :
    ∃ default platform analyst provider, t.committed.tenants.rows = [default, platform] ∧
      t.committed.users.rows = [analyst, provider] ∧ t.committed.revokedTokens.rows = [] ∧
      default.name = Bootstrap.defaultTenant ∧ analyst.role = "admin" ∧
      analyst.tenantId = default.id ∧ platform.id = env.uuid4 2 ∧
      platform.name = platformTenant ∧ platform.status = "active" ∧
      provider.id = env.uuid4 3 ∧ provider.tenantId = platform.id ∧
      provider.username = Bootstrap.providerUser ∧ provider.role = "provider_admin" ∧
      provider.passwordHash = hashPassword env Bootstrap.providerPassword := by
  obtain ⟨default, s₁, s₂, platform, s₃, s₄, hdefault, hanalyst, hplatform, hprovider, hdb⟩ :=
    seedDefault_eq_ok h
  rw [hdb]
  obtain ⟨rfl, _, tenants, htenants, rfl⟩ :=
    TenantRepository.create_eq_ok (ensure_eq_ok (fun r hr => (List.not_mem_nil hr).elim) hdefault)
  obtain ⟨analyst, hanalyst⟩ := ensureUser_eq_ok (fun u hu => (List.not_mem_nil hu).elim) hanalyst
  obtain ⟨rfl, users, husers, rfl⟩ := UserRepository.create_eq_ok hanalyst
  have hrows := KeyedTable.insert?_rows htenants
  have husersRows := KeyedTable.insert?_rows husers
  obtain ⟨rfl, _, tenants', htenants', rfl⟩ := by
    refine TenantRepository.create_eq_ok (ensure_eq_ok (fun r hr => ?_) hplatform)
    replace hr : r ∈ tenants.rows := hr
    rw [hrows] at hr
    obtain rfl := List.mem_singleton.mp hr
    simp [Bootstrap.defaultTenant, platformTenant]
  obtain ⟨provider, hprovider⟩ := by
    refine ensureUser_eq_ok (fun u hu => ?_) hprovider
    replace hu : u ∈ users.rows := hu
    rw [husersRows] at hu
    obtain rfl := List.mem_singleton.mp hu
    simp [Bootstrap.defaultUser, Bootstrap.providerUser]
  obtain ⟨rfl, users', husers', rfl⟩ := UserRepository.create_eq_ok hprovider
  have hrows' := KeyedTable.insert?_rows htenants'
  have husersRows' := KeyedTable.insert?_rows husers'
  replace hrows' : tenants'.rows = tenants.rows ++ _ := hrows'
  replace husersRows' : users'.rows = users.rows ++ _ := husersRows'
  rw [hrows] at hrows'
  rw [husersRows] at husersRows'
  exact ⟨_, _, _, _, hrows', husersRows', rfl, rfl, rfl, rfl, rfl, rfl, rfl, rfl, rfl, rfl, rfl,
    rfl⟩

end

theorem Seeded.intact {rt : Runtime} {env : Env} {db : Database} (h : Seeded rt env db) :
    Intact rt (env.uuid4 2) (env.uuid4 3) db ∧
      ∀ t, db.tenants.find? (env.uuid4 2) = some t → t.status ≠ "suspended" := by
  obtain ⟨t, hseed, rfl⟩ := h.stored
  obtain ⟨default, platform, analyst, provider, htenants, husers, hrevoked, hdefault, hanalyst,
    hanalystOf, hid, hname, hstatus, huserId, hof, husername, hrole, hhash⟩ :=
    seedDefault_stores hseed
  have hplatform : platform ∈ t.committed.tenants.rows := by rw [htenants]; simp
  have hprovider : provider ∈ t.committed.users.rows := by rw [husers]; simp
  have hfind : t.committed.tenants.find? (env.uuid4 2) = some platform :=
    (t.committed.tenants.find?_eq_some _ _).mpr ⟨hplatform, hid⟩
  have hother : default.id ≠ platform.id := by
    intro heq
    have hmem : default ∈ t.committed.tenants.rows := by rw [htenants]; simp
    have hsame := t.committed.tenants.eq_of_key_eq hmem hplatform heq
    rw [hsame, hname] at hdefault
    exact absurd hdefault (by decide)
  refine ⟨⟨⟨platform, hfind, hname⟩, fun r hr hr' => ?_, ⟨provider, ?_, hof.trans hid, husername,
    hrole, ?_⟩, fun u hu hu' => ?_, fun u hu hu' => ?_, hrevoked, h.ids 2, h.ids 3⟩, ?_⟩
  · rw [htenants] at hr
    obtain rfl | hr := List.mem_cons.mp hr
    · exact absurd (hdefault.symm.trans hr') (by decide)
    · rw [List.mem_singleton.mp hr, hid]
  · exact (t.committed.users.find?_eq_some _ _).mpr ⟨hprovider, huserId⟩
  · rw [hhash]
    exact h.hashes _
  · rw [husers] at hu
    obtain rfl | hu := List.mem_cons.mp hu
    · exact absurd (hanalystOf.symm.trans (hu'.trans hid.symm)) hother
    · rw [List.mem_singleton.mp hu, huserId]
  · rw [husers] at hu
    obtain rfl | hu := List.mem_cons.mp hu
    · exact absurd (hanalyst.symm.trans hu') (by decide)
    · rw [List.mem_singleton.mp hu, huserId]
  · intro r hr
    cases hfind.symm.trans hr
    rw [hstatus]
    decide

/-! ## Locked out -/

/-- From the seeded database, whatever tokens are about: in every state a run of the plane
    reaches no provider administrator's tenant is suspended, and one of them can log in and
    reactivate any tenant, exactly if the run has no request of an administrator that suspends
    the tenant of one. -/
theorem never_locked_out_iff (rt : Runtime) (env : Env) (w : World) (es : List Event)
    (hseed : Seeded rt env w.db) (hplane : ∀ e ∈ es, ProviderPlane e.request) :
    (∀ before after, es = before ++ after → Unlocked rt (run rt w before)) ↔
      ∀ before e after, es = before ++ e :: after → ¬ SuspendsProvider (run rt w before) e := by
  obtain ⟨hintact, hopen⟩ := hseed.intact
  refine throughout_iff (I := fun w => Intact rt (env.uuid4 2) (env.uuid4 3) w.db)
    (P := fun e => ProviderPlane e.request) (fun w e hw he => hw.step he) (fun w e hw he hgood => ?_)
    hintact (hintact.unlocked_iff.mpr hopen) hplane
  rw [(hw.step he).unlocked_iff, ← hw.suspends_iff he (hw.unlocked_iff.mp hgood)]
  simp

/-! ## An administrator who suspends its own tenant -/

/-- The environment of a first start. -/
def firstStart : Env where
  now := fun _ => 0
  uuid4
    | 0 => "t0"
    | 1 => "u0"
    | 2 => "t1"
    | _ => "u1"

/-- A new platform. -/
def newPlatform : World where
  db := (stateOf ((Bootstrap.seedDefault firstStart).run (.start .empty [] []))).committed

theorem newPlatform_seeded : Seeded .plain firstStart newPlatform.db where
  stored := ⟨_, rfl, rfl⟩
  ids k := by
    match k with
    | 0 | 1 | 2 => decide
    | k + 3 =>
      show "u1" ≠ ""
      decide
  hashes _ := rfl

/-- The administrator logs in. -/
def providerSignsIn : Event where
  env := { now := fun _ => 0, uuid4 := fun _ => "j1" }
  request := .login providerLogin

def providerToken : Token where
  sub := "provider"
  uid := "u1"
  tenantId := "t1"
  role := "provider_admin"
  jti := "j1"
  exp := 3600

/-- The administrator suspends a tenant. -/
def providerSuspends (tenantId : String) : Event where
  env := { now := fun _ => 0, uuid4 := fun _ => "j2" }
  request := .provider (.bearer providerToken) (.setStatus tenantId "suspended")

/-- After the suspension of the default tenant, the plane is unlocked. -/
theorem never_locked_out_iff_default :
    Unlocked .plain (run .plain newPlatform [providerSignsIn, providerSuspends "t0"]) := by
  refine (never_locked_out_iff .plain firstStart newPlatform
    [providerSignsIn, providerSuspends "t0"] newPlatform_seeded (by simp [ProviderPlane,
      providerSignsIn, providerSuspends])).mpr ?_ _ [] rfl
  intro before e after he hsuspends
  obtain ⟨auth, tenantId, p, hrequest, hhouses, _⟩ := hsuspends
  match before with
  | [] =>
    cases he
    cases hrequest
  | [_] =>
    cases he
    cases hrequest
    exact absurd hhouses (by unfold Houses; decide +kernel)
  | _ :: _ :: before =>
    have hlen := congrArg List.length he
    simp at hlen

/-- After the suspension of its own tenant, it is not. -/
theorem provider_locked_out :
    ¬ ∀ (rt : Runtime) (env : Env) (w : World) (es : List Event), Seeded rt env w.db →
      (∀ e ∈ es, ProviderPlane e.request) → Unlocked rt (run rt w es) := by
  intro h
  have hunlocked := h .plain firstStart newPlatform [providerSignsIn, providerSuspends "t1"]
    newPlatform_seeded (by simp [ProviderPlane, providerSignsIn, providerSuspends])
  have hsuspended : ∃ t ∈ (run .plain newPlatform
      [providerSignsIn, providerSuspends "t1"]).db.tenants.rows, t.status = "suspended" ∧
        ∃ u ∈ (run .plain newPlatform [providerSignsIn, providerSuspends "t1"]).db.users.rows,
          u.role = "provider_admin" ∧ u.tenantId = t.id := by decide +kernel
  obtain ⟨t, ht, hstatus, hhouses⟩ := hsuspended
  exact hunlocked.unsuspended t ht hhouses hstatus

end SentinelAI
