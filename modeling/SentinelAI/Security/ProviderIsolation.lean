import SentinelAI.Security.Accounts

/-
  The provider plane. `require_provider` accepts the role `provider_admin` alone, and the
  role is meant for users of the platform's tenant. Where such a user's role can come from:
  it had it, or an admin's create-user or role-change request named it. The admin routes
  check the role against all roles, so an admin of any tenant can do that; as long as none
  does, no run gives the role to a user, or to a token, outside the platform's tenant.
-/

namespace SentinelAI

open Lib

/-! ## Where roles come from -/

/-- Every user has the tenant and the role of a user there was before, or ones `A` allows. -/
def RolesFrom (A : String → String → Prop) (s t : Session) : Prop :=
  ∀ u ∈ t.db.users.rows,
    (∃ v ∈ s.db.users.rows, v.tenantId = u.tenantId ∧ v.role = u.role) ∨ A u.tenantId u.role

/-! ## Requests that give roles -/

/-- The request gives a user of the tenant the role: it is admitted, it is well formed, and
    the user is new to the tenant (create) or one of the tenant's (role change). -/
inductive Grants (w : World) (e : Event) (tenantId role : String) : Prop
  | created (auth : Authorization) (body : AdminRoutes.CreateUserRequest) (p : Principal)
    (he : e.request = .admin auth (.createUser body))
    (hp : Admitted w.db w.issued (e.env.now 0) auth .admin p) (ht : p.tenantId = tenantId)
    (hr : body.role = role) (hu : 1 ≤ body.username.length ∧ body.username.length ≤ 150)
    (hpw : 8 ≤ body.password.length ∧ body.password.length ≤ 200)
    (hfree : ∀ u ∈ w.db.users.rows, u.tenantId = tenantId → u.username ≠ body.username)
    (hid : ∀ u ∈ w.db.users.rows, u.id ≠ e.env.uuid4 0)
  | changed (auth : Authorization) (userId : String) (p : Principal)
    (he : e.request = .admin auth (.updateRole userId role))
    (hp : Admitted w.db w.issued (e.env.now 0) auth .admin p) (ht : p.tenantId = tenantId)
    (u : UserRow) (hu : u ∈ w.db.users.rows) (htu : u.tenantId = tenantId) (hid : u.id = userId)

/-- The roles a request may introduce: the admin of a new tenant, or what it grants. -/
def Introduces (w : World) (e : Event) (tenantId role : String) : Prop :=
  role = Role.admin.value ∨ Grants w e tenantId role

section

variable (rt : Runtime) {w : World} {e : Event} {auth : Authorization}

/-- A user after a request has the tenant and the role of a user before it, or ones the
    request introduced. -/
theorem step_rolesFrom (w : World) (e : Event) :
    RolesFrom (Introduces w e) w.session (step rt w e).session := by
  intro u hu
  obtain hold | hwritten := step_users_cases rt w e u hu
  · exact Or.inl ⟨u, hold, rfl, rfl⟩
  · cases hwritten with
    | created auth body p he hp hname hpassword hrole hfree hid =>
      have hgrants : Grants w e p.tenantId body.role :=
        .created auth body p he hp rfl rfl hname hpassword hfree hid
      exact Or.inr (Or.inr hgrants)
    | roleChanged auth userId role p user he hp hrole huser hof hid =>
      have hgrants : Grants w e user.tenantId role :=
        .changed auth userId p he hp hof.symm user huser rfl hid
      exact Or.inr (Or.inr hgrants)
    | linked auth userId externalId p user he hp huser hof hid =>
      exact Or.inl ⟨user, huser, rfl, rfl⟩
    | tenantAdmin auth body he hname => exact Or.inr (Or.inl rfl)

/-! ## Where the roles of tokens come from -/

/-- The users are as they were, and every token signed since names the tenant and the role
    of one of them, or the role `admin`. -/
def TokensFrom (s t : Session) : Prop :=
  t.db.users = s.db.users ∧ ∃ new, t.issued = s.issued ++ new ∧ ∀ k ∈ new,
    (∃ u ∈ s.db.users.rows, u.tenantId = k.tenantId ∧ u.role = k.role) ∨ k.role = Role.admin.value

/-- A request that can sign a token signs it for a user of that moment. -/
theorem handled_tokensFrom (h : .tokens ∈ footprint e.request) :
    TokensFrom w.session (stateOf (handled rt w e)) := by
  have husers : .users ∉ footprint e.request := by
    obtain ⟨body, he⟩ | ⟨auth, tenantId, he⟩ := tokens_footprint h <;> simp [he, footprint]
  have hkept : KeptTable Database.users w.session (stateOf (handled rt w e)) :=
    handled_same (p := .users) husers
  refine ⟨hkept.1, ?_⟩
  rw [← issued_eq]
  obtain hnone | ⟨k, hsigned, hissues⟩ := step_signs rt w e
  · exact ⟨[], hnone.trans (List.append_nil _).symm, by simp⟩
  · refine ⟨[k], hsigned, fun k' hk' => ?_⟩
    obtain rfl := List.mem_singleton.mp hk'
    obtain ⟨user, huser, rfl⟩ := hissues.user
    exact Or.inl ⟨user, huser, rfl, rfl⟩

/-- The tokens a request signs. -/
theorem step_tokensFrom (w : World) (e : Event) :
    ∃ new, (step rt w e).issued = w.issued ++ new ∧ ∀ k ∈ new,
      (∃ u ∈ w.db.users.rows, u.tenantId = k.tenantId ∧ u.role = k.role) ∨
        k.role = Role.admin.value := by
  by_cases hF : .tokens ∈ footprint e.request
  · rw [issued_eq]
    exact (handled_tokensFrom rt hF).2
  · exact ⟨[], by rw [step_issued hF, List.append_nil], by simp⟩

/-! ## A granted role is given -/

omit rt in
/-- A user under a fresh id is added. -/
theorem UserRepository.create_run (env : Env) (tenantId username password role : String)
    (x : Option String) (s : Session) (hid : ∀ u ∈ s.db.users.rows, u.id ≠ env.uuid4 s.uuids) :
    ∃ user t, (UserRepository.create env tenantId username password role x).run s = .ok user t ∧
      user ∈ t.db.users.rows ∧ user.tenantId = tenantId ∧ user.role = role := by
  let user : UserRow :=
    { id := env.uuid4 s.uuids
      tenantId := tenantId
      username := username
      passwordHash := hashPassword env password
      role := role
      externalId := x
      createdAt := env.now s.ticks }
  have hfresh : ∀ r ∈ s.db.users.rows, Keyed.key r ≠ Keyed.key user := hid
  unfold UserRepository.create
  rw [run_bind_ok (uuidHex_run env s), run_bind_ok (readClock_run env _)]
  obtain ⟨users, hins, hrun⟩ | ⟨hnone, _⟩ := insertRow_cases Tables.users user
    ({ s with uuids := s.uuids + 1 } : Session).ticked
  · refine ⟨user, _, run_bind_ok hrun, ?_, rfl, rfl⟩
    show user ∈ users.rows
    rw [KeyedTable.insert?_rows hins]
    exact List.mem_append_right _ (List.mem_singleton_self _)
  · obtain ⟨users, hins⟩ := KeyedTable.insert?_fresh hfresh
    exact absurd (hnone.symm.trans hins) (by simp)

theorem AdminRoutes.createUser_run {body : AdminRoutes.CreateUserRequest} {env : Env}
    {p : Principal} {s : Session}
    (hp : Admitted s.db s.issued (env.now s.ticks) auth .admin p)
    (hu : 1 ≤ body.username.length ∧ body.username.length ≤ 150)
    (hpw : 8 ≤ body.password.length ∧ body.password.length ≤ 200)
    (hrole : AdminRoutes.validRoles.contains body.role = true)
    (hfree : ∀ u ∈ s.db.users.rows, u.tenantId = p.tenantId → u.username ≠ body.username)
    (hid : ∀ u ∈ s.db.users.rows, u.id ≠ env.uuid4 s.uuids) :
    ∃ r t, (AdminRoutes.createUser rt env auth body).run s = .ok r t ∧
      ∃ u ∈ t.db.users.rows, u.tenantId = p.tenantId ∧ u.role = body.role := by
  have hnone : (UserRepository.getByUsername p.tenantId body.username).run s.ticked =
      .ok none s.ticked := by
    refine selectOne_eq_ok.mpr ⟨List.filter_eq_nil_iff.mpr fun u hu h => ?_, rfl⟩
    simp only [Bool.and_eq_true, beq_iff_eq] at h
    exact hfree u hu h.1 h.2
  obtain ⟨user, t, hrun, hmem, htenant, hur⟩ :=
    UserRepository.create_run env p.tenantId body.username body.password body.role none s.ticked hid
  have hlen : ∀ (f : String) (lo hi : Nat) (v : String), lo ≤ v.length ∧ v.length ≤ hi →
      (Deps.validateLength f lo hi v).run s.ticked = .ok () s.ticked := by
    intro f lo hi v h
    exact raiseIf_eq_ok.mpr ⟨by simp [h.1, h.2], rfl⟩
  have hcheck : (AdminRoutes.checkRole body.role).run s.ticked = .ok () s.ticked :=
    raiseIf_eq_ok.mpr ⟨by rw [hrole]; rfl, rfl⟩
  have hexists : (raiseIf (none : Option UserRow).isSome
      (httpError 409 "Username already exists")).run s.ticked = .ok () s.ticked := rfl
  unfold AdminRoutes.createUser
  rw [run_bind_ok (require_eq_ok.mpr ⟨hp, rfl⟩), run_bind_ok (hlen _ _ _ _ hu),
    run_bind_ok (hlen _ _ _ _ hpw), run_bind_ok hcheck, run_bind_ok hnone, run_bind_ok hexists,
    run_bind_ok hrun, run_bind_ok (AuditService.recordEntry_run ..)]
  exact ⟨_, _, rfl, user, hmem, htenant, hur⟩

theorem AdminRoutes.updateRole_run {userId role : String} {env : Env} {p : Principal}
    {s : Session} (hp : Admitted s.db s.issued (env.now s.ticks) auth .admin p)
    (hrole : AdminRoutes.validRoles.contains role = true) {u : UserRow}
    (hu : u ∈ s.db.users.rows) (htu : u.tenantId = p.tenantId) (hid : u.id = userId) :
    ∃ r t, (AdminRoutes.updateRole rt env auth userId role).run s = .ok r t ∧
      ∃ u ∈ t.db.users.rows, u.tenantId = p.tenantId ∧ u.role = role := by
  have hget : (UserRepository.get p.tenantId userId).run s.ticked = .ok (some u) s.ticked := by
    rw [UserRepository.get_run]
    have hfind : s.db.users.find? userId = some u := (s.db.users.find?_eq_some userId u).mpr ⟨hu, hid⟩
    show EStateM.Result.ok ((s.db.users.find? userId).filter _) _ = _
    rw [hfind]
    simp [htu]
  have hcheck : (AdminRoutes.checkRole role).run s.ticked = .ok () s.ticked :=
    raiseIf_eq_ok.mpr ⟨by rw [hrole]; rfl, rfl⟩
  have hset : ∃ t, (UserRepository.setRole p.tenantId userId role).run s.ticked =
      .ok (some { u with role := role }) t ∧ { u with role := role } ∈ t.db.users.rows := by
    unfold UserRepository.setRole UserRepository.update
    rw [run_bind_ok hget]
    exact ⟨_, rfl, (KeyedTable.mem_modify (f := fun v : UserRow => { v with role := role })
      fun _ => rfl).mpr (Or.inl ⟨u, hu, rfl, rfl⟩)⟩
  obtain ⟨t, hset, hmem⟩ := hset
  unfold AdminRoutes.updateRole
  rw [run_bind_ok (require_eq_ok.mpr ⟨hp, rfl⟩), run_bind_ok hcheck, run_bind_ok hset,
    run_bind_ok (orRaise_eq_ok.mpr ⟨rfl, rfl⟩), run_bind_ok (AuditService.recordEntry_run ..)]
  exact ⟨_, _, rfl, _, hmem, htu, rfl⟩

/-- A request that grants a role leaves a user who has it. -/
theorem Grants.given {tenantId role : String} (h : Grants w e tenantId role)
    (hrole : AdminRoutes.validRoles.contains role = true) :
    ∃ u ∈ (step rt w e).db.users.rows, u.tenantId = tenantId ∧ u.role = role := by
  have key : ∃ body t, handled rt w e = .ok body t ∧
      ∃ u ∈ t.db.users.rows, u.tenantId = tenantId ∧ u.role = role := by
    cases h with
    | created auth body p he hp ht hr hu hpw hfree hid =>
      subst ht hr
      obtain ⟨r, t, hrun, hgiven⟩ := AdminRoutes.createUser_run rt
        (s := .start w.db w.captured w.issued) hp hu hpw hrole hfree hid
      exact ⟨.user r, t, (handled_eq_ok he rfl).mpr ⟨r, hrun, rfl⟩, hgiven⟩
    | changed auth userId p he hp ht u hu htu hid =>
      subst ht
      obtain ⟨r, t, hrun, hgiven⟩ := AdminRoutes.updateRole_run rt
        (s := .start w.db w.captured w.issued) hp hrole hu htu hid
      exact ⟨.user r, t, (handled_eq_ok he rfl).mpr ⟨r, hrun, rfl⟩, hgiven⟩
  obtain ⟨body, t, hrun, hgiven⟩ := key
  rw [step_eq, hrun]
  exact hgiven

end

/-! ## Isolation over runs -/

/-- Every provider administrator is a user of the platform's tenant. -/
def ProvidersIn (platform : String) (db : Database) : Prop :=
  ∀ u ∈ db.users.rows, u.role = "provider_admin" → u.tenantId = platform

instance (platform : String) (db : Database) : Decidable (ProvidersIn platform db) :=
  inferInstanceAs (Decidable (∀ u ∈ db.users.rows, u.role = "provider_admin" → u.tenantId = platform))

/-- An admitted request makes a user outside the platform's tenant a provider administrator. -/
def MakesProvider (platform : String) (w : World) (e : Event) : Prop :=
  ∃ tenantId, tenantId ≠ platform ∧ Grants w e tenantId "provider_admin"

theorem step_providersIn (rt : Runtime) {platform : String} {w : World} (e : Event)
    (hw : ProvidersIn platform w.db) :
    ProvidersIn platform (step rt w e).db ↔ ¬ MakesProvider platform w e := by
  constructor
  · rintro h ⟨tenantId, hne, hg⟩
    obtain ⟨u, hu, rfl, hr⟩ := hg.given rt (by decide)
    exact hne (h u hu hr)
  · intro h u hu hr
    rcases step_rolesFrom rt w e u hu with ⟨v, hv, ht, hrole⟩ | hadmin | hg
    · rw [← ht]
      exact hw v hv (hrole.trans hr)
    · exact absurd (hr.symm.trans hadmin) (by decide)
    · by_contra hne
      exact h ⟨u.tenantId, hne, hr ▸ hg⟩

theorem step_tokens (rt : Runtime) {platform : String} {w : World} (e : Event)
    (hw : ProvidersIn platform w.db) :
    ∃ new, (step rt w e).issued = w.issued ++ new ∧
      ∀ k ∈ new, k.role = "provider_admin" → k.tenantId = platform := by
  obtain ⟨new, hnew, hk⟩ := step_tokensFrom rt w e
  refine ⟨new, hnew, fun k hmem hr => ?_⟩
  rcases hk k hmem with ⟨u, hu, ht, hrole⟩ | hadmin
  · rw [← ht]
    exact hw u hu (hrole.trans hr)
  · exact absurd (hr.symm.trans hadmin) (by decide)

/-- From rows where provider administrators are the platform's: the runs that keep them so,
    in every state reached, are the runs in which no request makes one elsewhere. In such a
    run no token signed for another tenant passes `require_provider`. -/
theorem provider_isolation (rt : Runtime) (platform : String) (w w' : World) (es : List Event)
    (hw : ProvidersIn platform w.db) :
    (Steps (Guarded (Stepped rt) fun w e => ProvidersIn platform (step rt w e).db) w es w' ↔
      Steps (Guarded (Stepped rt) fun w e => ¬ MakesProvider platform w e) w es w') ∧
    (Steps (Guarded (Stepped rt) fun w e => ¬ MakesProvider platform w e) w es w' →
      ProvidersIn platform w'.db ∧ ∃ new, w'.issued = w.issued ++ new ∧
        ∀ k ∈ new, k.tenantId ≠ platform → ∀ env s p t,
          (Deps.requireProvider env (.bearer k)).run s ≠ .ok p t) := by
  constructor
  · refine Steps.guarded_iff (I := fun w => ProvidersIn platform w.db)
      (fun w e _ _ hw => step_providersIn rt e hw) (fun w e w' hs _ hC => ?_) hw
    rw [hs]
    exact hC
  · intro hrun
    have key : ProvidersIn platform w'.db ∧ ∃ new, w'.issued = w.issued ++ new ∧
        ∀ k ∈ new, k.role = "provider_admin" → k.tenantId = platform := by
      refine Steps.inv (I := fun v => ProvidersIn platform v.db ∧ ∃ new,
        v.issued = w.issued ++ new ∧ ∀ k ∈ new, k.role = "provider_admin" → k.tenantId = platform)
        (fun v e v' hs hv => ?_) hrun ⟨hw, [], by simp, by simp⟩
      obtain ⟨hv, new, hnew, hk⟩ := hv
      obtain ⟨rfl, hC⟩ := hs
      obtain ⟨new', hnew', hk'⟩ := step_tokens rt e hv
      refine ⟨(step_providersIn rt e hv).mpr hC, new ++ new', ?_, fun k hmem => ?_⟩
      · rw [hnew', hnew, List.append_assoc]
      · exact (List.mem_append.mp hmem).elim (hk k) (hk' k)
    obtain ⟨hdb, new, hnew, hk⟩ := key
    refine ⟨hdb, new, hnew, fun k hmem hne env s p t h => ?_⟩
    exact hne (hk k hmem (requireProvider_ok h))

/-! ## A tenant's admin makes one -/

/-- The platform's provider administrator, and a tenant with its admin. -/
def acme : World where
  db := { Database.empty with
    tenants := ⟨[{ id := "t0", name := platformTenant, createdAt := 0 },
      { id := "t1", name := "acme", createdAt := 0 }], by decide⟩
    users := ⟨[{ id := "u0", tenantId := "t0", username := "provider", passwordHash := "",
                 role := "provider_admin", createdAt := 0 },
      { id := "u1", tenantId := "t1", username := "root", passwordHash := "", role := "admin",
        createdAt := 0 }], by decide⟩ }

/-- The provider administrator logs in. -/
def platformLogin : Event where
  env := { now := fun _ => 0, uuid4 := fun _ => "j0" }
  request := .login { username := "provider", password := "correct horse", tenant := platformTenant }

/-- The token the admin's login is answered with. -/
def acmeToken : Token where
  sub := "root"
  uid := "u1"
  tenantId := "t1"
  role := "admin"
  jti := "j1"
  exp := 3600

def acmeLogin : Event where
  env := { now := fun _ => 0, uuid4 := fun _ => "j1" }
  request := .login { username := "root", password := "correct horse", tenant := "acme" }

/-- The admin creates a user with a role. -/
def acmeCreates (role : String) : Event where
  env := { now := fun _ => 0, uuid4 := fun _ => "u2" }
  request := .admin (.bearer acmeToken)
    (.createUser { username := "eve", password := "correct horse", role := role })

/-- The admin creates an analyst while the provider administrator is signed in. -/
def platformAtWork : List Event := [platformLogin, acmeLogin, acmeCreates "analyst"]

theorem provider_isolation_login :
    (run .plain acme platformAtWork).issued.map (fun k => (k.tenantId, k.role)) =
        [("t0", "provider_admin"), ("t1", "admin")] ∧
      ProvidersIn "t0" (run .plain acme platformAtWork).db ∧
      ∃ new, (run .plain acme platformAtWork).issued = acme.issued ++ new ∧
        ∀ k ∈ new, k.tenantId ≠ "t0" → ∀ env s p t,
          (Deps.requireProvider env (.bearer k)).run s ≠ .ok p t := by
  refine ⟨by decide +kernel, (provider_isolation .plain "t0" acme _ platformAtWork (by decide)).2 ?_⟩
  -- the two logins create no one, and the account the admin creates is an analyst's
  refine Steps.cons ⟨rfl, ?_⟩ (Steps.cons ⟨rfl, ?_⟩ (Steps.cons ⟨rfl, ?_⟩ (Steps.nil _)))
  · rintro ⟨_, _, h⟩
    cases h with
    | created auth body p he => cases he
    | changed auth userId p he => cases he
  · rintro ⟨_, _, h⟩
    cases h with
    | created auth body p he => cases he
    | changed auth userId p he => cases he
  · rintro ⟨_, _, h⟩
    cases h with
    | created auth body p he hp ht hr =>
      cases he
      exact absurd hr (by decide)
    | changed auth userId p he => cases he

/-- Whether a request is made by a user of the platform's tenant. -/
def ByPlatform (platform : String) (w : World) (e : Event) : Prop :=
  (∃ token, e.request.auth = .bearer token ∧ token.tenantId = platform) ∨
    ∃ body, e.request = .login body ∧
      ∃ t ∈ w.db.tenants.rows, t.name = body.tenant ∧ t.id = platform

/-- The run that goes on with the creation: no request is the platform's, and the tenant has
    a provider administrator. -/
theorem tenant_makes_provider :
    ¬ ∀ (rt : Runtime) (platform : String) (w w' : World) (es : List Event),
      ProvidersIn platform w.db →
      Steps (Guarded (Stepped rt) fun w e => ¬ ByPlatform platform w e) w es w' →
      ProvidersIn platform w'.db := by
  intro h
  have hrun : Steps (Guarded (Stepped .plain) fun w e => ¬ ByPlatform "t0" w e) acme
      [acmeLogin, acmeCreates "provider_admin"]
      (run .plain acme [acmeLogin, acmeCreates "provider_admin"]) := by
    refine Steps.cons ⟨rfl, ?_⟩ (Steps.cons ⟨rfl, ?_⟩ (Steps.nil _))
    · rintro (⟨token, hauth, _⟩ | ⟨body, hbody, t, ht, hname, hid⟩)
      · cases hauth
      · cases hbody
        have honly : ∀ t ∈ acme.db.tenants.rows, t.name = "acme" → t.id ≠ "t0" := by decide
        exact honly t ht hname hid
    · rintro (⟨token, hauth, htenant⟩ | ⟨body, hbody, _⟩)
      · cases hauth
        exact absurd htenant (by decide)
      · cases hbody
  exact absurd (h .plain "t0" acme _ _ (by decide) hrun) (by decide +kernel)

end SentinelAI
