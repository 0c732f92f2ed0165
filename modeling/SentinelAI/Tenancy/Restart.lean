import SentinelAI.Tenancy.ProviderLockout
import SentinelAI.Tenancy.Seeding

/-
  Restarts. Every start of the process calls `seed_default`, which creates the default tenant's
  analyst and the platform's provider administrator, with their built-in passwords, where it
  finds no account of that name.

  `restart_iff` reduces a restart to these two accounts. `step_tenants_change` lists what a
  request makes of the tenants: none is renamed or removed, so what can go wrong is an account
  (`restart_step`), and `restart_noop_iff` says that only its deletion does.
-/

namespace SentinelAI

open Lib

/-! ## What a restart looks for -/

/-- The accounts of `seed_default`. -/
inductive SeedAccount where
  | analyst
  | provider

namespace SeedAccount

def tenant : SeedAccount → String
  | analyst => Bootstrap.defaultTenant
  | provider => platformTenant

def username : SeedAccount → String
  | analyst => Bootstrap.defaultUser
  | provider => Bootstrap.providerUser

/-- The password it is created with. -/
def password : SeedAccount → String
  | analyst => Bootstrap.defaultPassword
  | provider => Bootstrap.providerPassword

end SeedAccount

/-- There is one tenant for the account. -/
def HasTenant (db : Database) (a : SeedAccount) : Prop :=
  ∃ tenant, tenantsNamed db a.tenant = [tenant]

/-- And one account of its name in it. -/
def Provisioned (db : Database) (a : SeedAccount) : Prop :=
  ∃ tenant user, tenantsNamed db a.tenant = [tenant] ∧ usersNamed db tenant.id a.username = [user]

/-- A database on which `seed_default` has run. -/
def AlreadySeeded (db : Database) : Prop :=
  ∃ env before t, (Bootstrap.seedDefault env).run (.start before [] []) = .ok () t ∧
    t.committed = db

/-- A restart completes and leaves every row as it is. -/
def RestartKeeps (w : World) : Prop :=
  ∀ env, ∃ t, (Bootstrap.seedDefault env).run (.start w.db [] []) = .ok () t ∧ t.committed = w.db

/-- An administrator deletes one of the two accounts, not being it. -/
def DeletesSeeded (w : World) (e : Event) : Prop :=
  ∃ a auth p tenant user, e.request = .admin auth (.deleteUser user.id) ∧
    Admitted w.db w.issued (e.env.now 0) auth .admin p ∧ user.id ≠ p.userId ∧
    OwnAccount w p user.id user ∧ tenant ∈ tenantsNamed w.db (SeedAccount.tenant a) ∧
    user ∈ usersNamed w.db tenant.id a.username

/-! ## The statements of a restart -/

section

variable {env : Env} {s t : Session}

theorem ensure_after {name : String} {tenant : TenantRow}
    (h : (TenantRepository.ensure env name).run s = .ok tenant t) :
    tenantsNamed t.db name = [tenant] ∧ t.db.users = s.db.users ∧
      ∀ other, other ≠ name → tenantsNamed t.db other = tenantsNamed s.db other := by
  obtain ⟨hsel, rfl⟩ | ⟨hnone, hcreate⟩ := ensure_cases h
  · exact ⟨hsel, rfl, fun _ _ => rfl⟩
  · obtain ⟨rfl, _, tenants, hins, rfl⟩ := TenantRepository.create_eq_ok hcreate
    have hselect (p : TenantRow → Bool) := KeyedTable.select_insert? p hins
    unfold tenantsNamed at hnone ⊢
    refine ⟨?_, rfl, fun other hother => ?_⟩
    · rw [hselect, hnone]
      simp
    · rw [hselect, if_neg (by simpa using hother.symm), List.append_nil]

/-- Rows are only added: none if the account is there, and otherwise one, with the password. -/
theorem ensureUser_extends {tenantId username password role : String} {x : Unit}
    (h : (Bootstrap.ensureUser env tenantId username password role).run s = .ok x t) :
    t.db.tenants = s.db.tenants ∧
      (((∃ user, usersNamed s.db tenantId username = [user]) ∧ t.db.users = s.db.users) ∨
        usersNamed s.db tenantId username = [] ∧ ∃ user, user.tenantId = tenantId ∧
          user.username = username ∧ user.passwordHash = hashPassword env password ∧
          s.db.users.insert? user = some t.db.users) := by
  obtain ⟨hsel, rfl⟩ | ⟨hnone, user, hcreate⟩ := ensureUser_cases h
  · exact ⟨rfl, Or.inl ⟨hsel, rfl⟩⟩
  · obtain ⟨rfl, users, hins, rfl⟩ := UserRepository.create_eq_ok hcreate
    exact ⟨rfl, Or.inr ⟨hnone, _, rfl, rfl, rfl, hins⟩⟩

theorem ensureUser_after {tenantId username password role : String} {x : Unit}
    (h : (Bootstrap.ensureUser env tenantId username password role).run s = .ok x t) :
    (∃ user, usersNamed t.db tenantId username = [user]) ∧
      ∀ k other, other ≠ username → usersNamed t.db k other = usersNamed s.db k other := by
  unfold usersNamed
  obtain ⟨_, ⟨hsel, husers⟩ | ⟨hnone, user, rfl, rfl, _, hins⟩⟩ := ensureUser_extends h
  · rw [husers]
    exact ⟨hsel, fun _ _ _ => rfl⟩
  · have hselect (p : UserRow → Bool) := KeyedTable.select_insert? p hins
    unfold usersNamed at hnone
    refine ⟨⟨user, ?_⟩, fun k other hother => ?_⟩
    · rw [hselect, hnone]
      simp
    · rw [hselect, if_neg (by simp [hother.symm]), List.append_nil]

/-- If no row is added the account is there. -/
theorem ensureUser_same {tenantId username password role : String} {x : Unit}
    (h : (Bootstrap.ensureUser env tenantId username password role).run s = .ok x t)
    (hlength : t.db.users.rows.length ≤ s.db.users.rows.length) :
    (∃ user, usersNamed s.db tenantId username = [user]) ∧ t.db.users = s.db.users := by
  obtain ⟨_, hfound | ⟨_, user, _, _, _, hins⟩⟩ := ensureUser_extends h
  · exact hfound
  · rw [KeyedTable.insert?_rows hins, List.length_append, List.length_singleton] at hlength
    omega

theorem ensureUser_subset {tenantId username password role : String} {x : Unit}
    (h : (Bootstrap.ensureUser env tenantId username password role).run s = .ok x t) :
    s.db.users.rows.Sublist t.db.users.rows := by
  obtain ⟨_, ⟨_, husers⟩ | ⟨_, user, _, _, _, hins⟩⟩ := ensureUser_extends h
  · rw [husers]
  · rw [KeyedTable.insert?_rows hins]
    exact List.sublist_append_left _ _

end

/-- After `seed_default` both accounts are there. -/
theorem AlreadySeeded.provisioned {db : Database} (h : AlreadySeeded db) (a : SeedAccount) :
    Provisioned db a := by
  obtain ⟨env, before, t, hrun, rfl⟩ := h
  obtain ⟨tenant, s₁, s₂, platform, s₃, s₄, htenant, hanalyst, hplatform, hprovider, hdb⟩ :=
    seedDefault_eq_ok hrun
  obtain ⟨hone, _, _⟩ := ensure_after htenant
  have htenants := (ensureUser_extends hanalyst).1
  have htenants' := (ensureUser_extends hprovider).1
  obtain ⟨⟨analyst, hanalyst⟩, _⟩ := ensureUser_after hanalyst
  obtain ⟨hplatform, husers, hothers⟩ := ensure_after hplatform
  obtain ⟨⟨provider, hprovider⟩, hothers'⟩ := ensureUser_after hprovider
  have hnamed (name : String) : tenantsNamed s₄.db name = tenantsNamed s₃.db name := by
    rw [tenantsNamed, htenants']
    rfl
  rw [hdb]
  cases a with
  | analyst =>
    refine ⟨tenant, analyst, ?_, ?_⟩
    · refine (hnamed _).trans ((hothers _ (by decide)).trans ?_)
      rw [tenantsNamed, htenants]
      exact hone
    · refine (hothers' _ _ (by decide)).trans ?_
      rw [usersNamed, husers]
      exact hanalyst
  | provider => exact ⟨platform, provider, (hnamed _).trans hplatform, hprovider⟩

theorem Provisioned.hasTenant {db : Database} {a : SeedAccount} (h : Provisioned db a) :
    HasTenant db a := by
  obtain ⟨tenant, _, htenant, _⟩ := h
  exact ⟨tenant, htenant⟩

/-- A restart changes nothing exactly if both accounts are there. -/
theorem restart_iff {w : World} (htenants : ∀ a, HasTenant w.db a) :
    RestartKeeps w ↔ ∀ a, Provisioned w.db a := by
  obtain ⟨tenant, htenant⟩ := htenants .analyst
  obtain ⟨platform, hplatform⟩ := htenants .provider
  constructor
  · intro h
    obtain ⟨t, hrun, hkept⟩ := h firstStart
    obtain ⟨tenant', s₁, s₂, platform', s₃, s₄, hensure, hanalyst, hensure', hprovider, hdb⟩ :=
      seedDefault_eq_ok hrun
    obtain ⟨rfl, rfl⟩ := EStateM.Result.ok.inj (hensure.symm.trans (ensure_found firstStart htenant))
    have hplatform' : tenantsNamed s₂.db platformTenant = [platform] := by
      rw [tenantsNamed, (ensureUser_extends hanalyst).1]
      exact hplatform
    obtain ⟨rfl, rfl⟩ := EStateM.Result.ok.inj (hensure'.symm.trans (ensure_found firstStart hplatform'))
    -- no row is added in the end, so neither account is created
    have hend : s₄.db = w.db := hdb.symm.trans hkept
    have hgrows := (ensureUser_subset hanalyst).length_le
    have hgrows' := (ensureUser_subset hprovider).length_le
    rw [hend] at hgrows'
    obtain ⟨⟨analyst, hanalyst⟩, husers⟩ := ensureUser_same hanalyst hgrows'
    rw [husers] at hgrows'
    obtain ⟨⟨provider, hprovider⟩, _⟩ := ensureUser_same hprovider (by rw [hend]; exact hgrows)
    intro a
    cases a with
    | analyst => exact ⟨tenant', analyst, htenant, hanalyst⟩
    | provider =>
      rw [usersNamed, husers] at hprovider
      exact ⟨platform', provider, hplatform, hprovider⟩
  · intro h env
    obtain ⟨_, analyst, hone, hanalyst⟩ := h .analyst
    obtain ⟨_, provider, hone', hprovider⟩ := h .provider
    cases htenant.symm.trans hone
    cases hplatform.symm.trans hone'
    unfold Bootstrap.seedDefault
    rw [run_bind_ok (ensure_found env htenant), run_bind_ok (ensureUser_found env _ _ hanalyst),
      run_bind_ok (ensure_found env hplatform), run_bind_ok (ensureUser_found env _ _ hprovider)]
    exact ⟨_, rfl, rfl⟩

/-- A restart that does not find an account creates it, with its built-in password. -/
theorem restart_creates {env : Env} {db : Database} {t : Session} {a : SeedAccount}
    {tenant : TenantRow} (htenant : tenantsNamed db a.tenant = [tenant])
    (hmissing : usersNamed db tenant.id a.username = [])
    (h : (Bootstrap.seedDefault env).run (.start db [] []) = .ok () t) :
    ∃ user ∈ t.committed.users.rows, user.tenantId = tenant.id ∧ user.username = a.username ∧
      user.passwordHash = hashPassword env a.password := by
  obtain ⟨default, s₁, s₂, platform, s₃, s₄, hdefault, hanalyst, hplatform, hprovider, hdb⟩ :=
    seedDefault_eq_ok h
  obtain ⟨_, husers, hothers⟩ := ensure_after hdefault
  have hanalysts := ensureUser_extends hanalyst
  have hadded {tenantId username password : String} {users users' : KeyedTable UserRow}
      (hins : ∃ user, user.tenantId = tenantId ∧ user.username = username ∧
        user.passwordHash = hashPassword env password ∧ users.insert? user = some users') :
      ∃ user ∈ users'.rows, user.tenantId = tenantId ∧ user.username = username ∧
        user.passwordHash = hashPassword env password := by
    obtain ⟨user, hof, hname, hhash, hins⟩ := hins
    refine ⟨user, ?_, hof, hname, hhash⟩
    rw [KeyedTable.insert?_rows hins]
    exact List.mem_append_right _ (List.mem_singleton_self user)
  rw [hdb]
  cases a with
  | analyst =>
    obtain ⟨rfl, rfl⟩ := EStateM.Result.ok.inj (hdefault.symm.trans (ensure_found env htenant))
    obtain ⟨_, ⟨⟨_, hfound⟩, _⟩ | ⟨_, hins⟩⟩ := hanalysts
    · cases hmissing.symm.trans hfound
    · obtain ⟨user, huser, hcreated⟩ := hadded hins
      rw [← (ensure_after hplatform).2.1] at huser
      exact ⟨user, (ensureUser_subset hprovider).subset huser, hcreated⟩
  | provider =>
    have hnamed : tenantsNamed s₂.db platformTenant = [tenant] := by
      rw [tenantsNamed, hanalysts.1]
      exact (hothers _ (by decide)).trans htenant
    obtain ⟨rfl, rfl⟩ := EStateM.Result.ok.inj (hplatform.symm.trans (ensure_found env hnamed))
    have hnone : usersNamed s₃.db platform.id Bootstrap.providerUser = [] := by
      rw [(ensureUser_after hanalyst).2 platform.id Bootstrap.providerUser (by decide), usersNamed,
        husers]
      exact hmissing
    obtain ⟨_, ⟨⟨_, hfound⟩, _⟩ | ⟨_, hins⟩⟩ := ensureUser_extends hprovider
    · cases hnone.symm.trans hfound
    · exact hadded hins

/-! ## What a request makes of the tenants -/

/-- The tenants after a request. -/
inductive TenantsChange (tenants : KeyedTable TenantRow) : KeyedTable TenantRow → Prop
  | kept : TenantsChange tenants tenants
  | created (tenant : TenantRow) (after : KeyedTable TenantRow)
    (hname : ∀ t ∈ tenants.rows, t.name ≠ tenant.name)
    (hins : tenants.insert? tenant = some after) : TenantsChange tenants after
  | modified (k : String) (f : TenantRow → TenantRow) (hf : ∀ r, (f r).id = r.id)
    (hname : ∀ r, (f r).name = r.name) : TenantsChange tenants (tenants.modify k f hf)

section

variable {rt : Runtime} {w : World} {e : Event} {auth : Authorization} {t : Session}

theorem TenantRepository.update_eq_ok {k : String} {f : TenantRow → TenantRow}
    {hf : ∀ r, (f r).id = r.id} {s : Session} {o : Option TenantRow}
    (h : (TenantRepository.update k f hf).run s = .ok o t) (hname : ∀ r, (f r).name = r.name) :
    TenantsChange s.db.tenants t.db.tenants := by
  unfold TenantRepository.update at h
  rw [run_bind_ok (tenantGet_run k s)] at h
  cases hfind : s.db.tenants.find? k with
  | none =>
    rw [hfind] at h
    cases h
    exact .kept
  | some tenant =>
    rw [hfind] at h
    cases h
    exact .modified tenant.id f hf hname

theorem updateSettings_change {settings : List (String × JsonValue)} {r : TenantRoutes.TenantSettings}
    (h : (TenantRoutes.updateSettings rt e.env auth settings).run w.session = .ok r t) :
    TenantsChange w.db.tenants t.db.tenants := by
  unfold TenantRoutes.updateSettings TenantRepository.updateSettings at h
  simp only [run_bind_eq_ok, require_eq_ok, orRaise_eq_ok] at h
  obtain ⟨p, _, ⟨_, rfl⟩, o, u, hupdate, tenant, _, ⟨_, rfl⟩, _, _, hrec, hret⟩ := h
  cases hret
  rw [AuditService.recordEntry_run] at hrec
  cases hrec
  exact TenantRepository.update_eq_ok hupdate fun _ => rfl

end

/-- No request renames or removes a tenant, or gives one a name that is taken. -/
theorem step_tenants_change (rt : Runtime) (w : World) (e : Event) :
    TenantsChange w.db.tenants (step rt w e).db.tenants := by
  by_cases hwrites : .tenants ∈ writes e.request
  · have hc : .committed ∉ footprint e.request := by
      intro hc
      obtain ⟨body, he⟩ := committed_footprint hc
      simp [he, writes] at hwrites
    obtain ⟨body, t, hrun, hdb⟩ | ⟨_, hdb⟩ := step_db rt hc
    · rw [hdb]
      cases he : e.request with
      | admin auth r =>
        cases r with
        | updateSettings settings =>
          obtain ⟨r, h, rfl⟩ := (handled_eq_ok he rfl).mp hrun
          exact updateSettings_change h
        | _ => simp [he, writes] at hwrites
      | provider auth r =>
        cases r with
        | createTenant body =>
          obtain ⟨r, h, rfl⟩ := (handled_eq_ok he rfl).mp hrun
          obtain ⟨_, tenant, _, hname, htenants, _⟩ := createTenant_stores h
          exact .created tenant _ hname htenants
        | setStatus tenantId status =>
          obtain ⟨r, h, rfl⟩ := (handled_eq_ok he rfl).mp hrun
          obtain ⟨_, _, htenants⟩ := setTenant_eq_ok rt e.env _ _ _ _ h
          rw [htenants]
          exact .modified tenantId _ _ fun _ => rfl
        | setPlan tenantId plan =>
          obtain ⟨r, h, rfl⟩ := (handled_eq_ok he rfl).mp hrun
          obtain ⟨_, _, htenants⟩ := setTenant_eq_ok rt e.env _ _ _ _ h
          rw [htenants]
          exact .modified tenantId _ _ fun _ => rfl
        | _ => simp [he, writes] at hwrites
      | case auth invId r => cases r <;> simp [he, writes] at hwrites
      | _ => simp [he, writes] at hwrites
    · rw [hdb]
      exact .kept
  · rw [show (step rt w e).db.tenants = w.db.tenants from step_kept .tenants hwrites]
    exact .kept

/-- The one tenant of a name stays, under its id. -/
theorem step_tenantsNamed (rt : Runtime) {w : World} (e : Event) {name : String} {tenant : TenantRow}
    (h : tenantsNamed w.db name = [tenant]) :
    ∃ tenant', tenantsNamed (step rt w e).db name = [tenant'] ∧ tenant'.id = tenant.id := by
  obtain ⟨hrow, hname⟩ := of_tenantsNamed h
  have hchange := step_tenants_change rt w e
  unfold tenantsNamed at h ⊢
  generalize (step rt w e).db.tenants = tenants at hchange ⊢
  cases hchange with
  | kept => exact ⟨tenant, h, rfl⟩
  | created new after hfree hins =>
    have hother : new.name ≠ name := fun heq => hfree tenant hrow (hname.trans heq.symm)
    refine ⟨tenant, ?_, rfl⟩
    rw [KeyedTable.select_insert? _ hins, h, if_neg (by simpa using hother), List.append_nil]
  | modified k f hf hnamed =>
    rw [KeyedTable.select_modify _ k f hf _ fun r => by rw [hnamed], h, List.map_singleton]
    refine ⟨_, rfl, ?_⟩
    split
    · exact hf tenant
    · rfl

/-! ## What a request makes of the accounts -/

section

variable {w : World} {e : Event} {a : SeedAccount} {tenant : TenantRow} {user : UserRow}

theorem ChangesAccount.keeps {r : AdminRequest} {userId : String} {f : UserRow → UserRow}
    (h : ChangesAccount r userId f) (u : UserRow) :
    (f u).tenantId = u.tenantId ∧ (f u).username = u.username := by
  cases h with
  | role => exact ⟨rfl, rfl⟩
  | link => exact ⟨rfl, rfl⟩

/-- The one account of a name stays, unless an administrator deletes it. -/
theorem step_usersNamed (rt : Runtime) (htenant : tenant ∈ w.db.tenants.rows) {username : String}
    (h : usersNamed w.db tenant.id username = [user]) :
    (∃ user', usersNamed (step rt w e).db tenant.id username = [user']) ∨
      ∃ auth p, e.request = .admin auth (.deleteUser user.id) ∧
        Admitted w.db w.issued (e.env.now 0) auth .admin p ∧ user.id ≠ p.userId ∧
        OwnAccount w p user.id user := by
  obtain ⟨hrow, hof, hname⟩ := of_usersNamed h
  have hchange := step_account_change rt w e
  unfold usersNamed at h ⊢
  generalize (step rt w e).db.users = users at hchange ⊢
  cases hchange with
  | kept => exact Or.inl ⟨user, h⟩
  | created auth body p _ he hp _ _ _ hfree hins =>
    have hother : ¬ (p.tenantId = tenant.id ∧ body.username = username) := by
      rintro ⟨htenantId, husername⟩
      exact hfree user hrow (hof.trans htenantId.symm) (hname.trans husername.symm)
    refine Or.inl ⟨user, ?_⟩
    rw [KeyedTable.select_insert? _ hins, h, if_neg (by simpa [createdAccount] using hother),
      List.append_nil]
  | changed auth r userId f hf p _ he hr hp _ =>
    refine Or.inl ?_
    rw [KeyedTable.select_modify _ userId f hf _ fun u => by rw [(hr.keeps u).1, (hr.keeps u).2],
      h, List.map_singleton]
    exact ⟨_, rfl⟩
  | deleted auth userId p deleted he hp hother howns =>
    rw [KeyedTable.select_deleteWhere, h]
    by_cases hid : user.id = userId
    · subst hid
      obtain rfl := w.db.users.eq_of_key_eq howns.1 hrow howns.2.2
      exact Or.inr ⟨auth, p, he, hp, hother, howns⟩
    · exact Or.inl ⟨user, by simp [hid]⟩
  | tenantAdmin auth body _ he _ hfresh hins =>
    have hother : e.env.uuid4 0 ≠ tenant.id := fun heq => hfresh tenant htenant heq.symm
    refine Or.inl ⟨user, ?_⟩
    rw [KeyedTable.select_insert? _ hins, h, if_neg (by simp [tenantAccount, hother]),
      List.append_nil]

theorem hasTenant_step (rt : Runtime) (e : Event) (h : ∀ a, HasTenant w.db a) (a : SeedAccount) :
    HasTenant (step rt w e).db a := by
  obtain ⟨tenant, htenant⟩ := h a
  obtain ⟨tenant', htenant', _⟩ := step_tenantsNamed rt e htenant
  exact ⟨tenant', htenant'⟩

/-- Once it is deleted, an account is not there. -/
theorem DeletesSeeded.missing (rt : Runtime) (hall : ∀ a, Provisioned w.db a)
    (h : DeletesSeeded w e) : ∃ a, ¬ Provisioned (step rt w e).db a := by
  obtain ⟨a, auth, p, tenant, user, he, hp, hother, howns, htenant, huser⟩ := h
  obtain ⟨tenant', user', hone, honeUser⟩ := hall a
  rw [hone, List.mem_singleton] at htenant
  subst htenant
  rw [honeUser, List.mem_singleton] at huser
  subst huser
  refine ⟨a, ?_⟩
  rintro ⟨after, found, hafter, hfound⟩
  obtain ⟨after', hafter', hid⟩ := step_tenantsNamed rt e hone
  rw [hafter', List.cons.injEq] at hafter
  obtain ⟨rfl, _⟩ := hafter
  unfold usersNamed at honeUser hfound
  rw [hid, deleteUser_step rt he hp hother howns, KeyedTable.select_deleteWhere, honeUser] at hfound
  simp at hfound

/-- A request takes away that a restart changes nothing exactly if it deletes an account that
    a restart looks for. -/
theorem restart_step (rt : Runtime) (htenants : ∀ a, HasTenant w.db a) (h : RestartKeeps w) :
    RestartKeeps (step rt w e) ↔ ¬ DeletesSeeded w e := by
  have hall := (restart_iff htenants).mp h
  rw [restart_iff (hasTenant_step rt e htenants)]
  constructor
  · intro hafter hdeletes
    obtain ⟨a, hmissing⟩ := hdeletes.missing rt hall
    exact hmissing (hafter a)
  · intro hnot a
    obtain ⟨tenant, user, hone, honeUser⟩ := hall a
    obtain ⟨tenant', hone', hid⟩ := step_tenantsNamed rt e hone
    obtain ⟨user', huser'⟩ | ⟨auth, p, he, hp, hother, howns⟩ :=
      step_usersNamed (e := e) rt (of_tenantsNamed hone).1 honeUser
    · exact ⟨tenant', user', hone', by rw [hid, huser']⟩
    · refine absurd ⟨a, auth, p, tenant, user, he, hp, hother, howns, ?_, ?_⟩ hnot
      · rw [hone]
        exact List.mem_singleton_self tenant
      · rw [honeUser]
        exact List.mem_singleton_self user

end

/-- From a database that has been seeded: in every state a run of requests reaches, a restart
    completes and leaves every row, exactly if no request of the run is an administrator's
    deletion of one of the two accounts. -/
theorem restart_noop_iff (rt : Runtime) (w : World) (es : List Event) (h : AlreadySeeded w.db) :
    (∀ before after, es = before ++ after → RestartKeeps (run rt w before)) ↔
      ∀ before e after, es = before ++ e :: after → ¬ DeletesSeeded (run rt w before) e := by
  have htenants : ∀ a, HasTenant w.db a := fun a => (h.provisioned a).hasTenant
  exact throughout_iff (I := fun w => ∀ a, HasTenant w.db a) (P := fun _ => True)
    (fun _ e hw _ => hasTenant_step rt e hw) (fun _ _ hw _ hgood => restart_step rt hw hgood)
    htenants ((restart_iff htenants).mpr h.provisioned) fun _ _ => trivial

/-! ## A second administrator who deletes the first -/

/-- A token of an account of the default tenant. -/
def defaultToken (sub uid jti : String) : Token where
  sub := sub
  uid := uid
  tenantId := "t0"
  role := "admin"
  jti := jti
  exp := 3600

/-- A login of an account of the default tenant. -/
def signsIn (username jti : String) : Event where
  env := { now := fun _ => 0, uuid4 := fun _ => jti }
  request := .login { username := username, password := Bootstrap.defaultPassword }

/-- The analyst creates another administrator. -/
def analystCreates : Event where
  env := { now := fun _ => 0, uuid4 := fun _ => "u2" }
  request := .admin (.bearer (defaultToken "analyst" "u0" "j1"))
    (.createUser { username := "bob", password := "correct horse", role := "admin" })

/-- Who deletes the analyst. -/
def analystDeleted : Event where
  env := { now := fun _ => 0, uuid4 := fun _ => "" }
  request := .admin (.bearer (defaultToken "bob" "u2" "j2")) (.deleteUser "u0")

theorem newPlatform_alreadySeeded : AlreadySeeded newPlatform.db :=
  ⟨firstStart, .empty, _, rfl, rfl⟩

/-- After the analyst has created another administrator, a restart changes nothing. -/
theorem restart_noop_iff_created :
    RestartKeeps (run .plain newPlatform [signsIn "analyst" "j1", analystCreates]) := by
  refine (restart_noop_iff .plain newPlatform [signsIn "analyst" "j1", analystCreates]
    newPlatform_alreadySeeded).mpr ?_ _ [] rfl
  rintro before e after he ⟨a, auth, p, tenant, user, hrequest, _⟩
  match before with
  | [] =>
    cases he
    cases hrequest
  | [_] =>
    cases he
    cases hrequest
  | _ :: _ :: before =>
    have hlen := congrArg List.length he
    simp at hlen

/-- After the analyst has been deleted, a restart creates it again. -/
theorem restart_recreates :
    ¬ ∀ (rt : Runtime) (w : World) (es : List Event), AlreadySeeded w.db →
      RestartKeeps (run rt w es) := by
  intro h
  obtain ⟨t, hrun, hkept⟩ := h .plain newPlatform
    [signsIn "analyst" "j1", analystCreates, signsIn "bob" "j2", analystDeleted]
    newPlatform_alreadySeeded { now := fun _ => 0, uuid4 := fun _ => "u3" }
  have hgrows : (stateOf ((Bootstrap.seedDefault { now := fun _ => 0, uuid4 := fun _ => "u3" }).run
      (.start (run .plain newPlatform [signsIn "analyst" "j1", analystCreates, signsIn "bob" "j2",
        analystDeleted]).db [] []))).committed.users.rows.length = 3 ∧
      (run .plain newPlatform [signsIn "analyst" "j1", analystCreates, signsIn "bob" "j2",
        analystDeleted]).db.users.rows.length = 2 := by decide +kernel
  rw [hrun] at hgrows
  obtain ⟨hthree, htwo⟩ := hgrows
  rw [← hkept] at htwo
  exact absurd (htwo.symm.trans hthree) (by decide)

end SentinelAI
