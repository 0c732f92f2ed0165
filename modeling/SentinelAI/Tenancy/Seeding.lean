import SentinelAI.Db.Bootstrap
import SentinelAI.Security.Accounts

/-
  The statements of `seed_default`: each finds its row or creates it (`ensure_cases`,
  `ensureUser_cases`), and leaves everything where it finds one.
-/

namespace SentinelAI

open Lib

/-- The statement of `get_by_name`. -/
def tenantsNamed (db : Database) (name : String) : List TenantRow :=
  db.tenants.select fun t => t.name == name

/-- The one tenant of a name. -/
theorem of_tenantsNamed {db : Database} {name : String} {tenant : TenantRow}
    (h : tenantsNamed db name = [tenant]) : tenant ∈ db.tenants.rows ∧ tenant.name = name := by
  have hmem : tenant ∈ tenantsNamed db name := by
    rw [h]
    exact List.mem_singleton_self tenant
  obtain ⟨hrow, hname⟩ := KeyedTable.mem_select.mp hmem
  exact ⟨hrow, beq_iff_eq.mp hname⟩

theorem of_usersNamed {db : Database} {tenantId username : String} {user : UserRow}
    (h : usersNamed db tenantId username = [user]) :
    user ∈ db.users.rows ∧ user.tenantId = tenantId ∧ user.username = username := by
  apply mem_usersNamed.mp
  rw [h]
  exact List.mem_singleton_self user

section

variable {env : Env} {s t : Session}

theorem getByName_run {name : String} {o : Option TenantRow} :
    (TenantRepository.getByName name).run s = .ok o t ↔
      tenantsNamed s.db name = o.toList ∧ t = s := selectOne_eq_ok

/-- `ensure` finds the tenant or creates it. -/
theorem ensure_cases {name : String} {tenant : TenantRow}
    (h : (TenantRepository.ensure env name).run s = .ok tenant t) :
    (tenantsNamed s.db name = [tenant] ∧ t = s) ∨
      (tenantsNamed s.db name = [] ∧
        (TenantRepository.create env name "active" "enterprise").run s = .ok tenant t) := by
  unfold TenantRepository.ensure at h
  obtain ⟨o, u, hget, hrest⟩ := run_bind_eq_ok.mp h
  obtain ⟨hsel, rfl⟩ := getByName_run.mp hget
  cases o with
  | some found =>
    cases hrest
    exact Or.inl ⟨hsel, rfl⟩
  | none => exact Or.inr ⟨hsel, hrest⟩

/-- The same of `ensureUser`. -/
theorem ensureUser_cases {tenantId username password role : String} {x : Unit}
    (h : (Bootstrap.ensureUser env tenantId username password role).run s = .ok x t) :
    ((∃ user, usersNamed s.db tenantId username = [user]) ∧ t = s) ∨
      (usersNamed s.db tenantId username = [] ∧ ∃ user,
        (UserRepository.create env tenantId username password role none).run s = .ok user t) := by
  unfold Bootstrap.ensureUser at h
  obtain ⟨o, u, hget, hrest⟩ := run_bind_eq_ok.mp h
  obtain ⟨hsel, rfl⟩ := UserRepository.getByUsername_run.mp hget
  cases o with
  | some found =>
    cases hrest
    exact Or.inl ⟨⟨found, hsel⟩, rfl⟩
  | none =>
    obtain ⟨user, v, hcreate, hret⟩ := run_bind_eq_ok.mp hrest
    cases hret
    exact Or.inr ⟨hsel, user, hcreate⟩

/-- What is there is left. -/
theorem ensure_found (env : Env) {name : String} {tenant : TenantRow}
    (h : tenantsNamed s.db name = [tenant]) :
    (TenantRepository.ensure env name).run s = .ok tenant s := by
  have hget : (TenantRepository.getByName name).run s = .ok (some tenant) s :=
    getByName_run.mpr ⟨h, rfl⟩
  unfold TenantRepository.ensure
  rw [run_bind_ok hget]
  rfl

theorem ensureUser_found (env : Env) {tenantId username : String} (password role : String)
    {user : UserRow} (h : usersNamed s.db tenantId username = [user]) :
    (Bootstrap.ensureUser env tenantId username password role).run s = .ok () s := by
  have hget : (UserRepository.getByUsername tenantId username).run s = .ok (some user) s :=
    UserRepository.getByUsername_run.mpr ⟨h, rfl⟩
  unfold Bootstrap.ensureUser
  rw [run_bind_ok hget]
  rfl

/-- `seed_default`, statement by statement. -/
theorem seedDefault_eq_ok (h : (Bootstrap.seedDefault env).run s = .ok () t) :
    ∃ tenant s₁ s₂ platform s₃ s₄,
      (TenantRepository.ensure env Bootstrap.defaultTenant).run s = .ok tenant s₁ ∧
      (Bootstrap.ensureUser env tenant.id Bootstrap.defaultUser Bootstrap.defaultPassword
        "admin").run s₁ = .ok () s₂ ∧
      (TenantRepository.ensure env platformTenant).run s₂ = .ok platform s₃ ∧
      (Bootstrap.ensureUser env platform.id Bootstrap.providerUser Bootstrap.providerPassword
        "provider_admin").run s₃ = .ok () s₄ ∧ t.committed = s₄.db := by
  unfold Bootstrap.seedDefault at h
  obtain ⟨tenant, s₁, htenant, h₁⟩ := run_bind_eq_ok.mp h
  obtain ⟨_, s₂, hanalyst, h₂⟩ := run_bind_eq_ok.mp h₁
  obtain ⟨platform, s₃, hplatform, h₃⟩ := run_bind_eq_ok.mp h₂
  obtain ⟨_, s₄, hprovider, h₄⟩ := run_bind_eq_ok.mp h₃
  cases h₄
  exact ⟨tenant, s₁, s₂, platform, s₃, s₄, htenant, hanalyst, hplatform, hprovider, rfl⟩

end

end SentinelAI
