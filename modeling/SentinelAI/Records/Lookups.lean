import SentinelAI.Detection.RuleStates
import SentinelAI.Lib.UniqueColumns
import SentinelAI.Records.Accountability
import SentinelAI.Records.References

/-
  The lookups that expect one row: a tenant by its name, a user by its name, a rule state by
  its rule. `users` and `rule_states` have no unique constraint on what they are looked up
  by; while requests run one after another, every insertion has looked first, and no lookup
  ever finds two rows (`live_unambiguous`).
-/

namespace SentinelAI

open Lib

/-- No lookup for one row finds two. -/
structure Unambiguous (db : Database) : Prop where
  tenants : db.tenants.Unique TenantRow.name
  users : db.users.Unique fun u => (u.tenantId, u.username)
  ruleStates : db.ruleStates.Unique fun r => (r.tenantId, r.ruleId)

namespace Unambiguous

variable {rt : Runtime} {env : Env} {w : World} {s t : Session}

theorem getByName_ok (h : Unambiguous s.db) (name : String) :
    ∃ o, (TenantRepository.getByName name).run s = .ok o s :=
  selectOne_run_of_length (h.tenants.length_select fun _ hr => beq_iff_eq.mp hr)

theorem getByUsername_ok (h : Unambiguous s.db) (tenantId username : String) :
    ∃ o, (UserRepository.getByUsername tenantId username).run s = .ok o s := by
  refine selectOne_run_of_length (h.users.length_select (v := (tenantId, username)) fun u hu => ?_)
  rw [Bool.and_eq_true, beq_iff_eq, beq_iff_eq] at hu
  exact Prod.ext hu.1 hu.2

theorem ruleState_ok (h : Unambiguous s.db) (tenantId ruleId : String) :
    ∃ o, (selectOne Tables.ruleStates fun r => r.tenantId == tenantId && r.ruleId == ruleId).run s =
      .ok o s := by
  refine selectOne_run_of_length (h.ruleStates.length_select (v := (tenantId, ruleId)) fun r hr => ?_)
  rw [Bool.and_eq_true, beq_iff_eq, beq_iff_eq] at hr
  exact Prod.ext hr.1 hr.2

/-! ## Requests -/

theorem step_tenants (rt : Runtime) (h : Unambiguous w.db) (e : Event) :
    (step rt w e).db.tenants.Unique TenantRow.name := by
  have hchange := step_tenants_change rt w e
  generalize (step rt w e).db.tenants = tenants at hchange ⊢
  cases hchange with
  | kept => exact h.tenants
  | created tenant _ hname hins => exact h.tenants.insert? hins hname
  | modified k f hf hname => exact h.tenants.modify k hf hname

/-- A new tenant's administrator is its only user: no row names a tenant that is not stored. -/
theorem step_users (rt : Runtime) (h : Unambiguous w.db) (hrows : Referenced w.db) (e : Event) :
    (step rt w e).db.users.Unique fun u => (u.tenantId, u.username) := by
  have hchange := step_account_change rt w e
  generalize (step rt w e).db.users = users at hchange ⊢
  cases hchange with
  | kept => exact h.users
  | created auth body p _ he hp hname hpassword hrole hfree hins =>
    refine h.users.insert? hins fun u hu heq => ?_
    obtain ⟨htenant, husername⟩ := Prod.mk.inj heq
    exact hfree u hu htenant husername
  | changed auth r userId f hf p user he hr hp huser =>
    exact h.users.modify userId hf fun u => Prod.ext (hr.keeps u).1 (hr.keeps u).2
  | deleted auth userId p user he hp hother huser => exact h.users.deleteWhere _
  | tenantAdmin auth body _ he hname htenant hins =>
    refine h.users.insert? hins fun u hu heq => ?_
    obtain ⟨t, ht, hid⟩ := hrows.users u hu
    exact htenant t ht (hid.trans (Prod.mk.inj heq).1)

theorem step_ruleStates (rt : Runtime) (h : Unambiguous w.db) (e : Event) :
    (step rt w e).db.ruleStates.Unique fun r => (r.tenantId, r.ruleId) := by
  -- the settings the rows hold, whatever they are
  let last : Settings.Rules := fun tenantId ruleId =>
    (w.db.ruleStates.rows.find? fun r => decide (r.tenantId = tenantId ∧ r.ruleId = ruleId)).map
      RuleStateRow.enabled
  have hholds : Holds w.db last := by
    refine ⟨fun r hr r' hr' ht hrule => h.ruleStates hr hr' (Prod.ext ht hrule), ?_⟩
    intro tenantId ruleId b
    constructor
    · intro hlast
      obtain ⟨r, hfind, hb⟩ := Option.map_eq_some_iff.mp hlast
      obtain ⟨ht, hrule⟩ : r.tenantId = tenantId ∧ r.ruleId = ruleId := by
        simpa using List.find?_some hfind
      exact ⟨r, List.mem_of_find?_eq_some hfind, ht, hrule, hb⟩
    · rintro ⟨r, hr, rfl, rfl, rfl⟩
      cases hfind : w.db.ruleStates.rows.find? fun x =>
          decide (x.tenantId = r.tenantId ∧ x.ruleId = r.ruleId) with
      | none => exact absurd (decide_eq_true ⟨rfl, rfl⟩) (List.find?_eq_none.mp hfind r hr)
      | some x =>
        obtain ⟨ht, hrule⟩ : x.tenantId = r.tenantId ∧ x.ruleId = r.ruleId := by
          simpa using List.find?_some hfind
        have hsame : x = r := h.ruleStates (List.mem_of_find?_eq_some hfind) hr (Prod.ext ht hrule)
        exact Option.map_eq_some_iff.mpr ⟨x, hfind, congrArg RuleStateRow.enabled hsame⟩
  have hafter := hholds.step rt e
  intro r hr r' hr' heq
  obtain ⟨ht, hrule⟩ := Prod.mk.inj heq
  exact hafter.unique r hr r' hr' ht hrule

theorem step (h : Unambiguous w.db) (hrows : Referenced w.db) (e : Event) :
    Unambiguous (step rt w e).db :=
  ⟨h.step_tenants rt e, h.step_users rt hrows e, h.step_ruleStates rt e⟩

/-! ## Starts -/

theorem ensure (h : Unambiguous s.db) {name : String} {tenant : TenantRow}
    (hrun : (TenantRepository.ensure env name).run s = .ok tenant t) : Unambiguous t.db := by
  obtain ⟨_, rfl⟩ | ⟨_, hcreate⟩ := ensure_cases hrun
  · exact h
  · obtain ⟨rfl, hfree, tenants, hins, rfl⟩ := TenantRepository.create_eq_ok hcreate
    exact ⟨h.tenants.insert? hins hfree, h.users, h.ruleStates⟩

theorem ensureUser (h : Unambiguous s.db) {tenantId username password role : String} {x : Unit}
    (hrun : (Bootstrap.ensureUser env tenantId username password role).run s = .ok x t) :
    Unambiguous t.db := by
  obtain ⟨_, rfl⟩ | ⟨hnone, user, hcreate⟩ := ensureUser_cases hrun
  · exact h
  · obtain ⟨rfl, users, hins, rfl⟩ := UserRepository.create_eq_ok hcreate
    refine ⟨h.tenants, h.users.insert? hins fun u hu heq => ?_, h.ruleStates⟩
    obtain ⟨htenant, hname⟩ := Prod.mk.inj heq
    have hmem := mem_usersNamed.mpr ⟨hu, htenant, hname⟩
    rw [hnone] at hmem
    cases hmem

theorem start (h : Unambiguous w.db) (env : Env) : Unambiguous (start env w).db := by
  cases hrun : (Bootstrap.seedDefault env).run w.session with
  | error ex t =>
    have hdb : (SentinelAI.start env w).db = t.committed :=
      congrArg (fun r => (stateOf r).committed) hrun
    have hkept : t.committed = w.db := (seedDefault_raises env _ _ _ hrun trivial) .committed (by decide)
    rw [hdb, hkept]
    exact h
  | ok _ t =>
    have hdb : (SentinelAI.start env w).db = t.committed :=
      congrArg (fun r => (stateOf r).committed) hrun
    obtain ⟨default, s₁, s₂, platform, s₃, s₄, hdefault, hanalyst, hplatform, hprovider, hend⟩ :=
      seedDefault_eq_ok hrun
    rw [hdb, hend]
    exact (((h.ensure (s := w.session) hdefault).ensureUser hanalyst).ensure hplatform).ensureUser
      hprovider

end Unambiguous

theorem unambiguous_empty : Unambiguous .empty :=
  ⟨KeyedTable.Unique.empty, KeyedTable.Unique.empty, KeyedTable.Unique.empty⟩

/-- However long a deployment has lived. -/
theorem live_unambiguous (rt : Runtime) (os : List Occurrence) : Unambiguous (live rt .new os).db := by
  have hboth : ∀ w o, WorldReferenced w ∧ Unambiguous w.db →
      WorldReferenced (occur rt w o) ∧ Unambiguous (occur rt w o).db := by
    rintro w o ⟨href, h⟩
    refine ⟨href.after o, ?_⟩
    cases o with
    | start env => exact h.start env
    | request e => exact h.step href.rows e
  exact (live_keeps hboth ⟨new_referenced, unambiguous_empty⟩ os).2

end SentinelAI
