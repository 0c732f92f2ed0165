import SentinelAI.Billing.Accounting
import SentinelAI.Records.References
import SentinelAI.Tenancy.ProviderLockout

/-
  The provider's bill. What a deployment has metered in its life is on it: no event is of a
  tenant that the bill leaves out, the platform's own apart, and each event stands on it at
  its price. A customer reads the same total on its own usage page.
-/

namespace SentinelAI

open Lib

variable {rt : Runtime}

/-! ## Prices -/

/-- Events of recognized kinds, at their price. -/
def Priced (rt : Runtime) (db : Database) : Prop :=
  ∀ r ∈ db.usageEvents.rows, r.2.kind ∈ validKinds ∧
    r.2.costCents = costCents rt.settings r.2.kind r.2.quantity

theorem Statement.priced {caller : Option String} {db db' : Database}
    (hs : Statement rt caller db db') (h : Priced rt db) : Priced rt db' := by
  cases hs with
  | metered row hown hkind hcost =>
    intro r hr
    obtain hr | hr := List.mem_append.mp hr
    · exact h r hr
    · rw [List.mem_singleton.mp hr]
      exact ⟨hkind, hcost⟩
  | _ => exact h

theorem live_priced (rt : Runtime) (os : List Occurrence) : Priced rt (live rt .new os).db := by
  refine live_keeps (I := fun w => Priced rt w.db) (fun w o h => ?_) (fun r hr => (by cases hr)) os
  obtain ⟨_, _, ht⟩ := occur_transaction rt w o
  exact ht.keeps (fun _ _ hs => hs.priced) h

/-! ## Totals -/

/-- Everything metered. -/
def Database.metered (db : Database) : List UsageEventRow := db.usageEvents.rows.map Prod.snd

/-- Whether a tenant is the platform's own. -/
def platformOwn (db : Database) (tenantId : String) : Bool :=
  db.tenants.rows.any fun t => t.id == tenantId && t.name == platformTenant

/-- A stored tenant is listed on the bill unless it is the platform's own. -/
theorem onBill_iff {db : Database} {tenantId : String} (h : Present db tenantId) :
    tenantId ∈ (ProviderRoutes.listedTenants db).map TenantRow.id ↔ platformOwn db tenantId = false := by
  obtain ⟨t, ht, rfl⟩ := h
  have hname : platformOwn db t.id = false ↔ t.name ≠ platformTenant := by
    unfold platformOwn
    rw [List.any_eq_false]
    constructor
    · intro hall hplatform
      exact hall t ht (by simp [hplatform])
    · intro hne t' ht' hboth
      obtain ⟨hid, hplatform⟩ := (Bool.and_eq_true _ _).mp hboth
      have hsame : t' = t := db.tenants.eq_of_key_eq ht' ht (eq_of_beq hid)
      rw [hsame] at hplatform
      exact hne (eq_of_beq hplatform)
  rw [hname, List.mem_map]
  constructor
  · rintro ⟨t', ht', hid⟩
    obtain ⟨hmem, hlisted⟩ := ProviderRoutes.mem_listedTenants.mp ht'
    have hsame : t' = t := db.tenants.eq_of_key_eq hmem ht hid
    exact hsame ▸ hlisted
  · intro hlisted
    exact ⟨t, ProviderRoutes.mem_listedTenants.mpr ⟨ht, hlisted⟩, rfl⟩

theorem tenantCost_eq (db : Database) (tenantId : String) :
    ProviderRoutes.tenantCost db tenantId =
      groupSum UsageEventRow.tenantId UsageEventRow.costCents db.metered tenantId := by
  unfold ProviderRoutes.tenantCost groupSum MeteringService.windowRows AutoTable.select
  congr 2
  refine List.filter_congr fun e _ => ?_
  simp [MeteringService.inWindow, beq_eq_decide]

/-- Where every event is of a stored tenant, the listed tenants' costs are those of all events
    but the platform's own. -/
theorem sum_listed {db : Database} (h : Referenced db) :
    ((ProviderRoutes.listedTenants db).map fun t => ProviderRoutes.tenantCost db t.id).sum =
      ((db.metered.filter fun e => !platformOwn db e.tenantId).map UsageEventRow.costCents).sum := by
  have hgroups := sum_groups UsageEventRow.tenantId UsageEventRow.costCents db.metered
    (ProviderRoutes.listedTenants_nodup db)
  have hcosts : ((ProviderRoutes.listedTenants db).map fun t => ProviderRoutes.tenantCost db t.id) =
      ((ProviderRoutes.listedTenants db).map TenantRow.id).map
        (groupSum UsageEventRow.tenantId UsageEventRow.costCents db.metered) := by
    rw [List.map_map]
    exact List.map_congr_left fun t _ => tenantCost_eq db t.id
  rw [hcosts, hgroups]
  congr 2
  refine List.filter_congr fun e he => ?_
  obtain ⟨r, hr, rfl⟩ := List.mem_map.mp he
  have hlisted := onBill_iff (h.usageEvents r hr)
  cases hown : platformOwn db r.2.tenantId with
  | false => exact decide_eq_true (hlisted.mpr hown)
  | true =>
    refine decide_eq_false fun hmem => ?_
    rw [hlisted, hown] at hmem
    cases hmem

/-! ## The bill -/

/-- `GET /provider/usage`. -/
def billRequest (env : Env) (auth : Authorization) : Event where
  env := env
  request := .provider auth .usage

/-- `GET /tenant/usage`. -/
def usageRequest (env : Env) (auth : Authorization) : Event where
  env := env
  request := .read auth .usage

theorem billRequest_answered {w : World} {env : Env} {auth : Authorization}
    {bill : ProviderRoutes.ProviderUsage} {s : Session}
    (h : handled rt w (billRequest env auth) = .ok (.providerUsage bill) s) :
    bill.tenants = (ProviderRoutes.listedTenants w.db).map (ProviderRoutes.usageRow w.db) ∧
      bill.grandTotalCents = ((ProviderRoutes.listedTenants w.db).map
        fun t => ProviderRoutes.tenantCost w.db t.id).sum := by
  obtain ⟨_, hrun, hbody⟩ := (handled_eq_ok rfl rfl).mp h
  cases hbody
  have hauth : ∃ p, (Deps.requireProvider env auth).run w.session = .ok p w.session.ticked := by
    unfold ProviderRoutes.usage at hrun
    obtain ⟨p, t, hp, _⟩ := run_bind_eq_ok.mp hrun
    cases requireProvider_keeps hp
    exact ⟨p, hp⟩
  obtain ⟨p, hp⟩ := hauth
  obtain ⟨g, hg, htenants, htotal⟩ := ProviderRoutes.usage_run hp
  cases hrun.symm.trans hg
  exact ⟨htenants, htotal⟩

theorem usageRequest_answered {w : World} {env : Env} {auth : Authorization}
    {usage : TenantRoutes.UsageResponse} {s : Session}
    (h : handled rt w (usageRequest env auth) = .ok (.usage usage) s) :
    ∃ token ∈ w.issued, usage.totalCostCents = ProviderRoutes.tenantCost w.db token.tenantId ∧
      usage.tenant = ((w.db.tenants.find? token.tenantId).map TenantRow.name).getD token.tenantId := by
  obtain ⟨_, hrun, hbody⟩ := (handled_eq_ok rfl rfl).mp h
  cases hbody
  unfold TenantRoutes.getUsage at hrun
  obtain ⟨p, t, hp, hrun⟩ := run_bind_eq_ok.mp hrun
  obtain ⟨⟨token, hid, rfl, _⟩, rfl⟩ := require_eq_ok.mp hp
  rw [run_bind_ok (tenantGet_run ..), run_bind_ok (MeteringService.rollup_run ..)] at hrun
  cases hrun
  exact ⟨token, hid.signed, rfl, rfl⟩

theorem billRequest_run (rt : Runtime) (env : Env) {w : World} {token : Token}
    (hid : Identified w.db w.issued (env.now 0) (.bearer token) token)
    (hcan : token.principal.can .provider = true) :
    ∃ bill s, handled rt w (billRequest env (.bearer token)) = .ok (.providerUsage bill) s := by
  have hp : (Deps.requireProvider env (.bearer token)).run w.session =
      .ok token.principal w.session.ticked := by
    unfold Deps.requireProvider
    rw [run_bind_ok (getPrincipal_eq_ok.mpr ⟨token, hid, rfl, rfl⟩)]
    rw [run_bind_ok (raiseIf_eq_ok (u := ()) |>.mpr ⟨by rw [hcan]; rfl, rfl⟩)]
    rfl
  obtain ⟨g, hg, _⟩ := ProviderRoutes.usage_run hp
  exact ⟨g, _, (handled_eq_ok rfl rfl).mpr ⟨g, hg, rfl⟩⟩

theorem usageRequest_run (rt : Runtime) (env : Env) {w : World} {token : Token}
    (hid : Identified w.db w.issued (env.now 0) (.bearer token) token)
    (hcan : token.principal.can .admin = true) :
    ∃ usage s, handled rt w (usageRequest env (.bearer token)) = .ok (.usage usage) s ∧
      usage.tenant = ((w.db.tenants.find? token.tenantId).map TenantRow.name).getD token.tenantId := by
  have hrun : ∃ usage s, (TenantRoutes.getUsage env (.bearer token)).run w.session = .ok usage s ∧
      usage.tenant =
        ((w.db.tenants.find? token.tenantId).map TenantRow.name).getD token.tenantId := by
    unfold TenantRoutes.getUsage
    rw [run_bind_ok (require_eq_ok.mpr ⟨⟨token, hid, rfl, hcan⟩, rfl⟩), run_bind_ok (tenantGet_run ..),
      run_bind_ok (MeteringService.rollup_run ..)]
    exact ⟨_, _, rfl, rfl⟩
  obtain ⟨usage, s, hrun, hname⟩ := hrun
  exact ⟨usage, s, (handled_eq_ok rfl rfl).mpr ⟨usage, hrun, rfl⟩, hname⟩

/-- In a deployment's life, the grand total of the provider's bill is the price of everything
    metered for customers, and each customer's own usage page shows the cost the bill has. -/
theorem provider_bill_complete (rt : Runtime) (os : List Occurrence) (env : Env) (auth : Authorization)
    (bill : ProviderRoutes.ProviderUsage) (s : Session)
    (h : handled rt (live rt .new os) (billRequest env auth) = .ok (.providerUsage bill) s) :
    bill.grandTotalCents = (((live rt .new os).db.metered.filter
        fun e => !platformOwn (live rt .new os).db e.tenantId).map
          fun e => costCents rt.settings e.kind e.quantity).sum ∧
      ∀ env' auth' usage s', handled rt (live rt .new os) (usageRequest env' auth') =
        .ok (.usage usage) s' → usage.tenant ≠ platformTenant →
          ∃ row ∈ bill.tenants, row.tenantName = usage.tenant ∧
            row.totalCostCents = usage.totalCostCents := by
  have href : WorldReferenced (live rt .new os) := live_keeps (fun _ o h => h.after o) new_referenced os
  obtain ⟨htenants, htotal⟩ := billRequest_answered h
  constructor
  · rw [htotal, sum_listed href.rows]
    congr 1
    refine List.map_congr_left fun e he => ?_
    obtain ⟨r, hr, rfl⟩ := List.mem_map.mp (List.mem_of_mem_filter he)
    exact (live_priced rt os r hr).2
  · intro env' auth' usage s' husage hname
    obtain ⟨token, htoken, hcost, htenant⟩ := usageRequest_answered husage
    obtain ⟨t, ht, hid⟩ := href.tokens token htoken
    have hfound : (live rt .new os).db.tenants.find? token.tenantId = some t :=
      (KeyedTable.find?_eq_some _ _ _).mpr ⟨ht, hid⟩
    have hnamed : usage.tenant = t.name := by
      rw [htenant, hfound]
      rfl
    rw [hnamed] at hname
    have hlisted : t ∈ ProviderRoutes.listedTenants (live rt .new os).db :=
      ProviderRoutes.mem_listedTenants.mpr ⟨ht, hname⟩
    refine ⟨ProviderRoutes.usageRow (live rt .new os).db t, ?_, hnamed.symm, ?_⟩
    · rw [htenants]
      exact List.mem_map.mpr ⟨t, hlisted, rfl⟩
    · rw [hcost, ← hid]
      rfl

/-- The default tenant runs its detections once, and the provider is signed in. -/
def meteredLife : List Occurrence :=
  [.start firstStart, .request (analystSignsIn "j1"), .request providerSignsIn,
    .request ⟨quietSplunk, .runInvestigations (.bearer analystToken)⟩]

theorem meteredLife_identifies (token : Token) (h : token ∈ [analystToken, providerToken]) :
    Identified (live shortDigest .new meteredLife).db (live shortDigest .new meteredLife).issued 0
      (.bearer token) token := by
  have hsigned : (live shortDigest .new meteredLife).issued = [analystToken, providerToken] := by
    decide +kernel
  refine .of_rows (hsigned ▸ h) ?_ ?_ (by decide +kernel) (by decide +kernel)
  · revert token
    decide
  · revert token
    decide

/-- The searches of the run, at the bill's price and on the tenant's own page. -/
theorem provider_bill_metered : ∃ bill s usage s',
    handled shortDigest (live shortDigest .new meteredLife)
      (billRequest firstStart (.bearer providerToken)) = .ok (.providerUsage bill) s ∧
    handled shortDigest (live shortDigest .new meteredLife)
      (usageRequest firstStart (.bearer analystToken)) = .ok (.usage usage) s' ∧
    bill.grandTotalCents = 10 ∧
    (∃ row ∈ bill.tenants, row.tenantName = usage.tenant ∧
      row.totalCostCents = usage.totalCostCents) := by
  have hprovider := meteredLife_identifies providerToken (by decide)
  have hanalyst := meteredLife_identifies analystToken (by decide)
  obtain ⟨bill, s, h⟩ := billRequest_run shortDigest firstStart hprovider rfl
  obtain ⟨usage, s', h', hname⟩ := usageRequest_run shortDigest firstStart hanalyst rfl
  obtain ⟨hsum, hown⟩ := provider_bill_complete shortDigest meteredLife firstStart
    (.bearer providerToken) bill s h
  refine ⟨bill, s, usage, s', h, h', ?_, ?_⟩
  · rw [hsum]
    decide +kernel
  · refine hown firstStart (.bearer analystToken) usage s' h' ?_
    rw [hname]
    decide +kernel

end SentinelAI
