import SentinelAI.Billing.Completeness
import SentinelAI.Security.Issuance

/-
  Usage accounting. After any calls of `MeteringService.record`, the stored events are those of
  the calls with a recognised kind, each with the cost its own price book gave it
  (`meterAll_run`). The tenant's rollup, the quota check and the provider's total are three
  sums over these events, so they agree, and no later price book enters any of them.
-/

namespace SentinelAI

open Lib

/-! ## Calls of `record` -/

/-- A call of `record`, with the price book of its service and the time it is made at. -/
structure MeterCall where
  tenantId : String
  kind : String
  quantity : Int
  detail : String := ""
  prices : Settings
  now : Time

namespace MeterCall

def perform (rt : Runtime) (c : MeterCall) : ApiM (Option UsageEventRow) :=
  MeteringService.record { rt with settings := c.prices } { now := fun _ => c.now, uuid4 := fun _ => "" }
    c.tenantId c.kind c.quantity c.detail

/-- What the call costs by its own price book. -/
def cost (c : MeterCall) : Int := costCents c.prices c.kind c.quantity

def recognised (c : MeterCall) : Bool := validKinds.contains c.kind

/-- The event the call stores. -/
def event (rt : Runtime) (c : MeterCall) : UsageEventRow :=
  MeteringService.usageRow { rt with settings := c.prices } c.tenantId c.kind c.quantity c.detail c.now

theorem perform_run (rt : Runtime) (c : MeterCall) (s : Session) :
    ∃ o t, (c.perform rt).run s = .ok o t ∧
      t.db = s.db.addUsage (if c.recognised then [c.event rt] else []) := by
  by_cases hkind : c.recognised = true
  · have hmem : c.kind ∈ validKinds := List.contains_iff_mem.mp hkind
    rw [if_pos hkind]
    exact ⟨_, _, MeteringService.record_run _ _ _ _ _ hmem s, rfl⟩
  · rw [if_neg hkind]
    refine ⟨none, s, ?_, rfl⟩
    have hnot : validKinds.contains c.kind = false := Bool.eq_false_iff.mpr hkind
    unfold perform MeteringService.record
    rw [hnot]
    rfl

end MeterCall

/-- A sequence of calls. -/
def meterAll (rt : Runtime) (calls : List MeterCall) : ApiM Unit :=
  calls.forM fun c => do
    let _ ← c.perform rt

/-- The events of the recognised calls. -/
def eventsOf (rt : Runtime) (calls : List MeterCall) : List UsageEventRow :=
  (calls.filter MeterCall.recognised).map (MeterCall.event rt)

/-- What a sequence of calls stores. -/
theorem meterAll_run (rt : Runtime) (calls : List MeterCall) (s : Session) :
    ∃ t, (meterAll rt calls).run s = .ok () t ∧ t.db = s.db.addUsage (eventsOf rt calls) := by
  induction calls generalizing s with
  | nil => exact ⟨s, rfl, rfl⟩
  | cons c calls ih =>
    obtain ⟨o, u, hfirst, hu⟩ := c.perform_run rt s
    obtain ⟨t, hrest, ht⟩ := ih u
    refine ⟨t, ?_, ?_⟩
    · have hcall : (do let _ ← c.perform rt : ApiM Unit).run s = .ok () u := run_bind_ok hfirst
      exact (run_bind_ok hcall).trans hrest
    · rw [ht, hu]
      unfold eventsOf
      rw [List.filter_cons]
      cases c.recognised <;> rfl

/-- A session in which nothing has been metered. -/
def Session.unmetered (s : Session) : Session :=
  { s with db := { s.db with usageEvents := .empty } }

theorem select_addUsage (db : Database) (rows : List UsageEventRow) (p : UsageEventRow → Bool) :
    (db.addUsage rows).usageEvents.select p = db.usageEvents.select p ++ rows.filter p := by
  induction rows generalizing db with
  | nil => simp [Database.addUsage]
  | cons r rows ih =>
    have hins : (db.addUsage [r]).usageEvents.select p = _ := AutoTable.select_insert _ r p
    have hrest : db.addUsage (r :: rows) = (db.addUsage [r]).addUsage rows := rfl
    rw [hrest, ih, hins, List.filter_cons, List.append_assoc]
    split <;> rfl

/-! ## What the calls add up to -/

/-- The recognised calls of a tenant inside the window, both ends included. -/
def billed (calls : List MeterCall) (tenantId : String) (since until_ : Option Time) :
    List MeterCall :=
  calls.filter fun c => c.recognised && c.tenantId == tenantId &&
    since.all (fun t => decide (t ≤ c.now)) && until_.all fun t => decide (c.now ≤ t)

/-- The quantities and costs of the calls of one kind. -/
def usageOf (calls : List MeterCall) (kind : String) : KindUsage where
  quantity := ((calls.filter fun c => c.kind = kind).map MeterCall.quantity).sum
  costCents := ((calls.filter fun c => c.kind = kind).map MeterCall.cost).sum

/-- A rollup reports each kind of the billed calls once, with its sums, and their total. -/
structure Reports (calls : List MeterCall) (r : UsageRollup) : Prop where
  byKind : ∀ kind, r.byKind.lookup kind =
    if kind ∈ calls.map MeterCall.kind then some (usageOf calls kind) else none
  distinct : (r.byKind.map Prod.fst).Nodup
  total : r.totalCostCents = (r.byKind.map fun k => k.2.costCents).sum
  totalCost : r.totalCostCents = (calls.map MeterCall.cost).sum

section

variable {rt : Runtime} {calls : List MeterCall} {s : Session}
  (hs : s.db.usageEvents.select (fun _ => true) = eventsOf rt calls)

include hs

theorem select_events (p : UsageEventRow → Bool) :
    s.db.usageEvents.select p = (eventsOf rt calls).filter p := by
  rw [← hs]
  unfold AutoTable.select
  rw [List.filter_true]

/-- The rows of a rollup are the events of the billed calls. -/
theorem windowRows_eq (tenantId : String) (since until_ : Option Time) :
    MeteringService.windowRows s.db tenantId since until_ =
      (billed calls tenantId since until_).map (MeterCall.event rt) := by
  unfold MeteringService.windowRows
  rw [select_events hs]
  unfold eventsOf billed
  rw [List.filter_map, List.filter_filter]
  congr 1
  refine List.filter_congr fun c _ => (Bool.and_comm _ _).trans ?_
  rw [Bool.and_assoc, Bool.and_assoc, ← Bool.and_assoc (c.tenantId == tenantId)]
  rfl

/-- The rollup reports the billed calls. -/
theorem rollup_reports (tenantId : String) (since until_ : Option Time) :
    ∃ r, (MeteringService.rollup tenantId since until_).run s = .ok r s ∧
      Reports (billed calls tenantId since until_) r := by
  refine ⟨_, MeteringService.rollup_run tenantId since until_ s, ?_⟩
  rw [windowRows_eq hs]
  generalize billed calls tenantId since until_ = billedCalls
  have hkinds : (billedCalls.map (MeterCall.event rt)).map UsageEventRow.kind =
      billedCalls.map MeterCall.kind := by
    rw [List.map_map]
    rfl
  have hcosts : (billedCalls.map (MeterCall.event rt)).map UsageEventRow.costCents =
      billedCalls.map MeterCall.cost := by
    rw [List.map_map]
    rfl
  constructor
  · intro kind
    rw [MeteringService.groupByKind_lookup, hkinds, groupSum_map, groupSum_map]
    rfl
  · rw [MeteringService.groupByKind_keys]
    exact nodup_eraseDups _
  · exact (MeteringService.groupByKind_total _).symm
  · rw [hcosts]

omit hs in
/-- The quota counts what the rollup since the start of the month reports. -/
theorem quota_agrees (env : Env) (tenantId plan kind : String) (want : Int) :
    ∃ st r, (QuotaService.status env tenantId plan kind want).run s = .ok st s.ticked ∧
      (MeteringService.rollup tenantId (some (monthStart (env.now s.ticks))) none).run s = .ok r s ∧
      st.used = r.quantity kind := by
  obtain ⟨st, hst, hused⟩ := QuotaService.status_run env tenantId plan kind want s
  refine ⟨st, _, hst, MeteringService.rollup_run _ _ _ s, ?_⟩
  rw [hused, quantity_groupByKind, groupSum_windowRows, monthToDate]
  congr 1
  funext r
  simp [ofKind, MeteringService.inWindow, Bool.and_assoc, Bool.and_comm, Bool.and_left_comm]

end

/-! ## The provider's total -/

namespace ProviderRoutes

/-- The tenants `provider_usage` lists. -/
def listedTenants (db : Database) : List TenantRow :=
  ((db.tenants.select fun _ => true).insertionSort fun a b => a.createdAt ≤ b.createdAt).filter
    fun t => t.name != platformTenant

theorem customerTenants_run (s : Session) : customerTenants.run s = .ok (listedTenants s.db) s := rfl

/-- All a tenant's events cost. -/
def tenantCost (db : Database) (tenantId : String) : Int :=
  ((MeteringService.windowRows db tenantId none none).map UsageEventRow.costCents).sum

def usageRow (db : Database) (t : TenantRow) : ProviderUsageRow :=
  ⟨t.id, t.name, t.plan, tenantCost db t.id, roundTo 2 (tenantCost db t.id / 100)⟩

/-- The usage of the listed tenants, for a caller of the provider plane. -/
theorem usage_run {env : Env} {auth : Authorization} {p : Principal} {s : Session}
    (h : (Deps.requireProvider env auth).run s = .ok p s.ticked) :
    ∃ g, (usage env auth).run s = .ok g s.ticked ∧
      g.tenants = (listedTenants s.db).map (usageRow s.db) ∧
      g.grandTotalCents = ((listedTenants s.db).map fun t => tenantCost s.db t.id).sum := by
  have hrow (t : TenantRow) : (do
      let rollup ← MeteringService.rollup t.id none none
      return (⟨t.id, t.name, t.plan, rollup.totalCostCents, rollup.totalCostUsd⟩ :
        ProviderUsageRow)).run s.ticked = .ok (usageRow s.db t) s.ticked := by
    rw [run_bind_ok (MeteringService.rollup_run t.id none none s.ticked)]
    rfl
  have hrows := mapM_run_read hrow (listedTenants s.db)
  unfold usage
  rw [run_bind_ok h, run_bind_ok (customerTenants_run s.ticked)]
  refine ⟨_, run_bind_ok hrows, rfl, ?_⟩
  rw [List.map_map]
  rfl

theorem listedTenants_nodup (db : Database) : ((listedTenants db).map TenantRow.id).Nodup := by
  have hperm : ((db.tenants.select fun _ => true).insertionSort fun a b =>
      a.createdAt ≤ b.createdAt).Perm (db.tenants.select fun _ => true) :=
    List.perm_insertionSort _ _
  have hsorted := (hperm.map TenantRow.id).nodup_iff.mpr
    (db.tenants.nodup.sublist (List.filter_sublist.map TenantRow.id))
  exact hsorted.sublist (List.filter_sublist.map TenantRow.id)

theorem mem_listedTenants {db : Database} {t : TenantRow} :
    t ∈ listedTenants db ↔ t ∈ db.tenants.rows ∧ t.name ≠ platformTenant := by
  unfold listedTenants
  rw [List.mem_filter, List.mem_insertionSort, KeyedTable.mem_select, bne_iff_ne]
  simp

end ProviderRoutes

/-- The recognised calls for one of some tenants. -/
def billedTo (calls : List MeterCall) (tenantIds : List String) : List MeterCall :=
  calls.filter fun c => c.recognised && tenantIds.contains c.tenantId

/-- The listed tenants' costs add up to the costs of all their calls. -/
theorem sum_tenantCost {rt : Runtime} {calls : List MeterCall} {s : Session}
    (hs : s.db.usageEvents.select (fun _ => true) = eventsOf rt calls) {ids : List String}
    (hids : ids.Nodup) :
    (ids.map (ProviderRoutes.tenantCost s.db)).sum =
      ((billedTo calls ids).map MeterCall.cost).sum := by
  have hcost (id : String) : ProviderRoutes.tenantCost s.db id =
      groupSum MeterCall.tenantId MeterCall.cost (calls.filter MeterCall.recognised) id := by
    unfold ProviderRoutes.tenantCost groupSum
    rw [windowRows_eq hs, List.map_map, List.filter_filter]
    unfold billed
    congr 2
    refine List.filter_congr fun c _ => Bool.eq_iff_iff.mpr ?_
    simp [and_comm]
  have hsum := sum_groups MeterCall.tenantId MeterCall.cost (calls.filter MeterCall.recognised) hids
  rw [List.map_congr_left fun id _ => hcost id, hsum, List.filter_filter]
  unfold billedTo
  congr 2
  refine List.filter_congr fun c _ => ?_
  rw [Bool.and_comm]
  simp

/-- After any calls of `record`, with any price books, the rollup, the quota and the provider's
    total report the recognised calls, each at the price of its own time. -/
theorem usage_accounting (rt : Runtime) (calls : List MeterCall) (s : Session) :
    ∃ t, (meterAll rt calls).run s.unmetered = .ok () t ∧
      (∀ tenantId since until_, ∃ r,
        (MeteringService.rollup tenantId since until_).run t = .ok r t ∧
        Reports (billed calls tenantId since until_) r) ∧
      (∀ env tenantId plan kind want, ∃ st r,
        (QuotaService.status env tenantId plan kind want).run t = .ok st t.ticked ∧
        (MeteringService.rollup tenantId (some (monthStart (env.now t.ticks))) none).run t =
          .ok r t ∧
        st.used = r.quantity kind) ∧
      ∀ env auth p, (Deps.requireProvider env auth).run t = .ok p t.ticked →
        ∃ g, (ProviderRoutes.usage env auth).run t = .ok g t.ticked ∧
          (∀ id, id ∈ g.tenants.map ProviderRoutes.ProviderUsageRow.tenantId ↔
            ∃ row ∈ t.db.tenants.rows, row.id = id ∧ row.name ≠ platformTenant) ∧
          g.grandTotalCents = ((billedTo calls
            (g.tenants.map ProviderRoutes.ProviderUsageRow.tenantId)).map MeterCall.cost).sum := by
  obtain ⟨t, ht, hdb⟩ := meterAll_run rt calls s.unmetered
  have hevents : t.db.usageEvents.select (fun _ => true) = eventsOf rt calls := by
    rw [hdb, select_addUsage, List.filter_true]
    rfl
  refine ⟨t, ht, rollup_reports hevents, quota_agrees, fun env auth p hp => ?_⟩
  obtain ⟨g, hg, htenants, hgrand⟩ := ProviderRoutes.usage_run hp
  have hids : g.tenants.map ProviderRoutes.ProviderUsageRow.tenantId =
      (ProviderRoutes.listedTenants t.db).map TenantRow.id := by
    rw [htenants, List.map_map]
    rfl
  refine ⟨g, hg, fun id => ?_, ?_⟩
  · rw [hids, List.mem_map]
    constructor
    · rintro ⟨row, hrow, rfl⟩
      obtain ⟨hmem, hname⟩ := ProviderRoutes.mem_listedTenants.mp hrow
      exact ⟨row, hmem, rfl, hname⟩
    · rintro ⟨row, hmem, rfl, hname⟩
      exact ⟨row, ProviderRoutes.mem_listedTenants.mpr ⟨hmem, hname⟩, rfl⟩
  · rw [hids, ← sum_tenantCost hevents (ProviderRoutes.listedTenants_nodup t.db), hgrand,
      List.map_map]
    rfl

end SentinelAI
