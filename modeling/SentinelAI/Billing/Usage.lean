import SentinelAI.Lib.GroupedSums
import SentinelAI.Services.Quotas

/-
  A tenant's usage as a sum over its usage events, which is what the quota check and the
  rollup compute, and what one metered event adds to it.
-/

namespace SentinelAI

open Lib

/-! ## Sums over usage events -/

/-- The quantities of the selected events. -/
def quantityOf (db : Database) (p : UsageEventRow → Bool) : Int :=
  ((db.usageEvents.select p).map UsageEventRow.quantity).sum

/-- A tenant's events of one kind. -/
def ofKind (tenantId kind : String) (r : UsageEventRow) : Bool :=
  r.tenantId == tenantId && r.kind == kind

/-- All a tenant has used of a kind. -/
def metered (db : Database) (tenantId kind : String) : Int := quantityOf db (ofKind tenantId kind)

/-- What a tenant has used of a kind in the calendar month of an instant. -/
def monthToDate (db : Database) (tenantId kind : String) (now : Time) : Int :=
  quantityOf db fun r => ofKind tenantId kind r && decide (monthStart now ≤ r.createdAt)

theorem quantityOf_insert {db db' : Database} {r : UsageEventRow}
    (h : db'.usageEvents = db.usageEvents.insert r) (p : UsageEventRow → Bool) :
    quantityOf db' p = quantityOf db p + if p r then r.quantity else 0 := by
  unfold quantityOf
  rw [h, AutoTable.select_insert, List.map_append, List.sum_append]
  split <;> simp

theorem quantityOf_congr {db db' : Database} (h : db'.usageEvents = db.usageEvents)
    (p : UsageEventRow → Bool) : quantityOf db' p = quantityOf db p := by
  unfold quantityOf
  rw [h]

/-- The rows with some usage events added. -/
def Database.addUsage (db : Database) (rows : List UsageEventRow) : Database :=
  { db with usageEvents := rows.foldl AutoTable.insert db.usageEvents }

theorem quantityOf_addUsage (db : Database) (rows : List UsageEventRow)
    (p : UsageEventRow → Bool) : quantityOf (db.addUsage rows) p =
      quantityOf db p + ((rows.filter p).map UsageEventRow.quantity).sum := by
  induction rows generalizing db with
  | nil => simp [Database.addUsage]
  | cons r rows ih =>
    have hins : quantityOf (db.addUsage [r]) p = _ := quantityOf_insert rfl p
    have hrest : db.addUsage (r :: rows) = (db.addUsage [r]).addUsage rows := rfl
    rw [hrest, ih, hins, List.filter_cons]
    split <;> simp [add_assoc]

namespace QuotaService

theorem usedThisMonth_run (env : Env) (tenantId kind : String) (s : Session) :
    (usedThisMonth env tenantId kind).run s =
      .ok (monthToDate s.db tenantId kind (env.now s.ticks)) s.ticked := by
  have hrun : (usedThisMonth env tenantId kind).run s =
      .ok ((s.db.usageEvents.selectRows fun r => r.tenantId == tenantId && r.kind == kind &&
        decide (monthStart (env.now s.ticks) ≤ r.createdAt)).map fun r => r.2.quantity).sum
        s.ticked := rfl
  rw [hrun, monthToDate, quantityOf, AutoTable.select_eq_map_selectRows, List.map_map]
  rfl

theorem status_run (env : Env) (tenantId plan kind : String) (want : Int) (s : Session) :
    ∃ st, (status env tenantId plan kind want).run s = .ok st s.ticked ∧
      st.used = monthToDate s.db tenantId kind (env.now s.ticks) := by
  have hused := usedThisMonth_run env tenantId kind s
  unfold status
  dsimp only
  rw [run_bind_ok hused]
  split
  · exact ⟨_, rfl, rfl⟩
  · exact ⟨_, rfl, rfl⟩

/-- The check lets through what fits into the allowance of the month. -/
theorem checkOrRaise_run (env : Env) (tenantId plan kind : String) (want : Int) (s : Session) :
    (∃ st, (checkOrRaise env tenantId plan kind want).run s = .ok st s.ticked ∧
      (limitOf plan kind = unlimited ∨
        monthToDate s.db tenantId kind (env.now s.ticks) + want ≤ limitOf plan kind)) ∨
    ((checkOrRaise env tenantId plan kind want).run s =
        .error (.quota kind (monthToDate s.db tenantId kind (env.now s.ticks))
          (limitOf plan kind)) s.ticked ∧
      limitOf plan kind ≠ unlimited ∧
      limitOf plan kind < monthToDate s.db tenantId kind (env.now s.ticks) + want) := by
  have hused := usedThisMonth_run env tenantId kind s
  have hstatus : (checkOrRaise env tenantId plan kind want).run s =
      (status env tenantId plan kind want >>= fun st =>
        raiseIf (!st.allowed) (.quota kind st.used st.limit) >>= fun _ => pure st).run s := rfl
  rw [hstatus]
  unfold status
  dsimp only
  rw [bind_assoc, run_bind_ok hused]
  by_cases hun : limitOf plan kind = unlimited
  · left
    simp only [hun, BEq.rfl, if_true]
    exact ⟨_, rfl, Or.inl trivial⟩
  · have hne : (limitOf plan kind == unlimited) = false := by simpa using hun
    simp only [hne, Bool.false_eq_true, if_false]
    by_cases hle : monthToDate s.db tenantId kind (env.now s.ticks) + want ≤ limitOf plan kind
    · left
      simp only [hle, decide_true]
      exact ⟨_, rfl, Or.inr trivial⟩
    · right
      simp only [hle, decide_false]
      exact ⟨rfl, hun, by omega⟩

end QuotaService

/-! ## Metering -/

namespace MeteringService

/-- The event `record` stores. -/
def usageRow (rt : Runtime) (tenantId kind : String) (quantity : Int) (detail : String)
    (now : Time) : UsageEventRow where
  tenantId := tenantId
  kind := kind
  quantity := quantity
  costCents := costCents rt.settings kind quantity
  detail := clip 200 detail
  createdAt := now

/-- A session after one event has been recorded. -/
def recorded (row : UsageEventRow) (s : Session) : Session :=
  { s.ticked with db := { s.db with usageEvents := s.db.usageEvents.insert row } }

theorem record_run (rt : Runtime) (env : Env) (tenantId : String) {kind : String}
    (quantity : Int) (detail : String) (hkind : kind ∈ validKinds) (s : Session) :
    (record rt env tenantId kind quantity detail).run s =
      .ok (some (usageRow rt tenantId kind quantity detail (env.now s.ticks)))
        (recorded (usageRow rt tenantId kind quantity detail (env.now s.ticks)) s) := by
  have hvalid : validKinds.contains kind = true := List.contains_iff_mem.mpr hkind
  unfold record
  rw [hvalid]
  rfl

theorem groupByKind_eq (rows : List UsageEventRow) :
    groupByKind rows = (rows.map UsageEventRow.kind).eraseDups.map fun k =>
      (k, ⟨groupSum UsageEventRow.kind UsageEventRow.quantity rows k,
        groupSum UsageEventRow.kind UsageEventRow.costCents rows k⟩) := rfl

/-- The entry of a kind: the sums over its rows, if there are any. -/
theorem groupByKind_lookup (rows : List UsageEventRow) (kind : String) :
    (groupByKind rows).lookup kind = if kind ∈ rows.map UsageEventRow.kind then
      some ⟨groupSum UsageEventRow.kind UsageEventRow.quantity rows kind,
        groupSum UsageEventRow.kind UsageEventRow.costCents rows kind⟩ else none := by
  rw [groupByKind_eq, lookup_map]
  simp only [List.mem_eraseDups]

theorem groupByKind_keys (rows : List UsageEventRow) :
    (groupByKind rows).map Prod.fst = (rows.map UsageEventRow.kind).eraseDups := by
  rw [groupByKind_eq, List.map_map]
  exact List.map_id _

/-- The costs of the kinds add up to those of the rows. -/
theorem groupByKind_total (rows : List UsageEventRow) :
    ((groupByKind rows).map fun k => k.2.costCents).sum =
      (rows.map UsageEventRow.costCents).sum := by
  rw [groupByKind_eq, List.map_map]
  exact sum_groups_self UsageEventRow.kind UsageEventRow.costCents rows

/-- The rows `rollup` adds up. -/
def windowRows (db : Database) (tenantId : String) (since until_ : Option Time) :
    List UsageEventRow :=
  db.usageEvents.select (inWindow tenantId since until_)

theorem rollup_run (tenantId : String) (since until_ : Option Time) (s : Session) :
    (rollup tenantId since until_).run s =
      .ok ⟨tenantId, groupByKind (windowRows s.db tenantId since until_),
        ((windowRows s.db tenantId since until_).map UsageEventRow.costCents).sum⟩ s := by
  have hrun : (rollup tenantId since until_).run s =
      .ok ⟨tenantId, groupByKind ((s.db.usageEvents.selectRows
        (inWindow tenantId since until_)).map Prod.snd), ((groupByKind ((s.db.usageEvents.selectRows
        (inWindow tenantId since until_)).map Prod.snd)).map fun k => k.2.costCents).sum⟩ s := rfl
  have hrows : (s.db.usageEvents.selectRows (inWindow tenantId since until_)).map Prod.snd =
      windowRows s.db tenantId since until_ := (AutoTable.select_eq_map_selectRows _ _).symm
  rw [hrun, hrows, groupByKind_total]

end MeteringService

end SentinelAI
