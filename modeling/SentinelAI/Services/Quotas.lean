import SentinelAI.Services.Metering

/-
  Plan quotas (`app/services/quotas.py`): a monthly allowance per plan, checked against the
  usage events of the calendar month to date.
-/

namespace SentinelAI

/-- "No limit". -/
def unlimited : Int := -1

structure PlanQuota where
  searchesPerMonth : Int
  modelCallsPerMonth : Int

/-- `quota_for`; unknown plans fall back to free. -/
def quotaFor (plan : String) : PlanQuota :=
  if plan == "trial" then ⟨250, 150⟩
  else if plan == "pro" then ⟨10000, 5000⟩
  else if plan == "enterprise" then ⟨unlimited, unlimited⟩
  else ⟨100, 50⟩

structure QuotaStatus where
  kind : String
  used : Int
  limit : Int
  allowed : Bool
  warn : Bool
  deriving DecidableEq, Repr

def QuotaStatus.remaining (s : QuotaStatus) : Int :=
  if s.limit == unlimited then unlimited else max 0 (s.limit - s.used)

/-- The day of the month, from 1, of a day counted from the epoch. -/
def dayOfMonth (days : Int) : Int :=
  -- count from 1 March of year 0, in eras of 400 years
  let doe := (days + 719468) % 146097
  let yoe := (doe - doe / 1460 + doe / 36524 - doe / 146096) / 365
  let doy := doe - (365 * yoe + yoe / 4 - yoe / 100)
  let mp := (5 * doy + 2) / 153
  doy - (153 * mp + 2) / 5 + 1

/-- `_month_start`. -/
def monthStart (now : Time) : Time :=
  let days := now / 86400000000
  (days - (dayOfMonth days - 1)) * 86400000000

-- 2024-02-29 12:00 is in the month that starts on 2024-02-01
example : monthStart 1709208000000000 = 1706745600000000 := by decide

namespace QuotaService

/-- `_used_this_month`. -/
def usedThisMonth (env : Env) (tenantId kind : String) : ApiM Int := do
  let now ← readClock env
  let rows ← selectIds Tables.usageEvents fun r =>
    r.tenantId == tenantId && r.kind == kind && decide (monthStart now ≤ r.createdAt)
  return (rows.map fun r => r.2.quantity).sum

def limitOf (plan kind : String) : Int :=
  if kind == kindSearch then (quotaFor plan).searchesPerMonth
  else if kind == kindModelCall then (quotaFor plan).modelCallsPerMonth
  else unlimited

/-- `QuotaService.status`: the status if `want` more units are about to run. -/
def status (env : Env) (tenantId plan kind : String) (want : Int) : ApiM QuotaStatus := do
  let limit := limitOf plan kind
  let used ← usedThisMonth env tenantId kind
  if limit == unlimited then
    return { kind := kind, used := used, limit := unlimited, allowed := true, warn := false }
  return { kind := kind, used := used, limit := limit, allowed := decide (used + want ≤ limit),
           warn := decide (limit * 4 / 5 ≤ used) }

/-- `QuotaService.check_or_raise`. -/
def checkOrRaise (env : Env) (tenantId plan kind : String) (want : Int) : ApiM QuotaStatus := do
  let st ← status env tenantId plan kind want
  raiseIf (!st.allowed) (.quota kind st.used st.limit)
  return st

end QuotaService

end SentinelAI
