import SentinelAI.Db.Query

/-
  Usage metering and cost (`app/services/metering.py`). A usage event carries the cost it
  had when it was recorded.
-/

namespace SentinelAI

def kindSearch : String := "search"
def kindModelCall : String := "model_call"
def kindTokens : String := "tokens"
def kindAction : String := "action"

def validKinds : List String := [kindSearch, kindModelCall, kindTokens, kindAction]

/-- `PriceBook.from_settings(settings).cost_cents(kind, quantity)`. -/
def costCents (settings : Settings) (kind : String) (quantity : Int) : Int :=
  if kind == kindSearch then settings.priceSearchCents * quantity
  else if kind == kindModelCall then settings.priceModelCallCents * quantity
  -- tokens are priced by started blocks of 1000
  else if kind == kindTokens then settings.priceTokensCentsPer1k * ((quantity + 999) / 1000)
  else if kind == kindAction then settings.priceActionCents * quantity
  else 0

structure KindUsage where
  quantity : Int
  costCents : Int
  deriving DecidableEq, Repr

structure UsageRollup where
  tenantId : String
  byKind : List (String × KindUsage)
  totalCostCents : Int
  deriving DecidableEq, Repr

def UsageRollup.totalCostUsd (r : UsageRollup) : ℚ := roundTo 2 (r.totalCostCents / 100)

namespace MeteringService

/-- The first `n` characters. -/
def clip (n : Nat) (s : String) : String := String.ofList (s.toList.take n)

/-- `MeteringService.record`; none for an unrecognized kind. -/
def record (rt : Runtime) (env : Env) (tenantId kind : String) (quantity : Int)
    (detail : String) : ApiM (Option UsageEventRow) := do
  if !validKinds.contains kind then return none
  let now ← readClock env
  let row : UsageEventRow :=
    { tenantId := tenantId
      kind := kind
      quantity := quantity
      costCents := costCents rt.settings kind quantity
      detail := clip 200 detail
      createdAt := now }
  insertAuto Tables.usageEvents row
  return some row

/-- The `WHERE` clause of `rollup`. -/
def inWindow (tenantId : String) (since until_ : Option Time) (r : UsageEventRow) : Bool :=
  r.tenantId == tenantId && since.all (fun t => decide (t ≤ r.createdAt)) &&
    until_.all fun t => decide (r.createdAt ≤ t)

/-- `GROUP BY kind` with the sums of quantity and cost. -/
def groupByKind (rows : List UsageEventRow) : List (String × KindUsage) :=
  (rows.map UsageEventRow.kind).eraseDups.map fun kind =>
    let members := rows.filter fun r => r.kind == kind
    (kind, ⟨(members.map UsageEventRow.quantity).sum, (members.map UsageEventRow.costCents).sum⟩)

/-- `MeteringService.rollup`. -/
def rollup (tenantId : String) (since until_ : Option Time) : ApiM UsageRollup := do
  let rows ← selectIds Tables.usageEvents (inWindow tenantId since until_)
  let byKind := groupByKind (rows.map Prod.snd)
  return ⟨tenantId, byKind, (byKind.map fun k => k.2.costCents).sum⟩

end MeteringService

end SentinelAI
