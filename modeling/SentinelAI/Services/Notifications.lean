import SentinelAI.Core.Errors

/-
  Notifications (`app/services/notifications.py`). The capture channel keeps what it is sent
  in memory; a webhook channel answers whether the POST was accepted and may raise what is
  not an `httpx.HTTPError`.
-/

namespace SentinelAI

structure Notification where
  event : String
  title : String
  severity : String
  body : String
  tenantId : String
  deriving DecidableEq, Repr

inductive NotificationChannel where
  | capture
  | webhook (send : Notification → Except Exc Bool)

/-- The notification `maybe_alert_high_risk` sends. -/
def highRiskNotification (tenantId title severity : String) (riskScore : Int) : Notification where
  event := "investigation.high_risk"
  title := title
  severity := severity
  body := "High-risk investigation (risk " ++ toString riskScore ++ ") requires attention."
  tenantId := tenantId

/-- The notification `alert_action_executed` sends. -/
def actionExecutedNotification (tenantId actionType target status : String) : Notification where
  event := "action.executed"
  title := "Response action " ++ actionType
  severity := "high"
  body := actionType ++ " on " ++ target ++ " -> " ++ status
  tenantId := tenantId

end SentinelAI
