import SentinelAI.Core.Errors

/-
  Action execution engine (`app/services/executor.py`). A connector is what it supports and
  what it answers; `ActionExecutor.execute` dispatches to the first that supports the
  action's type. The executor is pure here: `executorCall` says which connector invocation,
  if any, an execution makes, and the session logs it (`Core/Session.lean`).
-/

namespace SentinelAI

structure ExecutionResult where
  actionType : String
  target : String
  /-- success | failed | unsupported -/
  status : String
  detail : String
  rollbackToken : Option String := none
  deriving DecidableEq, Repr

/-- A connector executes a class of actions against an external system. It may raise. -/
structure ActionConnector where
  supports : String → Bool
  execute : String → String → Except Exc ExecutionResult

/-- `MockConnector._SUPPORTED`. -/
def MockConnector.supported : List (String × String) :=
  [("isolate_host", "EDR"), ("kill_process", "EDR"), ("disable_user", "IdP"),
    ("block_ip", "Firewall"), ("collect_forensics", "EDR")]

/-- Deterministic connector simulating EDR/IdP/firewall outcomes. -/
def mockConnector : ActionConnector where
  supports actionType := MockConnector.supported.any fun p => p.1 == actionType
  execute actionType target :=
    match MockConnector.supported.find? fun p => p.1 == actionType with
    | none => .error (.other "KeyError")
    | some (_, system) => .ok {
        actionType := actionType
        target := target
        status := "success"
        detail := system ++ ": " ++ actionType ++ " applied to " ++ target
        rollbackToken := some ("rb-" ++ actionType ++ "-" ++ target) }

/-- One connector invocation. -/
structure ConnectorCall where
  actionType : String
  target : String
  deriving DecidableEq, Repr

/-- The connector an action of this type is dispatched to. -/
def supportingConnector (connectors : List ActionConnector) (actionType : String) :
    Option ActionConnector :=
  connectors.find? fun c => c.supports actionType

/-- The result when no connector supports the action. -/
def unsupportedResult (actionType target : String) : ExecutionResult where
  actionType := actionType
  target := target
  status := "unsupported"
  detail := "No connector supports '" ++ actionType ++ "'"

/-- `ActionExecutor(connectors).execute(action_type, target)`. -/
def executorResult (connectors : List ActionConnector) (actionType target : String) :
    Except Exc ExecutionResult :=
  match supportingConnector connectors actionType with
  | some c => c.execute actionType target
  | none => .ok (unsupportedResult actionType target)

/-- The connector invocations that execution makes: one, or none when it is unsupported. -/
def executorCall (connectors : List ActionConnector) (actionType target : String) :
    List ConnectorCall :=
  match supportingConnector connectors actionType with
  | some _ => [⟨actionType, target⟩]
  | none => []

theorem executorCall_eq (connectors : List ActionConnector) {actionType target : String}
    {c : ConnectorCall} (h : c ∈ executorCall connectors actionType target) :
    c = ⟨actionType, target⟩ := by
  unfold executorCall at h
  split at h
  · exact List.mem_singleton.mp h
  · cases h

theorem executorCall_length (connectors : List ActionConnector) (actionType target : String) :
    (executorCall connectors actionType target).length ≤ 1 := by
  unfold executorCall
  split <;> simp

end SentinelAI
