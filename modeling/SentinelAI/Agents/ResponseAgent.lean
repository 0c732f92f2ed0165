import SentinelAI.Core.Session

/-
  Incident response agent (`app/agents/response_agent.py`): turns a verdict into planned
  actions, of which those that change the environment wait for approval.
-/

namespace SentinelAI

/-- `_GATED_ACTIONS`. -/
def gatedActions : List String := ["isolate_host", "disable_user", "block_ip", "kill_process"]

namespace ResponseAgent

/-- Suggestions that are no actions. -/
def skipped : List String := ["monitor", "close_as_fp", "manual_review"]

/-- `_resolve_target`: the detection's entity, whatever the hint. -/
def resolveTarget (d : Detection) (_actionType : String) : String := d.entity

/-- The action planned for a suggestion. -/
def planned (rt : Runtime) (d : Detection) (v : TriageVerdict) (actionType : String) :
    IncidentAction where
  actionType := actionType
  target := resolveTarget d actionType
  rationale := "Recommended by triage (confidence " ++ rt.format2 v.confidence ++ ")."
  requiresApproval := gatedActions.contains actionType

/-- `ResponseAgent.plan`. -/
def plan (rt : Runtime) (d : Detection) (v : TriageVerdict) : List IncidentAction :=
  if !v.isTruePositive then []
  else (v.suggestedActions.filter fun a => !skipped.contains a).map (planned rt d v)

/-- A planned action of a gated type waits for approval. -/
theorem plan_gated (rt : Runtime) (d : Detection) (v : TriageVerdict) {a : IncidentAction}
    (ha : a ∈ plan rt d v) (hg : a.actionType ∈ gatedActions) : a.requiresApproval = true := by
  unfold plan at ha
  split at ha
  · cases ha
  · obtain ⟨t, _, rfl⟩ := List.mem_map.mp ha
    exact List.contains_iff_mem.mpr hg

end ResponseAgent

end SentinelAI
