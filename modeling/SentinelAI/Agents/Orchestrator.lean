import SentinelAI.Agents.DetectionAgent
import SentinelAI.Agents.ResponseAgent
import SentinelAI.Agents.TriageAgent
import SentinelAI.Services.Enrichment

/-
  Orchestrator (`app/agents/orchestrator.py`): detect, enrich, triage, plan, summarize.
-/

namespace SentinelAI

/-- The clients an orchestrator was built with. -/
structure Orchestrator where
  splunk : SplunkClient
  model : AIModel
  deriving DecidableEq, Repr

namespace Orchestrator

def summarySystem : String :=
  "You are a SOC lead writing a concise incident summary for stakeholders. " ++
  "Summarize the detection, the triage verdict, and the planned actions in 2-3 sentences."

/-- `detection.enrichment = …`. -/
def enrichmentDict (e : Enrichment) : EnrichmentDict where
  threatIntel := e.threatIntel
  assetCriticality := some e.assetCriticality
  identityContext := e.identityContext
  indicators := some e.indicators
  riskBoost := some (roundTo 3 e.boost)

def timeline (rt : Runtime) (d : Detection) (e : Enrichment) (v : TriageVerdict)
    (actions : List IncidentAction) : List String :=
  ["Detection raised: " ++ d.title ++ " on " ++ d.entity,
    "Enrichment: asset=" ++ e.assetCriticality ++ ", TI=" ++
      (textGet e.threatIntel "verdict").getD "n/a" ++ ", indicators=" ++
      toString e.indicators.length,
    "Triage verdict: " ++ (if v.isTruePositive then "TRUE" else "FALSE") ++
      " positive (confidence " ++ rt.format2 v.confidence ++ ")"] ++
  actions.map fun a => "Action planned: " ++ a.actionType ++ " -> " ++ a.target

def summaryPrompt (rt : Runtime) (d : Detection) (e : Enrichment) (v : TriageVerdict)
    (actions : List IncidentAction) : String :=
  "Detection: " ++ d.title ++ "; Asset criticality: " ++ e.assetCriticality ++
    "; Verdict TP=" ++ pyStr rt (.bool v.isTruePositive) ++ "; Actions: " ++
    pyStr rt (.arr (actions.map fun a => .str a.actionType))

/-- `Orchestrator.investigate`. -/
def investigate (rt : Runtime) (env : Env) (orch : Orchestrator) (detection : Detection) :
    ApiM Investigation := do
  let e := enrich detection.entity detection.users.head? detection.srcIps
  let d := { detection with enrichment := enrichmentDict e }
  let verdict ← TriageAgent.triage rt env orch.model d
  let actions := ResponseAgent.plan rt d verdict
  let d := { d with
    status := if verdict.isTruePositive then .investigating else .falsePositive
    severity := verdict.recommendedSeverity }
  let summary ← orch.model.complete env summarySystem (summaryPrompt rt d e verdict actions)
  let uuid ← uuidHex env
  let now ← readClock env
  return {
    id := shortId "INV-" uuid
    detection := d
    verdict := some verdict
    timeline := timeline rt d e verdict actions
    actions := actions
    summary := summary
    createdAt := now }

def runDetections (env : Env) (orch : Orchestrator) (disabled : List String) :
    ApiM (List Detection) :=
  DetectionAgent.run env orch.splunk disabled

/-- `Orchestrator.run_full_pipeline`. -/
def runFullPipeline (rt : Runtime) (env : Env) (orch : Orchestrator) (disabled : List String) :
    ApiM (List Investigation) := do
  let detections ← runDetections env orch disabled
  detections.mapM (investigate rt env orch)

end Orchestrator

end SentinelAI
