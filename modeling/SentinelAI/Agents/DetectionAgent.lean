import SentinelAI.Core.Resilience
import SentinelAI.Services.Correlation

/-
  Detection agent (`app/agents/detection_agent.py`): runs the rules that are not disabled
  and turns hits into detections.
-/

namespace SentinelAI

structure DetectionRule where
  ruleId : String
  title : String
  description : String
  spl : String
  baseSeverity : Severity
  mitreTactics : List String
  minEvents : Int := 1
  deriving DecidableEq, Repr

/-- `DEFAULT_RULES`. -/
def defaultRules : List DetectionRule := [
  { ruleId := "R001"
    title := "Brute-force authentication"
    description := "High volume of failed authentication attempts against a host."
    spl := "search index=auth action=failure failed authentication"
    baseSeverity := .high
    mitreTactics := ["TA0006"]
    minEvents := 10 },
  { ruleId := "R002"
    title := "Suspicious outbound network traffic"
    description := "Outbound connections on uncommon ports with large transfer volume."
    spl := "search index=network firewall bytes > 500000"
    baseSeverity := .high
    mitreTactics := ["TA0010"] },
  { ruleId := "R003"
    title := "Encoded PowerShell execution"
    description := "PowerShell launched with an encoded command from an Office parent process."
    spl := "search index=endpoint process powershell encoded"
    baseSeverity := .critical
    mitreTactics := ["TA0002", "TA0005"] },
  { ruleId := "R004"
    title := "Successful login after brute force"
    description := "Successful authentication following a burst of failures (likely compromise)."
    spl := "search index=auth failed authentication action=success"
    baseSeverity := .critical
    mitreTactics := ["TA0006", "TA0001"]
    minEvents := 10 },
  { ruleId := "R005"
    title := "Privilege escalation attempt"
    description := "Unexpected addition of an account to a privileged group."
    spl := "search index=endpoint process privilege escalation"
    baseSeverity := .high
    mitreTactics := ["TA0004"] }]

/-- The values of some fields over all events, those present. -/
def fieldValues (events : List SplunkEvent) (keys : List String) : List String :=
  events.flatMap fun e => keys.filterMap fun k => (e.fields.find? fun f => f.1 == k).map Prod.snd

namespace DetectionAgent

/-- The detection a rule's hits give. -/
def detectionOf (env : Env) (rule : DetectionRule) (result : SearchResult) : ApiM Detection := do
  let uuid ← uuidHex env
  let now ← readClock env
  return {
    id := shortId "DET-" uuid
    title := rule.title
    description := rule.description
    severity := rule.baseSeverity
    splQuery := rule.spl
    entity := (result.events.head?.map SplunkEvent.host).getD "unknown"
    eventCount := result.eventCount
    createdAt := now
    mitreTactics := rule.mitreTactics
    srcIps := sortedSet (fieldValues result.events ["src_ip", "dest_ip"])
    users := sortedSet (fieldValues result.events ["user"]) }

/-- A query error is deterministic and not retried. -/
def isQueryError : Exc → Bool
  | .splunk (.query _) => true
  | _ => false

/-- The loop body of `run`. -/
def runRule (env : Env) (splunk : SplunkClient) (disabled : List String) (rule : DetectionRule) :
    ApiM (Option Detection) := do
  if disabled.contains rule.ruleId then return none
  let result ← withRetry env (splunk.search env rule.spl "-24h" "now") isQueryError
  if result.eventCount < rule.minEvents then return none
  return some (← detectionOf env rule result)

/-- `DetectionAgent.run`. -/
def run (env : Env) (splunk : SplunkClient) (disabled : List String) :
    ApiM (List Detection) := do
  let detections ← defaultRules.mapM (runRule env splunk disabled)
  return detections.filterMap id

/-- `DetectionAgent(splunk, rules).run`. -/
def runRules (env : Env) (splunk : SplunkClient) (rules : List DetectionRule)
    (disabled : List String) : ApiM (List Detection) := do
  let detections ← rules.mapM (runRule env splunk disabled)
  return detections.filterMap id

theorem run_eq_runRules (env : Env) (splunk : SplunkClient) (disabled : List String) :
    run env splunk disabled = runRules env splunk defaultRules disabled := rfl

end DetectionAgent

end SentinelAI
