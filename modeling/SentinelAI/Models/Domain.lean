import Mathlib.Data.Rat.Defs
import Mathlib.Algebra.Order.Ring.Rat

/-
  Domain models of the agentic pipeline (`app/models/domain.py`).

  Instants are microseconds since the epoch, UTC. Numbers the source computes with as floats
  (confidence, risk boost, elapsed minutes) are exact rationals. A dict with a fixed set of keys
  (`Detection.enrichment`) is a record whose optional keys are options.
-/

namespace SentinelAI

/-- A timezone-aware UTC `datetime`, in microseconds since the epoch. -/
abbrev Time := Int

/-- The nearest integer, ties to even. -/
def roundHalfEven (q : ℚ) : Int :=
  let f := q.floor
  if q - f < 1 / 2 then f
  else if 1 / 2 < q - f then f + 1
  else if f % 2 = 0 then f
  else f + 1

/-- `round(q, digits)` of the exact number. Where that is a tie, as 15.05 at one digit, CPython
    rounds the nearest float, which may go the other way. -/
def roundTo (digits : Nat) (q : ℚ) : ℚ :=
  roundHalfEven (q * (10 ^ digits : Nat)) / (10 ^ digits : Nat)

/-- `int(q)`: towards zero. -/
def truncToInt (q : ℚ) : Int := if 0 ≤ q then q.floor else -(-q).floor

inductive Severity where
  | info
  | low
  | medium
  | high
  | critical
  deriving DecidableEq, Repr

def Severity.value : Severity → String
  | .info => "info"
  | .low => "low"
  | .medium => "medium"
  | .high => "high"
  | .critical => "critical"

/-- `Severity(s)`; none is the `ValueError`. -/
def Severity.ofValue? (s : String) : Option Severity :=
  [.info, .low, .medium, .high, .critical].find? fun v => v.value == s

inductive DetectionStatus where
  | new
  | triaged
  | investigating
  | contained
  | resolved
  | falsePositive
  deriving DecidableEq, Repr

def DetectionStatus.value : DetectionStatus → String
  | .new => "new"
  | .triaged => "triaged"
  | .investigating => "investigating"
  | .contained => "contained"
  | .resolved => "resolved"
  | .falsePositive => "false_positive"

/-- `DetectionStatus(s)`; none is the `ValueError`. -/
def DetectionStatus.ofValue? (s : String) : Option DetectionStatus :=
  [.new, .triaged, .investigating, .contained, .resolved, .falsePositive].find?
    fun v => v.value == s

theorem DetectionStatus.value_of_ofValue? {s : String} {v : DetectionStatus}
    (h : DetectionStatus.ofValue? s = some v) : v.value = s := by
  simpa using List.find?_some h

theorem DetectionStatus.ofValue?_value (v : DetectionStatus) :
    DetectionStatus.ofValue? v.value = some v := by
  cases v <;> rfl

/-- A raw event row returned from a Splunk search. -/
structure SplunkEvent where
  raw : String
  source : String
  sourcetype : String
  host : String
  timestamp : Time
  fields : List (String × String) := []

structure SearchResult where
  sid : String
  query : String
  eventCount : Int
  events : List SplunkEvent := []

/-- The keys of `Detection.enrichment`; all are absent until the orchestrator sets them. -/
structure EnrichmentDict where
  threatIntel : List (String × String) := []
  assetCriticality : Option String := none
  identityContext : List (String × String) := []
  indicators : Option (List String) := none
  riskBoost : Option ℚ := none
  deriving DecidableEq

structure Detection where
  id : String
  title : String
  description : String
  severity : Severity
  status : DetectionStatus := .new
  splQuery : String
  /-- affected host/user/ip -/
  entity : String
  eventCount : Int := 0
  createdAt : Time
  mitreTactics : List String := []
  srcIps : List String := []
  users : List String := []
  enrichment : EnrichmentDict := {}
  deriving DecidableEq

/-- A verdict; its confidence is in `[0, 1]`, as `Field(ge=0.0, le=1.0)` demands. -/
structure TriageVerdict where
  detectionId : String
  isTruePositive : Bool
  confidence : ℚ
  confidence_ge : 0 ≤ confidence
  confidence_le : confidence ≤ 1
  rationale : String
  recommendedSeverity : Severity
  suggestedActions : List String := []
  deriving DecidableEq

structure IncidentAction where
  actionType : String
  target : String
  rationale : String
  requiresApproval : Bool := true
  executed : Bool := false
  executionStatus : Option String := none
  executionDetail : Option String := none
  rollbackToken : Option String := none
  deriving DecidableEq, Repr

structure Investigation where
  id : String
  detection : Detection
  verdict : Option TriageVerdict := none
  timeline : List String := []
  actions : List IncidentAction := []
  summary : String := ""
  assignee : Option String := none
  createdAt : Time
  deriving DecidableEq

/-- A correlated group of investigations sharing an entity or indicators. -/
structure Incident where
  id : String
  title : String
  entity : String
  severity : Severity
  riskScore : Int := 0
  investigationIds : List String := []
  indicators : List String := []
  mitreTactics : List String := []
  createdAt : Time
  deriving DecidableEq

end SentinelAI
