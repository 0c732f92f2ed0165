import SentinelAI.Models.Domain

/-
  Case workflow (`app/services/workflow.py`): the status lifecycle and the SLA clocks.
-/

namespace SentinelAI

/-- `_ALLOWED`. -/
def allowedTransitions : DetectionStatus → List DetectionStatus
  | .new => [.triaged, .falsePositive]
  | .triaged => [.investigating, .falsePositive]
  | .investigating => [.contained, .resolved, .falsePositive]
  | .contained => [.resolved, .investigating]
  | .resolved => [.investigating]
  | .falsePositive => [.investigating]

def canTransition (current target : DetectionStatus) : Bool :=
  (allowedTransitions current).contains target

def slaAcknowledgeMin : Int := 15

def slaContainMin : Int := 60

structure Sla where
  ackTargetMin : Int
  ackElapsedMin : ℚ
  ackBreached : Bool
  containTargetMin : Int
  containElapsedMin : ℚ
  containBreached : Bool
  deriving DecidableEq

/-- Minutes between two instants, to one decimal. At 903 s, an exact tie, this is 15.0 and
    CPython's float gives 15.1. -/
def elapsedMinutes (a b : Time) : ℚ := roundTo 1 ((b - a : Int) / 60000000)

/-- `compute_sla`, with the elapsed minutes rounded as `elapsedMinutes` says. -/
def computeSla (createdAt : Time) (acknowledgedAt containedAt : Option Time) (now : Time) : Sla :=
  let ackElapsed := elapsedMinutes createdAt (acknowledgedAt.getD now)
  let containElapsed := elapsedMinutes createdAt (containedAt.getD now)
  { ackTargetMin := slaAcknowledgeMin
    ackElapsedMin := ackElapsed
    ackBreached := acknowledgedAt.isNone && decide (slaAcknowledgeMin < ackElapsed)
    containTargetMin := slaContainMin
    containElapsedMin := containElapsed
    containBreached := containedAt.isNone && decide (slaContainMin < containElapsed) }

end SentinelAI
