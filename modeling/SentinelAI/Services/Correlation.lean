import SentinelAI.Core.Session

/-
  Incident correlation (`app/services/correlation.py`): investigations that share an entity
  or an indicator with a group join the first such group.
-/

namespace SentinelAI

def severityOrder : Severity → Nat
  | .info => 0
  | .low => 1
  | .medium => 2
  | .high => 3
  | .critical => 4

/-- The distinct texts of a list, sorted. -/
def sortedSet (xs : List String) : List String := xs.dedup.insertionSort (· ≤ ·)

/-- `_indicators_of`. -/
def indicatorsOf (inv : Investigation) : List String :=
  inv.detection.enrichment.indicators.getD [] ++ inv.detection.srcIps

/-- A group under construction: its members and its keys. -/
structure IncidentGroup where
  members : List Investigation
  entities : List String
  indicators : List String

/-- Whether an investigation belongs to a group. -/
def IncidentGroup.accepts (g : IncidentGroup) (inv : Investigation) : Bool :=
  g.entities.contains inv.detection.entity || (indicatorsOf inv).any g.indicators.contains

/-- Adds an investigation to the first group that accepts it, or opens a new one. -/
def placeInGroup (inv : Investigation) : List IncidentGroup → List IncidentGroup
  | [] => [⟨[inv], [inv.detection.entity], indicatorsOf inv⟩]
  | g :: gs =>
    if g.accepts inv then
      { members := g.members ++ [inv]
        entities := g.entities ++ [inv.detection.entity]
        indicators := g.indicators ++ indicatorsOf inv } :: gs
    else g :: placeInGroup inv gs

/-- `max(members, key=severity)`: the first of the most severe. -/
def topMember (first : Investigation) (rest : List Investigation) : Investigation :=
  rest.foldl (fun top m =>
    if severityOrder top.detection.severity < severityOrder m.detection.severity then m else top)
    first

/-- The first eight characters of a uuid. -/
def shortId (pre uuid : String) : String := pre ++ String.ofList (uuid.toList.take 8)

/-- The incident of a group. -/
def incidentOf (env : Env) (first : Investigation) (rest : List Investigation) : ApiM Incident := do
  let members := first :: rest
  let top := topMember first rest
  let uuid ← uuidHex env
  let now ← readClock env
  return {
    id := shortId "INC-" uuid
    title :=
      if rest.isEmpty then top.detection.title
      else top.detection.title ++ " (+" ++ toString rest.length ++ " related)"
    entity := top.detection.entity
    severity := top.detection.severity
    investigationIds := members.map Investigation.id
    indicators := sortedSet (members.flatMap indicatorsOf)
    mitreTactics := sortedSet (members.flatMap fun m => m.detection.mitreTactics)
    createdAt := now }

/-- `correlate`. -/
def correlate (env : Env) (investigations : List Investigation) : ApiM (List Incident) := do
  let groups := investigations.foldl (fun gs inv => placeInGroup inv gs) []
  let incidents ← groups.mapM fun g =>
    match g.members with
    | [] => pure none
    | first :: rest => some <$> incidentOf env first rest
  return incidents.filterMap id

end SentinelAI
