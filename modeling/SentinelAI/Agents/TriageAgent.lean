import Mathlib.Tactic.NormNum
import SentinelAI.Core.Session

/-
  Triage agent (`app/agents/triage_agent.py`): asks the model for a JSON verdict and reads
  it defensively. Any text the model returns gives a verdict or an exception.
-/

namespace SentinelAI

/-- `str(value)` of a JSON value. -/
def pyStr (rt : Runtime) : JsonValue → String
  | .null => "None"
  | .bool true => "True"
  | .bool false => "False"
  | .int n => toString n
  | .float x =>
    match x.value with
    | .nan => "nan"
    | .inf => "inf"
    | .negInf => "-inf"
    | .finite _ => String.ofList x.text
  | .str s => s
  | v => rt.reprContainer v

/-- `float(value)` of a JSON value. -/
def pyFloat (rt : Runtime) : JsonValue → Except Exc FloatValue
  | .bool true => .ok (.finite 1)
  | .bool false => .ok (.finite 0)
  | .int n =>
    if 2 ^ 1024 - 2 ^ 970 ≤ n.natAbs then .error (.other "OverflowError") else .ok (.finite n)
  | .float x => .ok x.value
  | .str s =>
    match rt.floatOfText s with
    | some x => .ok x
    | none => .error (.other "ValueError")
  | _ => .error (.other "TypeError")

/-- The items `for a in value` runs over. -/
def pyItems : JsonValue → Except Exc (List JsonValue)
  | .arr xs => .ok xs
  | .str s => .ok (s.toList.map fun c => .str (String.singleton c))
  | .obj kvs => .ok (kvs.map fun kv => .str kv.1)
  | _ => .error (.other "TypeError")

/-- `_clamp`: `max(0.0, min(1.0, value))`, where `min(1.0, nan)` is 1.0. -/
def clamp : FloatValue → ℚ
  | .finite q => max 0 (min 1 q)
  | .inf => 1
  | .negInf => 0
  | .nan => 1

theorem clamp_nonneg (x : FloatValue) : 0 ≤ clamp x := by
  cases x with
  | finite q => exact le_max_left 0 _
  | inf => exact zero_le_one
  | negInf => exact le_refl 0
  | nan => exact zero_le_one

theorem clamp_le_one (x : FloatValue) : clamp x ≤ 1 := by
  cases x with
  | finite q => exact max_le zero_le_one (min_le_left 1 q)
  | inf => exact le_refl 1
  | negInf => exact zero_le_one
  | nan => exact le_refl 1

/-- `_coerce_severity`. The severity names are ASCII, and no other letter lower-cases to one
    of theirs. -/
def coerceSeverity (rt : Runtime) (value : JsonValue) : Severity :=
  (Severity.ofValue? (String.ofList ((pyStr rt value).toList.map Char.toLower))).getD .medium

namespace TriageAgent

def system : String :=
  "You are a senior SOC analyst performing alert triage. " ++
  "Given a detection, decide whether it is a true positive and return a JSON " ++
  "verdict with keys: is_true_positive (bool), confidence (0-1), rationale " ++
  "(string), recommended_severity (one of info/low/medium/high/critical), " ++
  "suggested_actions (list of strings)."

def prompt (d : Detection) : String :=
  "Detection: " ++ d.title ++ "\nDescription: " ++ d.description ++ "\nEntity: " ++ d.entity ++
    "\nEvent count: " ++ toString d.eventCount ++ "\nSPL: " ++ d.splQuery ++
    "\nMITRE: " ++ String.intercalate ", " d.mitreTactics ++
    "\nProvide your triage verdict as JSON."

/-- The verdict when the model's output cannot be used. -/
def fallback (d : Detection) : TriageVerdict where
  detectionId := d.id
  isTruePositive := true
  confidence := 1 / 2
  confidence_ge := by norm_num
  confidence_le := by norm_num
  rationale := "Model output unavailable; defaulting to analyst review."
  recommendedSeverity := d.severity
  suggestedActions := ["manual_review"]

/-- The verdict read off the model's answer. -/
def verdictOf (rt : Runtime) (d : Detection) (data : List (String × JsonValue)) :
    Except Exc TriageVerdict := do
  let confidence ← pyFloat rt ((dictGet data "confidence").getD (.int 0))
  let actions ← pyItems ((dictGet data "suggested_actions").getD (.arr []))
  return {
    detectionId := d.id
    isTruePositive := ((dictGet data "is_true_positive").getD (.bool false)).truthy
    confidence := clamp confidence
    confidence_ge := clamp_nonneg confidence
    confidence_le := clamp_le_one confidence
    rationale := pyStr rt ((dictGet data "rationale").getD (.str ""))
    recommendedSeverity := coerceSeverity rt ((dictGet data "recommended_severity").getD .null)
    suggestedActions := actions.map (pyStr rt) }

/-- What `complete_json` raises when `json.loads` raises: only a `JSONDecodeError` is caught. -/
def loadsFailure (text name : String) : Exc :=
  if name == "JSONDecodeError" then
    .aiModel ("Model did not return valid JSON: " ++ String.ofList (text.toList.take 200))
  else .other name

/-- `AIModel.complete_json`. -/
def completeJson (rt : Runtime) (env : Env) (model : AIModel) (sys user : String) :
    ApiM JsonValue := do
  let text ← model.complete env sys user
  match rt.jsonLoads text with
  | .ok v => return v
  | .error name => throw (loadsFailure text name)

/-- `TriageAgent.triage`. -/
def triage (rt : Runtime) (env : Env) (model : AIModel) (d : Detection) : ApiM TriageVerdict := do
  match ← attempt (completeJson rt env model system (prompt d)) with
  | .error (.aiModel _) => return fallback d
  | .error e => throw e
  | .ok (.obj data) => ofExcept (verdictOf rt d data)
  -- a JSON value that is no object has no `get`
  | .ok _ => throw (.other "AttributeError")

end TriageAgent

end SentinelAI
