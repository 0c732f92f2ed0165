import SentinelAI.Detection.Components
import SentinelAI.Detection.DegradedModel

/-
  When triage fails safe. The agent falls back to a review verdict when the model's text is
  not JSON, but reads the members of whatever JSON it gets: a value that is no object has no
  `get`, a confidence or a list of actions of another type raises, and every falsy or missing
  `is_true_positive` closes the detection. `fails_safe_iff` says exactly which texts are
  handled as intended.
-/

namespace SentinelAI

/-- Values `float` takes. -/
def JsonValue.Floatable (rt : Runtime) : JsonValue → Prop
  | .bool _ => True
  | .int n => n.natAbs < 2 ^ 1024 - 2 ^ 970
  | .float _ => True
  | .str s => (rt.floatOfText s).isSome
  | _ => False

/-- Values a `for` loop runs over. -/
def JsonValue.Iterable : JsonValue → Prop
  | .arr _ => True
  | .str _ => True
  | .obj _ => True
  | _ => False

theorem pyFloat_isOk_iff (rt : Runtime) (v : JsonValue) :
    (∃ x, pyFloat rt v = .ok x) ↔ v.Floatable rt := by
  cases v with
  | bool b => cases b <;> simp [pyFloat, JsonValue.Floatable]
  | int n =>
    rw [pyFloat, JsonValue.Floatable]
    by_cases h : 2 ^ 1024 - 2 ^ 970 ≤ n.natAbs
    · rw [if_pos h]
      constructor
      · rintro ⟨_, hx⟩
        cases hx
      · exact fun hlt => absurd h (Nat.not_le.mpr hlt)
    · rw [if_neg h]
      exact ⟨fun _ => Nat.not_le.mp h, fun _ => ⟨_, rfl⟩⟩
  | str s =>
    rw [pyFloat, JsonValue.Floatable]
    cases rt.floatOfText s <;> simp
  | _ => simp [pyFloat, JsonValue.Floatable]

/-- The confidence a verdict without one gets can be read. -/
theorem zero_floatable (rt : Runtime) : (JsonValue.int 0).Floatable rt := by
  rw [JsonValue.Floatable]
  apply Nat.sub_pos_of_lt
  apply Nat.pow_lt_pow_right Nat.one_lt_two
  decide

theorem pyItems_isOk_iff (v : JsonValue) : (∃ xs, pyItems v = .ok xs) ↔ v.Iterable := by
  cases v <;> simp [pyItems, JsonValue.Iterable]

namespace TriageAgent

/-- The member of a verdict, or what the agent takes for a missing one. -/
def memberOr (data : List (String × JsonValue)) (key : String) (missing : JsonValue) : JsonValue :=
  (dictGet data key).getD missing

/-- A verdict object the agent can read, with a flag it does not mistake: one that is there
    and is true in Python's sense or the literal `false`. -/
structure ReadableVerdict (rt : Runtime) (data : List (String × JsonValue)) : Prop where
  confidence : (memberOr data "confidence" (.int 0)).Floatable rt
  actions : (memberOr data "suggested_actions" (.arr [])).Iterable
  flag : ∃ flag, dictGet data "is_true_positive" = some flag ∧
    (flag.truthy = true ∨ flag = .bool false)

/-- A text that is no JSON, or a readable verdict. A JSON text that `json.loads` cannot hold, for
    a long integer or deep nesting in it, is neither. -/
def Readable (rt : Runtime) (text : String) : Prop :=
  match rt.jsonLoads text with
  | .error name => name = "JSONDecodeError"
  | .ok (.obj data) => ReadableVerdict rt data
  | .ok _ => False

/-- The text is a JSON object that says outright it is a false positive. -/
def SaysFalse (rt : Runtime) (text : String) : Prop :=
  ∃ data, rt.jsonLoads text = .ok (.obj data) ∧
    dictGet data "is_true_positive" = some (.bool false)

/-- A verdict to be acted on after the text: a confidence in [0, 1], and no false positive
    unless the text says so. -/
structure SafeVerdict (rt : Runtime) (text : String) (v : TriageVerdict) : Prop where
  confidence_ge : 0 ≤ v.confidence
  confidence_le : v.confidence ≤ 1
  declared : v.isTruePositive = false → SaysFalse rt text

/-- Triage returns a verdict, and a safe one. -/
def FailsSafe (rt : Runtime) (env : Env) (model : AIModel) (d : Detection) (s : Session)
    (text : String) : Prop :=
  ∃ v t, (triage rt env model d).run s = .ok v t ∧ SafeVerdict rt text v

section

variable {rt : Runtime} {d : Detection} {data : List (String × JsonValue)}

theorem verdictOf_eq_ok {v : TriageVerdict} (h : verdictOf rt d data = .ok v) :
    (memberOr data "confidence" (.int 0)).Floatable rt ∧
      (memberOr data "suggested_actions" (.arr [])).Iterable ∧
      v.isTruePositive = (memberOr data "is_true_positive" (.bool false)).truthy := by
  unfold verdictOf at h
  cases hc : pyFloat rt ((dictGet data "confidence").getD (.int 0)) with
  | error e =>
    rw [hc] at h
    cases h
  | ok confidence =>
    cases ha : pyItems ((dictGet data "suggested_actions").getD (.arr [])) with
    | error e =>
      rw [hc, ha] at h
      cases h
    | ok actions =>
      rw [hc, ha] at h
      cases h
      exact ⟨(pyFloat_isOk_iff rt _).mp ⟨confidence, hc⟩, (pyItems_isOk_iff _).mp ⟨actions, ha⟩, rfl⟩

theorem verdictOf_isOk (hc : (memberOr data "confidence" (.int 0)).Floatable rt)
    (ha : (memberOr data "suggested_actions" (.arr [])).Iterable) :
    ∃ v, verdictOf rt d data = .ok v := by
  obtain ⟨confidence, hconfidence⟩ := (pyFloat_isOk_iff rt _).mpr hc
  obtain ⟨actions, hactions⟩ := (pyItems_isOk_iff _).mpr ha
  unfold memberOr at hconfidence hactions
  unfold verdictOf
  rw [hconfidence, hactions]
  exact ⟨_, rfl⟩

/-- Reading an object is safe exactly when it is a readable verdict. -/
theorem verdictOf_safe_iff {text : String} (htext : rt.jsonLoads text = .ok (.obj data)) :
    (∃ v, verdictOf rt d data = .ok v ∧ SafeVerdict rt text v) ↔ ReadableVerdict rt data := by
  constructor
  · rintro ⟨v, hv, hsafe⟩
    obtain ⟨hc, ha, hflag⟩ := verdictOf_eq_ok hv
    refine ⟨hc, ha, ?_⟩
    by_cases htp : v.isTruePositive = true
    · rw [hflag, memberOr] at htp
      cases hget : dictGet data "is_true_positive" with
      | none =>
        rw [hget] at htp
        cases htp
      | some flag =>
        rw [hget] at htp
        exact ⟨flag, rfl, Or.inl htp⟩
    · obtain ⟨data', hdata', hfalse⟩ := hsafe.declared (Bool.eq_false_iff.mpr htp)
      rw [htext] at hdata'
      cases hdata'
      exact ⟨.bool false, hfalse, Or.inr rfl⟩
  · rintro ⟨hc, ha, flag, hget, hflag⟩
    obtain ⟨v, hv⟩ := verdictOf_isOk (d := d) hc ha
    refine ⟨v, hv, v.confidence_ge, v.confidence_le, fun hclosed => ⟨data, htext, ?_⟩⟩
    rw [(verdictOf_eq_ok hv).2.2, memberOr, hget, Option.getD_some] at hclosed
    rcases hflag with htrue | rfl
    · rw [htrue] at hclosed
      cases hclosed
    · exact hget

end

/-- The review verdict is safe after any text. -/
theorem fallback_safe (rt : Runtime) (d : Detection) (text : String) :
    SafeVerdict rt text (fallback d) where
  confidence_ge := (fallback d).confidence_ge
  confidence_le := (fallback d).confidence_le
  declared := fun h => by cases h

/-- What triage concludes from a text is safe exactly when the text is readable. -/
theorem conclude_safe_iff (rt : Runtime) (d : Detection) (text : String) :
    (∃ v, conclude rt d (.ok text) = .ok v ∧ SafeVerdict rt text v) ↔ Readable rt text := by
  unfold conclude Readable
  dsimp only
  cases hjson : rt.jsonLoads text with
  | error name =>
    dsimp only
    by_cases hname : name = "JSONDecodeError"
    · rw [if_pos (beq_iff_eq.mpr hname)]
      exact iff_of_true ⟨_, rfl, fallback_safe rt d text⟩ hname
    · -- a `ValueError` or a `RecursionError`: nobody catches it
      rw [if_neg (by simpa using hname)]
      refine iff_of_false ?_ hname
      rintro ⟨v, hv, _⟩
      cases hv
  | ok value =>
    cases value with
    | obj data => exact verdictOf_safe_iff hjson
    | _ =>
      constructor
      · rintro ⟨v, hv, _⟩
        cases hv
      · exact False.elim

/-- For every detection and every text the model returns, triage returns a verdict with a
    confidence in [0, 1] that is a false positive only if the text says so, exactly when the
    text is no JSON or a readable verdict. -/
theorem fails_safe_iff (rt : Runtime) (env : Env) (model : AIModel) (d : Detection) (s : Session)
    (text : String)
    (htext : env.complete model s.completions.length system (prompt d) = .ok text) :
    FailsSafe rt env model d s text ↔ Readable rt text := by
  rw [← conclude_safe_iff rt d text]
  unfold FailsSafe
  rw [triage_run, htext]
  constructor
  · rintro ⟨v, t, hrun, hsafe⟩
    exact ⟨v, (ofExcept_eq_ok.mp hrun).1, hsafe⟩
  · rintro ⟨v, hv, hsafe⟩
    exact ⟨v, asked model s, ofExcept_eq_ok.mpr ⟨hv, rfl⟩, hsafe⟩

/-! ## Two empty answers -/

/-- A model that completes everything with one text. -/
def answering (text : String) : Env where
  now := fun _ => 0
  uuid4 := fun _ => ""
  complete := fun _ _ _ _ => .ok text

/-- A runtime that reads the empty array and the empty object. -/
def emptyJson : Runtime :=
  { Runtime.plain with
    jsonLoads := fun text =>
      if text = "[]" then .ok (.arr []) else if text = "\x7b\x7d" then .ok (.obj [])
      else .error "JSONDecodeError" }

/-- Triage of a detection under such a model. -/
def triageOf (rt : Runtime) (text : String) : EStateM.Result Exc Session TriageVerdict :=
  (triage rt (answering text) .mock (sightedOn "I1" "host-a" []).detection).run (.start .empty [] [])

/-- A text that is no JSON. -/
theorem fails_safe_iff_text :
    FailsSafe .plain (answering "I cannot help with that") .mock
      (sightedOn "I1" "host-a" []).detection (.start .empty [] []) "I cannot help with that" :=
  (fails_safe_iff .plain (answering "I cannot help with that") .mock
    (sightedOn "I1" "host-a" []).detection (.start .empty [] []) "I cannot help with that" rfl).mpr
    rfl

/-- The empty array makes triage raise, and the empty object closes the detection. -/
theorem triage_unsafe :
    (∃ e t, triageOf emptyJson "[]" = .error e t) ∧
    (∃ v t, triageOf emptyJson "\x7b\x7d" = .ok v t ∧ v.isTruePositive = false ∧
      ¬ SaysFalse emptyJson "\x7b\x7d") ∧
    ¬ ∀ (rt : Runtime) (env : Env) (model : AIModel) (d : Detection) (s : Session) (text : String),
      env.complete model s.completions.length system (prompt d) = .ok text →
      FailsSafe rt env model d s text := by
  have hraises : ∃ e t, triageOf emptyJson "[]" = .error e t := ⟨_, _, rfl⟩
  obtain ⟨v, hv⟩ : ∃ v, verdictOf emptyJson (sightedOn "I1" "host-a" []).detection [] = .ok v :=
    verdictOf_isOk (zero_floatable emptyJson) trivial
  refine ⟨hraises, ⟨v, asked .mock (.start .empty [] []), ?_, (verdictOf_eq_ok hv).2.2, ?_⟩,
    fun h => ?_⟩
  · exact (triage_run ..).trans (ofExcept_eq_ok.mpr ⟨hv, rfl⟩)
  · rintro ⟨data, hdata, hfalse⟩
    cases hdata
    cases hfalse
  · obtain ⟨e, t, he⟩ := hraises
    obtain ⟨v, t', hv, _⟩ := h emptyJson (answering "[]") .mock
      (sightedOn "I1" "host-a" []).detection (.start .empty [] []) "[]" rfl
    unfold triageOf at he
    rw [hv] at he
    cases he

end TriageAgent

end SentinelAI
