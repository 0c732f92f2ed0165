import SentinelAI.Detection.RunRequest
import SentinelAI.Cases.Headers

/-
  The pipeline and a model that fails. Triage catches what `complete_json` raises and falls
  back to a verdict for an analyst to review; nothing catches what the completion of a summary
  raises, so one failed summary loses every detection of the run. `pipeline_covers_iff` says
  exactly which answers of the model the pipeline survives: the `i`-th detection takes the
  completions `2 i` (its triage) and `2 i + 1` (its summary) after those made before.
-/

namespace SentinelAI

open Lib

/-! ## What an investigation asks the model -/

namespace Orchestrator

/-- The detection as triage sees it. -/
def enriched (d : Detection) : Detection :=
  { d with enrichment := enrichmentDict (enrich d.entity d.users.head? d.srcIps) }

end Orchestrator

namespace TriageAgent

/-- What triage concludes from what the model's completion came to. -/
def conclude (rt : Runtime) (d : Detection) : Except Exc String → Except Exc TriageVerdict
  | .error (.aiModel _) => .ok (fallback d)
  | .error e => .error e
  | .ok text =>
    match rt.jsonLoads text with
    | .error name => if name == "JSONDecodeError" then .ok (fallback d) else .error (.other name)
    | .ok (.obj data) => verdictOf rt d data
    | .ok _ => .error (.other "AttributeError")

/-- The session after one more completion. -/
def asked (model : AIModel) (s : Session) : Session :=
  { s with completions := s.completions ++ [model] }

theorem complete_run (env : Env) (model : AIModel) (sys user : String) (s : Session) :
    (model.complete env sys user).run s =
      (ofExcept (env.complete model s.completions.length sys user)).run (asked model s) := rfl

/-- The JSON that `completeJson` reads in what the model's completion came to. -/
def jsonOf (rt : Runtime) : Except Exc String → Except Exc JsonValue
  | .error e => .error e
  | .ok text =>
    match rt.jsonLoads text with
    | .ok v => .ok v
    | .error name => .error (loadsFailure text name)

theorem completeJson_run (rt : Runtime) (env : Env) (model : AIModel) (sys user : String)
    (s : Session) :
    (completeJson rt env model sys user).run s =
      (ofExcept (jsonOf rt (env.complete model s.completions.length sys user))).run
        (asked model s) := by
  unfold completeJson
  rw [EStateM.run_bind, complete_run, ofExcept_run]
  cases env.complete model s.completions.length sys user with
  | error e => rfl
  | ok text =>
    dsimp only [jsonOf]
    cases rt.jsonLoads text <;> rfl

theorem triage_run (rt : Runtime) (env : Env) (model : AIModel) (d : Detection) (s : Session) :
    (triage rt env model d).run s =
      (ofExcept (conclude rt d (env.complete model s.completions.length system (prompt d)))).run
        (asked model s) := by
  unfold triage
  rw [EStateM.run_bind, attempt_run, completeJson_run]
  cases env.complete model s.completions.length system (prompt d) with
  | error e => cases e <;> rfl
  | ok text =>
    dsimp only [conclude, jsonOf]
    cases rt.jsonLoads text with
    | ok v => cases v <;> rfl
    | error name =>
      dsimp only [loadsFailure]
      cases name == "JSONDecodeError" <;> rfl

end TriageAgent

namespace Orchestrator

/-- What the completion of the triage comes to, if it is the model's `k`-th. -/
def triageAnswer (env : Env) (orch : Orchestrator) (k : Nat) (d : Detection) : Except Exc String :=
  env.complete orch.model k TriageAgent.system (TriageAgent.prompt (enriched d))

/-- The detection with triage's conclusions. -/
def concluded (d : Detection) (v : TriageVerdict) : Detection :=
  { enriched d with
    status := if v.isTruePositive then .investigating else .falsePositive
    severity := v.recommendedSeverity }

/-- What the completion of the summary comes to, if it is the model's `k`-th, once triage has
    concluded. -/
def summaryAnswer (rt : Runtime) (env : Env) (orch : Orchestrator) (k : Nat) (d : Detection)
    (v : TriageVerdict) : Except Exc String :=
  env.complete orch.model k summarySystem (summaryPrompt rt (concluded d v)
    (enrich d.entity d.users.head? d.srcIps) v (ResponseAgent.plan rt (enriched d) v))

/-- Triage can use what its completion came to, and the completion of the summary returned. -/
def Answered (rt : Runtime) (env : Env) (orch : Orchestrator) (k : Nat) (d : Detection) : Prop :=
  ∃ v, TriageAgent.conclude rt (enriched d) (triageAnswer env orch k d) = .ok v ∧
    ∃ text, summaryAnswer rt env orch (k + 1) d v = .ok text

/-- So for every detection, two completions each. -/
def AllAnswered (rt : Runtime) (env : Env) (orch : Orchestrator) : Nat → List Detection → Prop
  | _, [] => True
  | k, d :: ds => Answered rt env orch k d ∧ AllAnswered rt env orch (k + 2) ds

/-- The completion of the triage failed: it raised, or returned what is not JSON. -/
def TriageFailed (rt : Runtime) (env : Env) (orch : Orchestrator) (k : Nat) (d : Detection) :
    Prop :=
  (∃ ex, triageAnswer env orch k d = .error ex) ∨
    ∃ text, triageAnswer env orch k d = .ok text ∧ rt.jsonLoads text = .error "JSONDecodeError"

/-- The investigation of a detection, with the fallback verdict where triage failed. -/
structure Covers (rt : Runtime) (env : Env) (orch : Orchestrator) (k : Nat) (d : Detection)
    (inv : Investigation) : Prop where
  detection : inv.detection = { enriched d with
    status := inv.detection.status
    severity := inv.detection.severity }
  fallback : TriageFailed rt env orch k d →
    inv.verdict = some (TriageAgent.fallback (enriched d))

/-- One investigation for each detection, in order. -/
def AllCovered (rt : Runtime) (env : Env) (orch : Orchestrator) :
    Nat → List Detection → List Investigation → Prop
  | _, [], [] => True
  | k, d :: ds, inv :: invs =>
    Covers rt env orch k d inv ∧ AllCovered rt env orch (k + 2) ds invs
  | _, _, _ => False

theorem AllCovered.length {rt : Runtime} {env : Env} {orch : Orchestrator} {k : Nat}
    {ds : List Detection} {invs : List Investigation} (h : AllCovered rt env orch k ds invs) :
    invs.length = ds.length := by
  induction ds generalizing k invs with
  | nil =>
    cases invs with
    | nil => rfl
    | cons inv invs => exact h.elim
  | cons d ds ih =>
    cases invs with
    | nil => exact h.elim
    | cons inv invs => rw [List.length_cons, List.length_cons, ih h.2]

/-! ## Detection by detection -/

section

variable {rt : Runtime} {env : Env} {orch : Orchestrator} {s t : Session} {d : Detection}

/-- Triage that failed and still concluded fell back. -/
theorem fallback_of_failed {k : Nat} {v : TriageVerdict}
    (hv : TriageAgent.conclude rt (enriched d) (triageAnswer env orch k d) = .ok v)
    (hf : TriageFailed rt env orch k d) : v = TriageAgent.fallback (enriched d) := by
  obtain ⟨ex, hex⟩ | ⟨text, htext, hjson⟩ := hf
  · rw [hex] at hv
    cases ex with
    | aiModel m =>
      cases hv
      rfl
    | _ => cases hv
  · rw [htext] at hv
    simp only [TriageAgent.conclude, hjson] at hv
    cases hv
    rfl

/-- `investigate` once triage has concluded. -/
def afterTriage (rt : Runtime) (env : Env) (orch : Orchestrator) (d : Detection)
    (v : TriageVerdict) : ApiM Investigation := do
  let e := enrich d.entity d.users.head? d.srcIps
  let actions := ResponseAgent.plan rt (enriched d) v
  let summary ← orch.model.complete env summarySystem (summaryPrompt rt (concluded d v) e v actions)
  let uuid ← uuidHex env
  let now ← readClock env
  return {
    id := shortId "INV-" uuid
    detection := concluded d v
    verdict := some v
    timeline := timeline rt (concluded d v) e v actions
    actions := actions
    summary := summary
    createdAt := now }

theorem investigate_eq (rt : Runtime) (env : Env) (orch : Orchestrator) (d : Detection) :
    orch.investigate rt env d =
      (TriageAgent.triage rt env orch.model (enriched d) >>= afterTriage rt env orch d) := rfl

/-- The rest of an investigation stands or falls with its summary. -/
theorem afterTriage_cases (rt : Runtime) (env : Env) (orch : Orchestrator) (d : Detection)
    (v : TriageVerdict) (s : Session) :
    (∃ text inv t, summaryAnswer rt env orch s.completions.length d v = .ok text ∧
      (afterTriage rt env orch d v).run s = .ok inv t ∧ inv.detection = concluded d v ∧
      inv.verdict = some v ∧ t.completions.length = s.completions.length + 1) ∨
    ∃ ex t, summaryAnswer rt env orch s.completions.length d v = .error ex ∧
      (afterTriage rt env orch d v).run s = .error ex t := by
  have hsummary := TriageAgent.complete_run env orch.model summarySystem
    (summaryPrompt rt (concluded d v) (enrich d.entity d.users.head? d.srcIps) v
      (ResponseAgent.plan rt (enriched d) v)) s
  rw [ofExcept_run] at hsummary
  unfold summaryAnswer afterTriage
  cases hs : env.complete orch.model s.completions.length summarySystem
      (summaryPrompt rt (concluded d v) (enrich d.entity d.users.head? d.srcIps) v
        (ResponseAgent.plan rt (enriched d) v)) with
  | error ex =>
    rw [hs] at hsummary
    exact Or.inr ⟨ex, _, rfl, run_bind_error hsummary⟩
  | ok text =>
    rw [hs] at hsummary
    refine Or.inl ⟨text, _, _, rfl, run_bind_ok hsummary, rfl, rfl, ?_⟩
    show (TriageAgent.asked orch.model s).completions.length = _
    simp [TriageAgent.asked]

/-- An investigation stands or falls with the two completions it asks for. -/
theorem investigate_cases (rt : Runtime) (env : Env) (orch : Orchestrator) (d : Detection)
    (s : Session) :
    (Answered rt env orch s.completions.length d ∧
      ∃ inv t, (orch.investigate rt env d).run s = .ok inv t ∧
        Covers rt env orch s.completions.length d inv ∧
        t.completions.length = s.completions.length + 2) ∨
    (¬ Answered rt env orch s.completions.length d ∧
      ∃ ex t, (orch.investigate rt env d).run s = .error ex t) := by
  have htriage := TriageAgent.triage_run rt env orch.model (enriched d) s
  rw [ofExcept_run] at htriage
  rw [investigate_eq]
  have hlen : (TriageAgent.asked orch.model s).completions.length = s.completions.length + 1 := by
    simp [TriageAgent.asked]
  cases hv : TriageAgent.conclude rt (enriched d) (triageAnswer env orch s.completions.length d) with
  | error ex =>
    have hrun := hv
    unfold triageAnswer at hrun
    rw [hrun] at htriage
    refine Or.inr ⟨?_, ex, _, run_bind_error htriage⟩
    rintro ⟨v, hv', _⟩
    cases hv.symm.trans hv'
  | ok v =>
    have hrun := hv
    unfold triageAnswer at hrun
    rw [hrun] at htriage
    have hrest := afterTriage_cases rt env orch d v (TriageAgent.asked orch.model s)
    rw [hlen] at hrest
    obtain ⟨text, inv, t, hs, hafter, hdetection, hverdict, hcount⟩ | ⟨ex, t, hs, hafter⟩ := hrest
    · refine Or.inl ⟨⟨v, hv, text, hs⟩, inv, t, (run_bind_ok htriage).trans hafter, ⟨?_, ?_⟩, hcount⟩
      · rw [hdetection]
        rfl
      · intro hf
        rw [hverdict, fallback_of_failed hv hf]
    · refine Or.inr ⟨?_, ex, t, (run_bind_ok htriage).trans hafter⟩
      rintro ⟨v', hv', text, htext⟩
      cases hv.symm.trans hv'
      cases hs.symm.trans htext

/-- All detections are investigated exactly when the model's answers allow it. -/
theorem mapM_investigate_iff (rt : Runtime) (env : Env) (orch : Orchestrator)
    (ds : List Detection) (s : Session) :
    (∃ invs t, (ds.mapM (orch.investigate rt env)).run s = .ok invs t ∧
      AllCovered rt env orch s.completions.length ds invs) ↔
      AllAnswered rt env orch s.completions.length ds := by
  induction ds generalizing s with
  | nil => exact iff_of_true ⟨[], s, rfl, trivial⟩ trivial
  | cons d ds ih =>
    obtain ⟨hanswered, inv, u, hrun, hcovers, hlen⟩ | ⟨hunanswered, ex, u, hrun⟩ :=
      investigate_cases rt env orch d s
    · have hrest := ih u
      rw [hlen] at hrest
      constructor
      · rintro ⟨invs, t, h, hcovered⟩
        obtain ⟨inv', u', invs', hinv', hinvs', rfl⟩ := mapM_cons_eq_ok.mp h
        cases hrun.symm.trans hinv'
        exact ⟨hanswered, hrest.mp ⟨invs', t, hinvs', hcovered.2⟩⟩
      · intro h
        obtain ⟨invs, t, hinvs, hcovered⟩ := hrest.mpr h.2
        exact ⟨inv :: invs, t, mapM_cons_eq_ok.mpr ⟨inv, u, invs, hrun, hinvs, rfl⟩,
          hcovers, hcovered⟩
    · constructor
      · rintro ⟨invs, t, h, _⟩
        obtain ⟨inv', u', invs', hinv', _⟩ := mapM_cons_eq_ok.mp h
        cases hrun.symm.trans hinv'
      · exact fun h => absurd h.1 hunanswered

variable (rt) in
/-- The pipeline, once the detection agent has returned. -/
theorem pipeline_run {disabled : List String} {ds : List Detection} {u : Session}
    (hds : (orch.runDetections env disabled).run s = .ok ds u) :
    (orch.runFullPipeline rt env disabled).run s = (ds.mapM (orch.investigate rt env)).run u ∧
      u.completions = s.completions := by
  have hsame := (runDetections_touches (F := [Resource.searches]) env orch disabled).same
    (p := .completions) (by decide) s
  rw [hds] at hsame
  exact ⟨run_bind_ok hds, hsame⟩

/-- Whatever the detection agent returned, the pipeline returns one investigation for each
    detection, in order and with the fallback verdict where triage failed, exactly when every
    summary was completed and triage could use what its completions came to. -/
theorem pipeline_covers_iff {disabled : List String} {ds : List Detection} {u : Session}
    (hds : (orch.runDetections env disabled).run s = .ok ds u) :
    (∃ invs t, (orch.runFullPipeline rt env disabled).run s = .ok invs t ∧
      AllCovered rt env orch s.completions.length ds invs) ↔
      AllAnswered rt env orch s.completions.length ds := by
  obtain ⟨hpipeline, hkept⟩ := pipeline_run rt hds
  rw [hpipeline, ← hkept]
  exact mapM_investigate_iff rt env orch ds u

end

/-! ## A small run -/

/-- A model whose every completion is the same text, no JSON, answers all that is asked. -/
theorem allAnswered_of_text {rt : Runtime} {env : Env} {text : String}
    (hjson : rt.jsonLoads text = .error "JSONDecodeError")
    (hcomplete : ∀ model k sys user, env.complete model k sys user = .ok text)
    (orch : Orchestrator) (k : Nat) (ds : List Detection) : AllAnswered rt env orch k ds := by
  induction ds generalizing k with
  | nil => trivial
  | cons d ds ih =>
    refine ⟨⟨TriageAgent.fallback (enriched d), ?_, text, hcomplete ..⟩, ih (k + 2)⟩
    unfold triageAnswer
    rw [hcomplete, TriageAgent.conclude, hjson]
    rfl

def managedClients : Orchestrator := ⟨.managed, .managed⟩

/-- One rule finds enough; the model answers triage and fails to summarize. -/
def failingSummaries : Env :=
  { findingRun.env with
    complete := fun _ k _ _ => if k % 2 = 0 then .ok "verdict" else .error (.aiModel "unreachable") }

/-- How many detections a run of the small world returns. -/
def foundBy (env : Env) : Nat :=
  match (managedClients.runDetections env []).run (initech "pro").session with
  | .ok ds _ => ds.length
  | .error _ _ => 0

theorem exists_of_foundBy (env : Env) (h : foundBy env = 1) :
    ∃ d u, (managedClients.runDetections env []).run (initech "pro").session = .ok [d] u := by
  unfold foundBy at h
  cases hrun : (managedClients.runDetections env []).run (initech "pro").session with
  | error ex u =>
    rw [hrun] at h
    cases h
  | ok ds u =>
    rw [hrun] at h
    obtain ⟨d, rfl⟩ := List.length_eq_one_iff.mp h
    exact ⟨d, u, rfl⟩

/-- With summaries that return, the finding becomes an investigation. -/
theorem pipeline_covers_finding :
    ∃ d invs t, (managedClients.runFullPipeline .plain findingRun.env []).run
        (initech "pro").session = .ok invs t ∧
      AllCovered .plain findingRun.env managedClients 0 [d] invs := by
  obtain ⟨d, u, hds⟩ := exists_of_foundBy findingRun.env (by decide +kernel)
  exact ⟨d, (pipeline_covers_iff hds).mpr (allAnswered_of_text rfl (fun _ _ _ _ => rfl) _ 0 [d])⟩

/-- A summary the model fails to write loses the finding. -/
theorem summary_loses_finding :
    ¬ ∀ (rt : Runtime) (env : Env) (orch : Orchestrator) (disabled : List String)
      (s u : Session) (ds : List Detection),
      (∀ k sys user ex, env.complete orch.model k sys user = .error ex → ∃ m, ex = .aiModel m) →
      (orch.runDetections env disabled).run s = .ok ds u →
      ∃ invs t, (orch.runFullPipeline rt env disabled).run s = .ok invs t ∧
        AllCovered rt env orch s.completions.length ds invs := by
  intro h
  obtain ⟨d, u, hds⟩ := exists_of_foundBy failingSummaries (by decide +kernel)
  have hmodel : ∀ k sys user ex, failingSummaries.complete managedClients.model k sys user =
      .error ex → ∃ m, ex = .aiModel m := by
    intro k sys user ex hex
    by_cases hk : k % 2 = 0
    · simp [failingSummaries, hk] at hex
    · simp [failingSummaries, hk] at hex
      exact ⟨"unreachable", hex.symm⟩
  have hcovered := h .plain failingSummaries managedClients [] (initech "pro").session u [d]
    hmodel hds
  obtain ⟨hpipeline, hkept⟩ := pipeline_run .plain hds
  rw [hpipeline, ← hkept] at hcovered
  obtain ⟨⟨v, _, text, htext⟩, _⟩ := (mapM_investigate_iff .plain failingSummaries managedClients
    [d] u).mp hcovered
  rw [hkept] at htext
  cases htext

end Orchestrator

end SentinelAI
