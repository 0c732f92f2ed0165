import SentinelAI.Detection.Offline
import SentinelAI.Records.RunFailures
import SentinelAI.Security.Refusals

/-
  Investigation runs of a deployment without Splunk: once it is let in, a run has one case of
  every enabled rule, and nothing but a drawn id that is taken keeps it from storing them
  (`offline_runs`). What it stores under the ids it drew are these cases themselves.
-/

namespace SentinelAI

open Lib

/-- A failure exposed to drawn ids alone, and no answer, is about one that is taken. -/
theorem Failure.idTaken_of {rt : Runtime} {env : Env} {db : Database} {drawn : Nat} {ex : Exc}
    (h : Failure rt env db [.idTaken .case, .idTaken .incident] drawn ex) (hex : ¬ Refusal ex) :
    ex = .integrity ∧ ∃ kind ∈ [IdKind.case, .incident], kind.Taken env db drawn := by
  cases h with
  | refused status detail => exact absurd trivial hex
  | idTaken kind hkind htaken =>
    refine ⟨rfl, kind, ?_, htaken⟩
    simp only [List.mem_cons, Cause.idTaken.injEq, List.not_mem_nil, or_false] at hkind ⊢
    exact hkind
  | _ => simp_all

/-- On the mock backends, with no webhook configured, an investigation run that the quota lets
    through asks Splunk once about every enabled rule and the model twice about each, and has
    one case for each, judged as the mock model judges the rule. It is answered, and these are
    what the tenant's cases have grown by, or an id drawn for one of them or for an incident is
    taken. -/
theorem offline_runs (rt : Runtime) (hread : ReadsVerdicts rt) (w : World) (e : Event) (p : Principal)
    (orch : Orchestrator) (hreach : RunReaches rt w e p orch) (hoffline : Offline rt e.env orch)
    (hchannels : ∀ c ∈ e.env.channels, c = .capture)
    (hallowed : SearchAllowed w.db p.tenantId (e.env.now 1)) :
    searchCalls rt w e =
        (enabledRules (disabledAt w.db p.tenantId)).map (fun rule => ⟨orch.splunk, rule.spl⟩) ∧
    modelCalls rt w e =
        List.replicate (2 * (enabledRules (disabledAt w.db p.tenantId)).length) orch.model ∧
    ∃ invs, List.Forall₂ MockCase (enabledRules (disabledAt w.db p.tenantId)) invs ∧
      ((∃ l t, handled rt w e = .ok (.investigations l) t ∧
          storedPayload (step rt w e).db p.tenantId = filed (storedPayload w.db p.tenantId) invs ∧
          ((invs.map Investigation.id).Nodup →
            ∀ inv ∈ invs, storedPayload (step rt w e).db p.tenantId inv.id = some inv)) ∨
        ∃ t, handled rt w e = .error .integrity t ∧
          ∃ kind ∈ [IdKind.case, .incident], kind.Taken e.env w.db t.uuids) := by
  obtain ⟨invs, u, hpipe, hsearches, hcases⟩ := offline_pipeline hoffline hread
    (disabledAt w.db p.tenantId) (s := w.session.ticked.ticked) rfl
  obtain ⟨hdb, hdrawn⟩ := runFullPipeline_casesDrawn hpipe
  have hrows : u.db = w.db := hdb
  have hcompletions : u.completions =
      List.replicate (2 * (enabledRules (disabledAt w.db p.tenantId)).length) orch.model := by
    obtain ⟨as, _, hran⟩ := Orchestrator.runFullPipeline_ok rfl hpipe
    rw [hran.completions, ← hran.count, ← hcases.length_eq]
    rfl
  have hhandled : handled rt w e = (Body.investigations <$>
      Routes.afterPipeline rt e.env p (wanted w.db p.tenantId) invs).run u := by
    rw [hreach.handled_run, if_pos hallowed, run_map, run_bind_ok hpipe, ← run_map]
  have htouches : Touches [Resource.usageEvents, .investigations, .auditLog, .incidents, .captured]
      (Body.investigations <$> Routes.afterPipeline rt e.env p (wanted w.db p.tenantId) invs) :=
    (Routes.afterPipeline_touches rt e.env p _ invs).bind fun _ => Touches.pure _
  have hsent : (stateOf (handled rt w e)).searches = u.searches := by
    rw [hhandled]
    exact htouches.same (p := .searches) (by decide) u
  have hasked : (stateOf (handled rt w e)).completions = u.completions := by
    rw [hhandled]
    exact htouches.same (p := .completions) (by decide) u
  refine ⟨?_, ?_, invs, hcases, ?_⟩
  · rw [searchCalls_eq, hsent, hsearches]
    rfl
  · rw [modelCalls_eq, hasked, hcompletions]
  · cases hafter : (Routes.afterPipeline rt e.env p (wanted w.db p.tenantId) invs).run u with
    | ok l t =>
      have hok : handled rt w e = .ok (.investigations l) t := by rw [hhandled, run_map, hafter]
      have hstep : (step rt w e).db = t.db := by rw [step_eq, hok]
      have hfiled := (afterPipeline_saved hafter).payloads
      rw [hrows, ← hstep] at hfiled
      refine Or.inl ⟨l, t, hok, hfiled, fun hnodup inv hinv => ?_⟩
      rw [hfiled]
      exact filed_of_mem hnodup hinv
    | error ex t =>
      have herror : handled rt w e = .error ex t := by rw [hhandled, run_map, hafter]
      have hcaptured : ∀ send, .webhook send ∈ e.env.channels →
          Cause.channel ∈ [Cause.idTaken .case, .idTaken .incident] := fun send hsend => by
        cases hchannels _ hsend
      have hfails : Failure rt e.env w.db [.idTaken .case, .idTaken .incident] t.uuids ex :=
        (afterPipeline_contract p _ (by decide) (by decide) hcaptured).raises ⟨hrows, hdrawn⟩ hafter
      have hquiet : QuietChannels e.env := fun send hsend => by cases hchannels _ hsend
      have hown := Routes.afterPipeline_avoids rt hquiet p _ invs u ex t hafter
      obtain ⟨rfl, htaken⟩ := hfails.idTaken_of hown
      exact Or.inr ⟨t, herror, htaken⟩

/-! ## A first run -/

/-- The verdicts the mock model can print. -/
def mockVerdicts : List (Bool × Severity) :=
  [true, false].flatMap fun tp => [.info, .low, .medium, .high, .critical].map fun severity => (tp, severity)

def readVerdict (text : String) : Option (Bool × Severity) :=
  mockVerdicts.find? fun v => MockAIModel.verdictText v.1 v.2 == text

/-- A runtime that reads these, and no other text. -/
def mockRuntime : Runtime :=
  { Runtime.plain with
    jsonLoads := fun text =>
      match readVerdict text with
      | some v => .ok (.obj (MockAIModel.verdict v.1 v.2))
      | none => .error "JSONDecodeError" }

theorem readsVerdicts_mock : ReadsVerdicts mockRuntime := by
  intro tp severity
  have hread : readVerdict (MockAIModel.verdictText tp severity) = some (tp, severity) := by
    cases tp <;> cases severity <;> decide +kernel
  show (match readVerdict (MockAIModel.verdictText tp severity) with
    | some v => Except.ok (JsonValue.obj (MockAIModel.verdict v.1 v.2))
    | none => .error "JSONDecodeError") = _
  rw [hread]

/-- The mock backends at the epoch, each uuid another. -/
def mockEnv : Env where
  now := fun _ => 0
  uuid4 := toString
  search := fun _ _ spl _ _ => MockSplunkClient.search id id .ascii 1337 0 spl
  complete := fun _ _ system user => .ok (MockAIModel.complete system user)

def mockRun : Event where
  env := mockEnv
  request := .runInvestigations (.bearer adminToken)

theorem offline_runs_initech :
    searchCalls mockRuntime (initech "pro") mockRun =
        defaultRules.map (fun rule => ⟨.managed, rule.spl⟩) ∧
      modelCalls mockRuntime (initech "pro") mockRun = List.replicate 10 .managed ∧
      ∃ invs, List.Forall₂ MockCase defaultRules invs ∧
        ((∃ l t, handled mockRuntime (initech "pro") mockRun = .ok (.investigations l) t ∧
            storedPayload (step mockRuntime (initech "pro") mockRun).db "t1" =
              filed (storedPayload (initech "pro").db "t1") invs ∧
            ((invs.map Investigation.id).Nodup → ∀ inv ∈ invs,
              storedPayload (step mockRuntime (initech "pro") mockRun).db "t1" inv.id = some inv)) ∨
          ∃ t, handled mockRuntime (initech "pro") mockRun = .error .integrity t ∧
            ∃ kind ∈ [IdKind.case, .incident], kind.Taken mockEnv (initech "pro").db t.uuids) := by
  have hadmitted : Admitted (initech "pro").db (initech "pro").issued 0 (.bearer adminToken)
      .investigationRun adminToken.principal :=
    ⟨adminToken, ⟨rfl, by decide, by decide, by decide, rfl, by decide⟩, rfl, by decide⟩
  have hreach : RunReaches mockRuntime (initech "pro") mockRun adminToken.principal ⟨.managed, .managed⟩ :=
    ⟨⟨_, rfl, hadmitted⟩, rfl, rfl⟩
  have hoffline : Offline mockRuntime mockEnv ⟨.managed, .managed⟩ :=
    ⟨⟨id, .ascii, 1337, fun _ _ _ _ => ⟨0, rfl⟩⟩, fun _ _ _ => rfl⟩
  have hcaptured : ∀ c ∈ mockRun.env.channels, c = .capture := fun c hc => List.mem_singleton.mp hc
  have hrules : enabledRules (disabledAt (initech "pro").db adminToken.principal.tenantId) =
      defaultRules := by decide
  have hruns := offline_runs mockRuntime readsVerdicts_mock (initech "pro")
    mockRun adminToken.principal ⟨.managed, .managed⟩ hreach hoffline hcaptured (by decide)
  rw [hrules] at hruns
  exact hruns

end SentinelAI
