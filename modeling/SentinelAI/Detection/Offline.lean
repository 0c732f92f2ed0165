import SentinelAI.Detection.DegradedModel
import SentinelAI.Detection.RuleRun
import SentinelAI.Splunk.MockClient

/-
  A deployment on the mock backends. Every enabled rule gets the events its query has
  keywords for, which are enough for a detection, and the mock model judges each detection by
  its prompt: a pipeline run returns one investigation for every enabled rule
  (`offline_pipeline`).
-/

namespace SentinelAI

open Lib

/-- The clients are the mock backends, whatever their clock says. -/
structure Offline (rt : Runtime) (env : Env) (orch : Orchestrator) : Prop where
  search : ∃ (repr : String → String) (w : WordClass) (seed : Int), ∀ k spl a b, ∃ base,
    env.search orch.splunk k spl a b = MockSplunkClient.search rt.sha256 repr w seed base spl
  complete : ∀ k system user,
    env.complete orch.model k system user = .ok (MockAIModel.complete system user)

/-- `json.loads` reads the mock model's verdicts back. -/
def ReadsVerdicts (rt : Runtime) : Prop :=
  ∀ tp severity, rt.jsonLoads (MockAIModel.verdictText tp severity) =
    .ok (.obj (MockAIModel.verdict tp severity))

/-! ## What the mock backends make of a rule -/

/-- The hosts of a query's events. -/
def mockHosts (spl : String) : List String :=
  (MockSplunkClient.generateEvents 0 spl).map SplunkEvent.host

/-- A rule's detection, its id and times apart. -/
def offlineDetection (rule : DetectionRule) : Detection where
  id := ""
  title := rule.title
  description := rule.description
  severity := rule.baseSeverity
  splQuery := rule.spl
  entity := (mockHosts rule.spl).head?.getD "unknown"
  eventCount := (mockHosts rule.spl).length
  createdAt := 0
  mitreTactics := rule.mitreTactics

/-- What the mock model is asked about it. -/
def offlinePrompt (rule : DetectionRule) : String := TriageAgent.prompt (offlineDetection rule)

/-- Whether the mock model takes it for a true positive, and how severe it finds it. -/
def offlineVerdict (rule : DetectionRule) : Bool × Severity :=
  (MockAIModel.suspicious (offlinePrompt rule), MockAIModel.severity (offlinePrompt rule))

theorem enough_hosts : ∀ rule ∈ defaultRules, rule.minEvents ≤ ((mockHosts rule.spl).length : Int) := by
  decide +kernel

theorem searchable {rule : DetectionRule} (h : rule ∈ defaultRules) (w : WordClass) :
    isBlank rule.spl = false ∧ validSpl w rule.spl = true := by
  have hhead : ∀ rule ∈ defaultRules, isBlank rule.spl = false ∧
      ((matchWord foldsTo "search".toList (lstrip rule.spl)).bind List.head?) = some ' ' := by
    decide +kernel
  obtain ⟨hblank, hspace⟩ := hhead rule h
  refine ⟨hblank, ?_⟩
  have hboundary : (matchWord foldsTo "search".toList (lstrip rule.spl)).any w.atBoundary = true := by
    cases hmatch : matchWord foldsTo "search".toList (lstrip rule.spl) with
    | none =>
      rw [hmatch] at hspace
      cases hspace
    | some cs =>
      rw [hmatch] at hspace
      obtain ⟨rest, rfl⟩ := List.head?_eq_some_iff.mp hspace
      show (!w.isWord ' ') = true
      rw [w.isWord_ascii ' ' (by decide)]
      decide
  unfold validSpl splHead
  rw [if_pos hboundary]
  rfl

/-! ## Detections -/

/-- The answer of the mock client to a rule's search. -/
structure MockAnswer (a : RuleAnswer) : Prop where
  attempts : a.attempts = 1
  hosts : a.result.events.map SplunkEvent.host = mockHosts a.rule.spl
  count : a.result.eventCount = (mockHosts a.rule.spl).length

/-- A detection of a rule on the mock backends. -/
structure MockDetection (rule : DetectionRule) (d : Detection) : Prop where
  title : d.title = rule.title
  description : d.description = rule.description
  splQuery : d.splQuery = rule.spl
  mitreTactics : d.mitreTactics = rule.mitreTactics
  entity : d.entity = (mockHosts rule.spl).head?.getD "unknown"
  eventCount : d.eventCount = (mockHosts rule.spl).length

variable {rt : Runtime} {env : Env} {orch : Orchestrator}

theorem Offline.answers (h : Offline rt env orch) {rules : List DetectionRule}
    (hrules : rules ⊆ defaultRules) (k : Nat) :
    ∃ as : List RuleAnswer, as.map RuleAnswer.rule = rules ∧ AnsweredFrom env orch.splunk k as ∧
      ∀ a ∈ as, MockAnswer a := by
  obtain ⟨repr, w, seed, hsearch⟩ := h.search
  induction rules generalizing k with
  | nil => exact ⟨[], rfl, trivial, by simp⟩
  | cons rule rules ih =>
    obtain ⟨hrule, hrest⟩ := List.cons_subset.mp hrules
    obtain ⟨as, has, hfrom, hmock⟩ := ih hrest (k + 1)
    obtain ⟨base, hbase⟩ := hsearch k rule.spl "-24h" "now"
    obtain ⟨hblank, hvalid⟩ := searchable hrule w
    have hok : env.search orch.splunk k rule.spl "-24h" "now" = .ok
        { sid := MockSplunkClient.makeSid rt.sha256 seed rule.spl
          query := rule.spl
          eventCount := (MockSplunkClient.generateEvents base rule.spl).length
          events := MockSplunkClient.generateEvents base rule.spl } := by
      rw [hbase, MockSplunkClient.search, if_neg (by simp [hblank]), if_neg (by simp [hvalid])]
    have hhosts := MockSplunkClient.generateEvents_hosts base 0 rule.spl
    refine ⟨⟨rule, _, 1⟩ :: as, congrArg (rule :: ·) has, ⟨⟨⟨le_refl 1, Nat.le_add_left 1 2⟩, ?_, hok⟩, hfrom⟩,
      List.forall_mem_cons.mpr ⟨⟨rfl, hhosts, ?_⟩, hmock⟩⟩
    · exact fun i hi => by simp at hi
    · show ((MockSplunkClient.generateEvents base rule.spl).length : Int) = _
      rw [mockHosts, ← hhosts, List.length_map]

theorem MockDetection.of_reports {a : RuleAnswer} {d : Detection} (h : ReportsAnswer a d)
    (ha : MockAnswer a) : MockDetection a.rule d where
  title := h.title
  description := h.description
  splQuery := h.splQuery
  mitreTactics := h.mitreTactics
  entity := by rw [h.entity, ← List.head?_map, ha.hosts]
  eventCount := h.eventCount.trans ha.count

theorem mockDetections {as : List RuleAnswer} {ds : List Detection}
    (h : List.Forall₂ ReportsAnswer as ds) (hmock : ∀ a ∈ as, MockAnswer a) :
    List.Forall₂ MockDetection (as.map RuleAnswer.rule) ds := by
  induction h with
  | nil => exact List.Forall₂.nil
  | cons hd _ ih =>
    obtain ⟨ha, hrest⟩ := List.forall_mem_cons.mp hmock
    exact List.Forall₂.cons (.of_reports hd ha) (ih hrest)

/-- A detection run on the mock backends: one search and one detection for every enabled rule. -/
theorem Offline.detects (h : Offline rt env orch) (disabled : List String) {s : Session}
    (hb : s.breaker.openedAt = none) :
    ∃ ds t, (orch.runDetections env disabled).run s = .ok ds t ∧
      t.searches = s.searches ++ (enabledRules disabled).map (fun rule => ⟨orch.splunk, rule.spl⟩) ∧
      List.Forall₂ MockDetection (enabledRules disabled) ds := by
  have hsub : enabledRules disabled ⊆ defaultRules := fun r hr => (mem_enabledRules.mp hr).1
  obtain ⟨as, has, hfrom, hmock⟩ := h.answers hsub s.searches.length
  obtain ⟨os, t, hrun, hdetected⟩ := DetectionAgent.mapM_runRule_answered defaultRules hb has hfrom
  have hhits : as.filter RuleAnswer.hit = as := by
    refine List.filter_eq_self.mpr fun a ha => ?_
    have hrule : a.rule ∈ enabledRules disabled := has ▸ List.mem_map_of_mem ha
    have henough := enough_hosts a.rule (hsub hrule)
    rw [← (hmock a ha).count] at henough
    simpa [RuleAnswer.hit] using henough
  have hcalls : as.flatMap (RuleAnswer.calls orch.splunk) =
      (enabledRules disabled).map fun rule => ⟨orch.splunk, rule.spl⟩ := by
    rw [← has, List.map_map, List.map_eq_flatMap]
    refine List.flatMap_congr fun a ha => ?_
    rw [RuleAnswer.calls, (hmock a ha).attempts]
    rfl
  refine ⟨os.filterMap id, t, run_bind_ok hrun, hcalls ▸ hdetected.searches, ?_⟩
  have hreports := hdetected.reports
  rw [hhits] at hreports
  rw [← has]
  exact mockDetections hreports hmock

/-! ## Investigations -/

/-- The investigation of a rule on the mock backends. -/
structure MockCase (rule : DetectionRule) (inv : Investigation) : Prop where
  title : inv.detection.title = rule.title
  entity : inv.detection.entity = (mockHosts rule.spl).head?.getD "unknown"
  severity : inv.detection.severity = (offlineVerdict rule).2
  status : inv.detection.status =
    if (offlineVerdict rule).1 then .investigating else .falsePositive
  verdict : ∃ v, inv.verdict = some v ∧ v.isTruePositive = (offlineVerdict rule).1

theorem coerceSeverity_value (rt : Runtime) (severity : Severity) :
    coerceSeverity rt (.str severity.value) = severity := by
  show (Severity.ofValue? (String.ofList (severity.value.toList.map Char.toLower))).getD .medium = severity
  cases severity <;> decide

theorem verdictOf_mock (rt : Runtime) (d : Detection) (tp : Bool) (severity : Severity) :
    ∃ v, TriageAgent.verdictOf rt d (MockAIModel.verdict tp severity) = .ok v ∧
      v.isTruePositive = tp ∧ v.recommendedSeverity = severity := by
  have hseverity : dictGet (MockAIModel.verdict tp severity) "recommended_severity" =
      some (.str severity.value) := by cases tp <;> rfl
  cases tp with
  | true =>
    refine ⟨_, rfl, rfl, ?_⟩
    dsimp only
    rw [hseverity]
    exact coerceSeverity_value rt severity
  | false =>
    refine ⟨_, rfl, rfl, ?_⟩
    dsimp only
    rw [hseverity]
    exact coerceSeverity_value rt severity

theorem complete_triage (user : String) : MockAIModel.complete TriageAgent.system user =
    MockAIModel.verdictText (MockAIModel.suspicious user) (MockAIModel.severity user) := by
  have hjson : mentions "return a json" TriageAgent.system = true := by
    unfold mentions TriageAgent.system
    simp only [String.toList_append]
    decide +kernel
  have hverdict : mentions "verdict" TriageAgent.system = true := by
    unfold mentions TriageAgent.system
    simp only [String.toList_append]
    decide +kernel
  unfold MockAIModel.complete
  rw [hjson, hverdict]
  rfl

/-- Triage never falls back on the mock model. -/
theorem conclude_mock (hread : ReadsVerdicts rt) (d : Detection) (user : String) :
    ∃ v, TriageAgent.conclude rt d (.ok (MockAIModel.complete TriageAgent.system user)) = .ok v ∧
      v.isTruePositive = MockAIModel.suspicious user ∧
        v.recommendedSeverity = MockAIModel.severity user := by
  rw [complete_triage]
  generalize MockAIModel.suspicious user = tp
  generalize MockAIModel.severity user = severity
  obtain ⟨v, hv, htp, hseverity⟩ := verdictOf_mock rt d tp severity
  refine ⟨v, ?_, htp, hseverity⟩
  rw [TriageAgent.conclude, hread]
  exact hv

theorem Offline.concludes (h : Offline rt env orch) (hread : ReadsVerdicts rt) {rule : DetectionRule}
    {d : Detection} (hd : MockDetection rule d) (k : Nat) :
    ∃ v, TriageAgent.conclude rt (Orchestrator.enriched d) (Orchestrator.triageAnswer env orch k d) =
      .ok v ∧ v.isTruePositive = (offlineVerdict rule).1 ∧
        v.recommendedSeverity = (offlineVerdict rule).2 := by
  have hprompt : TriageAgent.prompt (Orchestrator.enriched d) = offlinePrompt rule := by
    unfold offlinePrompt TriageAgent.prompt Orchestrator.enriched offlineDetection
    dsimp only
    rw [hd.title, hd.description, hd.splQuery, hd.mitreTactics, hd.entity, hd.eventCount]
  unfold Orchestrator.triageAnswer offlineVerdict
  dsimp only
  rw [h.complete, hprompt]
  exact conclude_mock hread (Orchestrator.enriched d) (offlinePrompt rule)

theorem Offline.investigates (h : Offline rt env orch) (hread : ReadsVerdicts rt) {rule : DetectionRule}
    {d : Detection} (hd : MockDetection rule d) (s : Session) :
    ∃ inv t, (orch.investigate rt env d).run s = .ok inv t ∧ MockCase rule inv := by
  obtain ⟨v, hv, htp, hseverity⟩ := h.concludes hread hd s.completions.length
  have htriage := TriageAgent.triage_run rt env orch.model (Orchestrator.enriched d) s
  unfold Orchestrator.triageAnswer at hv
  rw [hv] at htriage
  rw [Orchestrator.investigate_eq]
  obtain ⟨text, inv, t, _, hafter, hdetection, hverdict, _⟩ | ⟨ex, t, hsummary, _⟩ :=
    Orchestrator.afterTriage_cases rt env orch d v (TriageAgent.asked orch.model s)
  · refine ⟨inv, t, (run_bind_ok htriage).trans hafter, ?_⟩
    constructor
    · rw [hdetection]
      exact hd.title
    · rw [hdetection]
      exact hd.entity
    · rw [hdetection]
      exact hseverity
    · rw [hdetection, ← htp]
      rfl
    · exact ⟨v, hverdict, htp⟩
  · unfold Orchestrator.summaryAnswer at hsummary
    rw [h.complete] at hsummary
    cases hsummary

/-- A pipeline run on the mock backends. -/
theorem offline_pipeline (h : Offline rt env orch) (hread : ReadsVerdicts rt) (disabled : List String)
    {s : Session} (hb : s.breaker.openedAt = none) :
    ∃ invs t, (orch.runFullPipeline rt env disabled).run s = .ok invs t ∧
      t.searches = s.searches ++ (enabledRules disabled).map (fun rule => ⟨orch.splunk, rule.spl⟩) ∧
      List.Forall₂ MockCase (enabledRules disabled) invs := by
  obtain ⟨ds, u, hds, hsearches, hdetections⟩ := h.detects disabled hb
  have hall : ∀ {rules : List DetectionRule} {ds : List Detection}, List.Forall₂ MockDetection rules ds →
      ∀ s, ∃ invs t, (ds.mapM (orch.investigate rt env)).run s = .ok invs t ∧
        List.Forall₂ MockCase rules invs := by
    intro rules ds hforall
    induction hforall with
    | nil => exact fun s => ⟨[], s, rfl, List.Forall₂.nil⟩
    | cons hd _ ih =>
      intro s
      obtain ⟨inv, v, hinv, hcase⟩ := h.investigates hread hd s
      obtain ⟨invs, t, hinvs, hcases⟩ := ih v
      exact ⟨inv :: invs, t, mapM_cons_eq_ok.mpr ⟨inv, v, invs, hinv, hinvs, rfl⟩,
        List.Forall₂.cons hcase hcases⟩
  obtain ⟨invs, t, hinvs, hcases⟩ := hall hdetections u
  refine ⟨invs, t, (run_bind_ok hds).trans hinvs, ?_, hcases⟩
  rw [(Orchestrator.mapM_investigate_ok hinvs).2.2, hsearches]

end SentinelAI
