import SentinelAI.Detection.RunRequest
import SentinelAI.Cases.Headers

/-
  The circuit breaker across requests. A detection agent owns its breaker and every request
  builds an agent of its own, so a request starts with a closed breaker and, while Splunk is
  down, sends the three attempts for its first enabled rule whatever happened before. The
  failures of two requests pass the threshold of five: Splunk is protected (`Protected`) exactly
  in the runs in which at most one request gets as far as its searches
  (`breaker_protects_iff`).
-/

namespace SentinelAI

open Lib

/-! ## A search that keeps failing -/

/-- Splunk answers no search, and with nothing that says the query is wrong. -/
def Outage (env : Env) : Prop :=
  ∀ client k spl earliest latest, ∃ ex, env.search client k spl earliest latest = .error ex ∧
    DetectionAgent.isQueryError ex = false

/-- A search that is retried through an outage takes all its attempts. -/
theorem Outage.settled {env : Env} (h : Outage env) (client : SplunkClient) (spl : String)
    (k left : Nat) : (∃ ex, (settled env client spl k left).1 = .error ex) ∧
      (SentinelAI.settled env client spl k left).2 = left + 1 := by
  induction left generalizing k with
  | zero =>
    obtain ⟨ex, hex, _⟩ := h client k spl "-24h" "now"
    exact ⟨⟨ex, hex⟩, rfl⟩
  | succ left ih =>
    obtain ⟨ex, hex, hretried⟩ := h client k spl "-24h" "now"
    obtain ⟨hrest, hattempts⟩ := ih (k + 1)
    rw [SentinelAI.settled, hex]
    dsimp only
    rw [if_neg (by simp [hretried])]
    exact ⟨hrest, by rw [hattempts]⟩

namespace DetectionAgent

variable {env : Env} (client : SplunkClient) (disabled : List String)

/-- Through an outage the first rule that is not disabled ends the run, after three attempts. -/
theorem mapM_runRule_outage (hout : Outage env) {rules : List DetectionRule} {s : Session}
    (hb : s.breaker.openedAt = none)
    (hrules : rules.filter (fun r => !disabled.contains r.ruleId) ≠ []) :
    ∃ ex t, (rules.mapM (runRule env client disabled)).run s = .error ex t ∧
      t.searches.length = s.searches.length + 3 := by
  induction rules with
  | nil => exact absurd rfl hrules
  | cons rule rules ih =>
    by_cases hd : rule.ruleId ∈ disabled
    · rw [List.filter_cons_of_neg (by simpa using hd)] at hrules
      obtain ⟨ex, t, hrun, hsent⟩ := ih hrules
      refine ⟨ex, t, ?_, hsent⟩
      rw [List.mapM_cons, run_bind_ok (runRule_skip env client disabled rule hd s)]
      exact run_bind_error hrun
    · obtain ⟨⟨ex', hsettled⟩, hattempts⟩ := hout.settled client rule.spl s.searches.length 2
      obtain ⟨result, o, u, hset, _⟩ | ⟨ex, t, _, hrule, hasked⟩ :=
        runRule_run env client disabled rule hb hd
      · cases hsettled.symm.trans hset
      · refine ⟨ex, t, ?_, ?_⟩
        · rw [List.mapM_cons]
          exact run_bind_error hrule
        · rw [hasked.searches, hattempts, List.length_append, List.length_replicate]

theorem run_outage (hout : Outage env) {s : Session} (hb : s.breaker.openedAt = none)
    (hrules : enabledRules disabled ≠ []) :
    ∃ ex t, (run env client disabled).run s = .error ex t ∧
      t.searches.length = s.searches.length + 3 := by
  obtain ⟨ex, t, hrun, hsent⟩ := mapM_runRule_outage client disabled hout hb hrules
  exact ⟨ex, t, run_bind_error hrun, hsent⟩

end DetectionAgent

/-! ## Requests during an outage -/

/-- A detection or investigation run of a tenant. -/
def RunsFor (tenantId : String) (e : Event) : Prop :=
  ∃ auth, (e.request = .runDetections auth ∨ e.request = .runInvestigations auth) ∧
    ∀ token, auth = .bearer token → token.tenantId = tenantId

/-- The request gets as far as its searches: admitted, its clients built, let through by the
    quota if it is an investigation run, and with a rule to search for. -/
def GetsToSearch (rt : Runtime) (w : World) (e : Event) : Prop :=
  (∃ auth p orch, e.request = .runDetections auth ∧
    Admitted w.db w.issued (e.env.now 0) auth .detectionRun p ∧ Resolves rt w.db p.tenantId orch) ∨
  ∃ p orch, RunReaches rt w e p orch ∧ SearchAllowed w.db p.tenantId (e.env.now 1) ∧
    enabledRules (disabledAt w.db p.tenantId) ≠ []

section

variable {rt : Runtime} {w : World} {e : Event}

theorem detections_outage {auth : Authorization} (he : e.request = .runDetections auth)
    (hout : Outage e.env) :
    (GetsToSearch rt w e ∧ (searchCalls rt w e).length = 3) ∨
      (¬ GetsToSearch rt w e ∧ searchCalls rt w e = []) := by
  have hhandled : handled rt w e =
      (Body.detections <$> Routes.runDetections rt e.env auth).run w.session :=
    handled_map he rfl
  obtain ⟨p, orch, hadm, hres, hrun⟩ | ⟨hnone, ex, t, hrun, houtside⟩ := resolved_cases rt e.env auth
    .detectionRun (fun _ orch => orch.runDetections e.env []) w.session
  · obtain ⟨ex, t, hdetect, hsent⟩ := DetectionAgent.run_outage orch.splunk [] hout
      (show w.session.ticked.breaker.openedAt = none from rfl) (by decide)
    have hbody : (Routes.runDetections rt e.env auth).run w.session = .error ex t :=
      hrun.trans hdetect
    refine Or.inl ⟨Or.inl ⟨auth, p, orch, he, hadm, hres⟩, ?_⟩
    rw [searchCalls_eq, hhandled, run_map, hbody]
    exact hsent
  · refine Or.inr ⟨?_, ?_⟩
    · rintro (⟨auth', p, orch, he', hadm, hres⟩ | ⟨p, orch, hreach, _⟩)
      · cases he.symm.trans he'
        exact hnone p orch hadm hres
      · obtain ⟨auth', he', _⟩ := hreach.admitted
        cases he.symm.trans he'
    · have hbody : (Routes.runDetections rt e.env auth).run w.session = .error ex t := hrun
      rw [searchCalls_eq, hhandled, run_map, hbody]
      exact houtside .searches List.not_mem_nil

/-- Past the quota, an investigation run during an outage. -/
theorem pipeline_outage {p : Principal} {orch : Orchestrator} (h : RunReaches rt w e p orch)
    (hout : Outage e.env) (hallowed : SearchAllowed w.db p.tenantId (e.env.now 1)) :
    (searchCalls rt w e).length =
      if enabledRules (disabledAt w.db p.tenantId) = [] then 0 else 3 := by
  by_cases hrules : enabledRules (disabledAt w.db p.tenantId) = []
  · have hnone : answers e.env orch.splunk 0 (enabledRules (disabledAt w.db p.tenantId)) = some [] := by
      rw [hrules]
      rfl
    rw [if_pos hrules, h.searchCalls hallowed hnone]
    rfl
  · obtain ⟨ex, t, hdetect, hsent⟩ := DetectionAgent.run_outage orch.splunk
      (disabledAt w.db p.tenantId) hout
      (show w.session.ticked.ticked.breaker.openedAt = none from rfl) hrules
    have hpipe : (orch.runFullPipeline rt e.env (disabledAt w.db p.tenantId)).run
        w.session.ticked.ticked = .error ex t := run_bind_error hdetect
    have hrun : handled rt w e = .error ex t := by
      rw [h.handled_run, if_pos hallowed]
      exact run_bind_error (run_bind_error hpipe)
    rw [if_neg hrules, searchCalls_eq, hrun]
    exact hsent

theorem investigations_outage {auth : Authorization} (he : e.request = .runInvestigations auth)
    (hout : Outage e.env) :
    (GetsToSearch rt w e ∧ (searchCalls rt w e).length = 3) ∨
      (¬ GetsToSearch rt w e ∧ searchCalls rt w e = []) := by
  have hother : ¬ ∃ auth p orch, e.request = .runDetections auth ∧
      Admitted w.db w.issued (e.env.now 0) auth .detectionRun p ∧
      Resolves rt w.db p.tenantId orch := by
    rintro ⟨_, _, _, he', _⟩
    cases he.symm.trans he'
  obtain ⟨p, orch, hreach, _⟩ | ⟨hnone, ex, t, herr, houtside⟩ := run_cases rt he (w := w)
  · have hgets : GetsToSearch rt w e ↔ SearchAllowed w.db p.tenantId (e.env.now 1) ∧
        enabledRules (disabledAt w.db p.tenantId) ≠ [] := by
      constructor
      · rintro (h | ⟨p', orch', hreach', hboth⟩)
        · exact absurd h hother
        · obtain ⟨auth₁, he₁, hadm₁⟩ := hreach.admitted
          obtain ⟨auth₂, he₂, hadm₂⟩ := hreach'.admitted
          cases he₁.symm.trans he₂
          obtain rfl := hadm₁.unique hadm₂
          exact hboth
      · exact fun hboth => Or.inr ⟨p, orch, hreach, hboth⟩
    by_cases hallowed : SearchAllowed w.db p.tenantId (e.env.now 1)
    · have hsent := pipeline_outage hreach hout hallowed
      by_cases hrules : enabledRules (disabledAt w.db p.tenantId) = []
      · rw [if_pos hrules] at hsent
        exact Or.inr ⟨fun h => (hgets.mp h).2 hrules, List.length_eq_zero_iff.mp hsent⟩
      · rw [if_neg hrules] at hsent
        exact Or.inl ⟨hgets.mpr ⟨hallowed, hrules⟩, hsent⟩
    · refine Or.inr ⟨fun h => hallowed (hgets.mp h).1, ?_⟩
      rw [searchCalls_eq, hreach.handled_run, if_neg hallowed]
      rfl
  · refine Or.inr ⟨?_, ?_⟩
    · rintro (h | ⟨p, orch, hreach, _⟩)
      · exact hother h
      · exact hnone p orch hreach
    · rw [searchCalls_eq, herr]
      exact houtside .searches List.not_mem_nil

variable (rt w) in
/-- During an outage a request sends three searches if it gets to them, and none otherwise. -/
theorem sent_outage {tenantId : String} (he : RunsFor tenantId e) (hout : Outage e.env) :
    (GetsToSearch rt w e ∧ (searchCalls rt w e).length = 3) ∨
      (¬ GetsToSearch rt w e ∧ searchCalls rt w e = []) := by
  obtain ⟨auth, hdetections | hinvestigations, _⟩ := he
  · exact detections_outage hdetections hout
  · exact investigations_outage hinvestigations hout

end

/-! ## What the breaker promises -/

/-- The breaker every agent is built with. -/
def newBreaker : CircuitBreaker := {}

/-- The searches sent in a run; through an outage each is a failure, with no success between
    them. -/
def failedSearches (rt : Runtime) (w : World) (es : List Event) : Nat :=
  tally (step rt) (fun w e => (searchCalls rt w e).length) w es

/-- When the last request of a run that sent a search came. -/
def lastFailureAt (rt : Runtime) : World → List Event → Option Time
  | _, [] => none
  | w, e :: es => (lastFailureAt rt (step rt w e) es).or
      (if (searchCalls rt w e).isEmpty then none else some (e.env.now 0))

/-- `reset_after_seconds` have passed since the last failure. -/
def ResetPassed (rt : Runtime) (w : World) (before : List Event) (e : Event) : Prop :=
  ∀ t, lastFailureAt rt w before = some t →
    newBreaker.resetAfterSeconds.seconds * 1000000 ≤ ((e.env.now 0 - t : Int) : ℚ)

/-- The next request after a run of failures leaves Splunk alone once there are as many as the
    threshold: it sends no more than are missing; none, being answered with `CircuitOpenError`,
    until the reset; and after it one trial. The attempts of one request are only a backoff
    apart, so the reset never falls between them. -/
structure Protected (rt : Runtime) (w : World) (before : List Event) (e : Event) : Prop where
  closed : failedSearches rt w before < newBreaker.failureThreshold →
    failedSearches rt w before + (searchCalls rt (run rt w before) e).length ≤
      newBreaker.failureThreshold
  opened : newBreaker.failureThreshold ≤ failedSearches rt w before →
    ¬ ResetPassed rt w before e → searchCalls rt (run rt w before) e = [] ∧
      (GetsToSearch rt (run rt w before) e →
        ∃ t, handled rt (run rt w before) e = .error .circuitOpen t)
  trial : newBreaker.failureThreshold ≤ failedSearches rt w before → ResetPassed rt w before e →
    (searchCalls rt (run rt w before) e).length ≤ 1

/-- At most one request of a run gets to its searches. -/
def AtMostOneSearches (rt : Runtime) (w : World) (es : List Event) : Prop :=
  ∀ before e between e' after, es = before ++ e :: (between ++ e' :: after) →
    ¬ (GetsToSearch rt (run rt w before) e ∧
      GetsToSearch rt (run rt w (before ++ e :: between)) e')

section

variable {rt : Runtime} {w : World} {es : List Event} {tenantId : String}

/-- A request that gets to its searches after another one is not held back. -/
theorem not_protected {before between : List Event} {e e' : Event}
    (hfirst : (searchCalls rt (run rt w before) e).length = 3)
    (hsecond : (searchCalls rt (run rt w (before ++ e :: between)) e').length = 3) :
    ¬ Protected rt w (before ++ e :: between) e' := by
  intro h
  have hfailed : 3 ≤ failedSearches rt w (before ++ e :: between) := by
    unfold failedSearches
    rw [tally_append]
    show 3 ≤ _ + ((searchCalls rt (run rt w before) e).length + _)
    omega
  have hthreshold : newBreaker.failureThreshold = 5 := rfl
  by_cases hlt : failedSearches rt w (before ++ e :: between) < newBreaker.failureThreshold
  · have hclosed := h.closed hlt
    omega
  · have hle : newBreaker.failureThreshold ≤ failedSearches rt w (before ++ e :: between) := by
      omega
    by_cases hreset : ResetPassed rt w (before ++ e :: between) e'
    · have htrial := h.trial hle hreset
      omega
    · have hnone := (h.opened hle hreset).1
      rw [hnone] at hsecond
      cases hsecond

/-- Before a request that searches, nothing has failed, if at most one request searches. -/
theorem no_failures (hreq : ∀ e ∈ es, RunsFor tenantId e) (hout : ∀ e ∈ es, Outage e.env)
    (hone : AtMostOneSearches rt w es) {before after : List Event} {e : Event}
    (he : es = before ++ e :: after) (hgets : GetsToSearch rt (run rt w before) e) :
    failedSearches rt w before = 0 := by
  by_contra hne
  obtain ⟨first, e₀, between, rfl, hsent⟩ := exists_of_tally_pos (Nat.pos_of_ne_zero hne)
  have hmem : e₀ ∈ es := by
    rw [he]
    simp
  have hsplit : es = first ++ e₀ :: (between ++ e :: after) := by
    rw [he, List.append_assoc]
    rfl
  have hcalls : 0 < (searchCalls rt (run rt w first) e₀).length := hsent
  obtain ⟨hgets₀, _⟩ | ⟨_, hnone⟩ := sent_outage rt (run rt w first) (hreq e₀ hmem)
    (hout e₀ hmem)
  · exact hone first e₀ between e after hsplit ⟨hgets₀, hgets⟩
  · rw [hnone] at hcalls
    exact absurd hcalls (Nat.lt_irrefl 0)

/-- In every run of detection and investigation requests of a tenant during an outage of its
    Splunk: no search is sent once the threshold of failures is reached, until the reset, exactly
    when at most one request of the run gets to its searches. -/
theorem breaker_protects_iff (hreq : ∀ e ∈ es, RunsFor tenantId e)
    (hout : ∀ e ∈ es, Outage e.env) :
    (∀ before e after, es = before ++ e :: after → Protected rt w before e) ↔
      AtMostOneSearches rt w es := by
  have hcases {before after : List Event} {e : Event} (he : es = before ++ e :: after) :=
    sent_outage rt (run rt w before) (hreq e (by rw [he]; simp))
      (hout e (by rw [he]; simp))
  constructor
  · rintro h before e between e' after he ⟨hfirst, hsecond⟩
    have he' : es = (before ++ e :: between) ++ e' :: after := by
      rw [he, List.append_assoc]
      rfl
    have hprotected := h (before ++ e :: between) e' after he'
    obtain ⟨_, hsent⟩ | ⟨hno, _⟩ := hcases he
    · obtain ⟨_, hsent'⟩ | ⟨hno, _⟩ := hcases he'
      · exact not_protected hsent hsent' hprotected
      · exact hno hsecond
    · exact hno hfirst
  · intro hone before e after he
    obtain ⟨hgets, hsent⟩ | ⟨hno, hnone⟩ := hcases he
    · have hzero := no_failures hreq hout hone he hgets
      have hthreshold : newBreaker.failureThreshold = 5 := rfl
      constructor <;> intro hle <;> omega
    · constructor
      · intro hlt
        rw [hnone]
        exact Nat.le_of_lt hlt
      · exact fun _ _ => ⟨hnone, fun h => absurd h hno⟩
      · intro _ _
        rw [hnone]
        exact Nat.zero_le 1

end

/-- A detection run while Splunk cannot be reached. -/
def downRun : Event := adminRequest (.runDetections (.bearer adminToken))

theorem downRun_runs : RunsFor "t1" downRun :=
  ⟨.bearer adminToken, Or.inl rfl, fun token h => by cases h; rfl⟩

theorem downRun_outage : Outage downRun.env := fun _ _ _ _ _ => ⟨_, rfl, rfl⟩

/-- Another, two hours later: the token has expired. -/
def lateRun : Event where
  env := { now := fun _ => 2 * 3600 * 1000000, uuid4 := fun _ => "" }
  request := .runDetections (.bearer adminToken)

theorem lateRun_refused (w : World) : ¬ GetsToSearch .plain w lateRun := by
  rintro (⟨auth, p, orch, he, hadmitted, _⟩ | ⟨p, orch, hreach, _⟩)
  · cases he
    obtain ⟨token, hid, _⟩ := hadmitted
    have hunexpired := hid.unexpired
    cases hid.bearer
    exact absurd hunexpired (by decide +kernel)
  · obtain ⟨auth, he, _⟩ := hreach.admitted
    cases he

/-- A request that searches and one that is refused do not reach the threshold. -/
theorem breaker_protects_once : Protected .plain (initech "pro") [] downRun ∧
    Protected .plain (initech "pro") [downRun] lateRun := by
  have hreq : ∀ e ∈ [downRun, lateRun], RunsFor "t1" e := by
    simp only [List.mem_cons, List.not_mem_nil, or_false, forall_eq_or_imp, forall_eq]
    exact ⟨downRun_runs, .bearer adminToken, Or.inl rfl, fun token h => by cases h; rfl⟩
  have hout : ∀ e ∈ [downRun, lateRun], Outage e.env := by
    simp only [List.mem_cons, List.not_mem_nil, or_false, forall_eq_or_imp, forall_eq]
    exact ⟨downRun_outage, fun _ _ _ _ _ => ⟨_, rfl, rfl⟩⟩
  -- the later of two requests is the refused one
  have hone : AtMostOneSearches .plain (initech "pro") [downRun, lateRun] := by
    intro before e between e' after he ⟨_, hsecond⟩
    obtain rfl : e' = lateRun := by
      match before, between with
      | [], [] =>
        cases he
        rfl
      | [], _ :: _ => simp at he
      | _ :: _, _ =>
        have hlength := congrArg List.length he
        simp at hlength
        omega
    exact lateRun_refused _ hsecond
  have hprotected := (breaker_protects_iff hreq hout).mpr hone
  exact ⟨hprotected [] downRun [lateRun] rfl, hprotected [downRun] lateRun [] rfl⟩

/-- The second request sends a sixth search right after the fifth failure. -/
theorem breaker_never_opens :
    ¬ ∀ (rt : Runtime) (w : World) (es : List Event) (tenantId : String),
      (∀ e ∈ es, RunsFor tenantId e) → (∀ e ∈ es, Outage e.env) →
      ∀ before e after, es = before ++ e :: after → Protected rt w before e := by
  intro h
  have hall {P : Event → Prop} (hdown : P downRun) : ∀ e ∈ [downRun, downRun], P e := by
    intro e he
    simp only [List.mem_cons, List.not_mem_nil, or_false, or_self] at he
    rw [he]
    exact hdown
  have hprotected := h .plain (initech "pro") [downRun, downRun] "t1" (hall downRun_runs)
    (hall downRun_outage) [downRun] downRun [] rfl
  have hfirst : (searchCalls .plain (run .plain (initech "pro") []) downRun).length = 3 := by
    decide +kernel
  have hsecond : (searchCalls .plain (run .plain (initech "pro") ([] ++ downRun :: []))
      downRun).length = 3 := by
    decide +kernel
  exact not_protected hfirst hsecond hprotected

end SentinelAI
