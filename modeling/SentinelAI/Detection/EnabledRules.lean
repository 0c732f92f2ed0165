import SentinelAI.Detection.RuleStates
import SentinelAI.Detection.Routing

/-
  One notion of an enabled rule. After any history of toggles, the listing, the coverage, and
  the investigation run with its quota check and its metering all speak of the rules whose
  last toggle was not "disabled". The detection run passes no list of disabled rules to its
  agent, and speaks of the same rules only where the tenant has disabled none.
-/

namespace SentinelAI

open Lib

/-! ## The five readings -/

/-- The default rules a request searches for. -/
def searchedRules (rt : Runtime) (w : World) (e : Event) : List DetectionRule :=
  defaultRules.filter fun r => (searchCalls rt w e).any fun c => c.spl == r.spl

/-- The request is answered with this body. -/
def AnsweredWith (rt : Runtime) (w : World) (e : Event) (body : Body) : Prop :=
  ∃ t, respond rt w e = .ok body t

/-- The request is refused with status 429. -/
def Refused429 (rt : Runtime) (w : World) (e : Event) : Prop :=
  ∃ detail t, respond rt w e = .error (.http 429 detail) t

/-- `n` more searches fit into the tenant's month. -/
def FitsQuota (db : Database) (tenantId : String) (now : Time) (n : Nat) : Prop :=
  QuotaService.limitOf (planAt db tenantId) kindSearch = unlimited ∨
    monthToDate db tenantId kindSearch now + n ≤ QuotaService.limitOf (planAt db tenantId) kindSearch

/-- Whatever the request, what it makes of the caller's rules is what `active` has for the
    caller's tenant. -/
structure Describes (rt : Runtime) (w : World) (e : Event)
    (active : String → List DetectionRule) : Prop where
  detections : ∀ auth p, e.request = .runDetections auth →
    Admitted w.db w.issued (e.env.now 0) auth .detectionRun p → succeeds rt w e = true →
    searchedRules rt w e = active p.tenantId
  investigations : ∀ auth p, e.request = .runInvestigations auth →
    Admitted w.db w.issued (e.env.now 0) auth .investigationRun p → succeeds rt w e = true →
    searchedRules rt w e = active p.tenantId
  quota : ∀ p orch, RunReaches rt w e p orch →
    (¬ FitsQuota w.db p.tenantId (e.env.now 1) (active p.tenantId).length → Refused429 rt w e) ∧
    (succeeds rt w e = true → FitsQuota w.db p.tenantId (e.env.now 1) (active p.tenantId).length)
  metering : ∀ auth p, e.request = .runInvestigations auth →
    Admitted w.db w.issued (e.env.now 0) auth .investigationRun p → succeeds rt w e = true →
    ∃ found searched triaged, (step rt w e).db.usageEvents = (w.db.addUsage
      (Routes.runEvents rt p.tenantId (active p.tenantId).length found searched triaged)).usageEvents
  listing : ∀ auth p rules, e.request = .read auth .rules →
    Admitted w.db w.issued (e.env.now 0) auth .investigationRead p →
    AnsweredWith rt w e (.rules rules) →
    rules.map Routes.RuleResponse.rule = defaultRules ∧
      (rules.filter Routes.RuleResponse.enabled).map Routes.RuleResponse.rule = active p.tenantId
  coverage : ∀ auth p m, e.request = .read auth .mitreCoverage →
    Admitted w.db w.issued (e.env.now 0) auth .investigationRead p →
    AnsweredWith rt w e (.mitreCoverage m) →
    m.enabledRules = (active p.tenantId).length ∧
      m.coverage = Routes.coverageOf (active p.tenantId)

/-- No detection run is admitted for a tenant that has disabled a default rule. Enough for the
    agreement but more than it takes: a run that is not answered has nothing to agree with. -/
def DetectsWithAll (w : World) (e : Event) : Prop :=
  ∀ auth p, e.request = .runDetections auth →
    Admitted w.db w.issued (e.env.now 0) auth .detectionRun p →
    ∀ r ∈ defaultRules, r.ruleId ∉ disabledAt w.db p.tenantId

/-! ## Reading by reading -/

section

variable {rt : Runtime} {w : World} {e : Event} {auth : Authorization} {p : Principal}

theorem answeredWith_iff {body : Body} :
    AnsweredWith rt w e body ↔ ∃ t, handled rt w e = .ok body t := by
  unfold AnsweredWith respond handled
  rw [EStateM.run_bind]
  cases (handle rt e.env e.request).run (.start w.db w.captured w.issued) with
  | error ex t => exact iff_of_false (fun ⟨_, h⟩ => by cases h) fun ⟨_, h⟩ => by cases h
  | ok body' t =>
    constructor
    · rintro ⟨_, h⟩
      cases h
      exact ⟨t, rfl⟩
    · rintro ⟨_, h⟩
      cases h
      exact ⟨_, rfl⟩

theorem refused429_of_handled {detail : ErrorDetail} {t : Session}
    (h : handled rt w e = .error (.http 429 detail) t) : Refused429 rt w e := by
  refine ⟨detail, t, ?_⟩
  unfold respond
  rw [EStateM.run_bind]
  unfold handled at h
  rw [h]

/-- Searches that settled one after another searched for their rules. -/
theorem searchedRules_of_answers {client : SplunkClient} {as : List RuleAnswer} {env : Env} {k : Nat}
    {disabled : List String} (has : answers env client k (enabledRules disabled) = some as)
    (hcalls : searchCalls rt w e = as.flatMap (RuleAnswer.calls client)) :
    searchedRules rt w e = enabledRules disabled := by
  obtain ⟨hrules, hattempts⟩ := answers_rules has
  refine List.filter_congr fun r hr => ?_
  rw [Bool.eq_iff_iff, hcalls, List.any_eq_true]
  constructor
  · rintro ⟨c, hc, hspl⟩
    obtain ⟨a, ha, hca⟩ := List.mem_flatMap.mp hc
    have hrule : a.rule ∈ enabledRules disabled := by
      rw [← hrules]
      exact List.mem_map_of_mem ha
    have hsame : a.rule = r := by
      apply eq_of_spl_eq a.rule (mem_enabledRules.mp hrule).1 r hr
      rw [List.eq_of_mem_replicate hca] at hspl
      exact beq_iff_eq.mp hspl
    rw [hsame] at hrule
    simpa using (mem_enabledRules.mp hrule).2
  · intro henabled
    have hrule : r ∈ as.map RuleAnswer.rule := by
      rw [hrules]
      exact mem_enabledRules.mpr ⟨hr, by simpa using henabled⟩
    obtain ⟨a, ha, rfl⟩ := List.mem_map.mp hrule
    refine ⟨⟨client, a.rule.spl⟩, List.mem_flatMap.mpr ⟨a, ha, ?_⟩, beq_self_eq_true _⟩
    exact List.mem_replicate.mpr ⟨by have := (hattempts a ha).1; omega, rfl⟩

/-- An answered detection run has searched for every default rule. -/
theorem runDetections_searched (he : e.request = .runDetections auth)
    (hs : succeeds rt w e = true) : searchedRules rt w e = defaultRules := by
  obtain ⟨body, t', hok⟩ := (succeeds_iff rt w e).mp hs
  obtain ⟨p, orch, _, _, hrun⟩ | ⟨ex, t, hrun, _⟩ := detections_cases rt he
  · have hcalls : searchCalls rt w e =
        (stateOf ((orch.runDetections e.env []).run w.session.ticked)).searches := by
      rw [searchCalls_eq, hrun, stateOf_map]
    rw [hrun, run_map] at hok
    obtain ⟨as, ds, t, has, hdet, hfound⟩ | ⟨_, ex, t, hdet⟩ :=
      DetectionAgent.run_run e.env orch.splunk [] (s := w.session.ticked) rfl
    · rw [show (orch.runDetections e.env []).run w.session.ticked = _ from hdet] at hcalls
      exact searchedRules_of_answers has (hcalls.trans hfound.searches)
    · rw [show (orch.runDetections e.env []).run w.session.ticked = _ from hdet] at hok
      cases hok
  · cases hok.symm.trans hrun

/-- An answered listing shows every default rule, enabled unless the tenant disabled it. -/
theorem listRules_answer {rules : List Routes.RuleResponse} (he : e.request = .read auth .rules)
    (hp : Admitted w.db w.issued (e.env.now 0) auth .investigationRead p)
    (h : AnsweredWith rt w e (.rules rules)) :
    rules = defaultRules.map fun r => ⟨r, !(disabledAt w.db p.tenantId).contains r.ruleId⟩ := by
  obtain ⟨t, hok⟩ := answeredWith_iff.mp h
  obtain ⟨rs, hlist, hret⟩ := (handled_eq_ok he rfl).mp hok
  cases hret
  unfold Routes.listRules at hlist
  rw [run_bind_ok ((require_eq_ok (s := w.session) (t := w.session.ticked)).mpr ⟨hp, rfl⟩)] at hlist
  cases hlist
  rfl

theorem mitreCoverage_answer {m : Routes.MitreCoverage} (he : e.request = .read auth .mitreCoverage)
    (hp : Admitted w.db w.issued (e.env.now 0) auth .investigationRead p)
    (h : AnsweredWith rt w e (.mitreCoverage m)) :
    m = ⟨Routes.coverageOf (enabledRules (disabledAt w.db p.tenantId)), defaultRules.length,
      (enabledRules (disabledAt w.db p.tenantId)).length⟩ := by
  obtain ⟨t, hok⟩ := answeredWith_iff.mp h
  obtain ⟨m', hcover, hret⟩ := (handled_eq_ok he rfl).mp hok
  cases hret
  unfold Routes.mitreCoverage at hcover
  rw [run_bind_ok ((require_eq_ok (s := w.session) (t := w.session.ticked)).mpr ⟨hp, rfl⟩)] at hcover
  cases hcover
  rfl

/-- Where the rule states have the rules of `active`, so has every reading; the detection run
    needs that there is nothing disabled to leave out. -/
theorem describes_of_enabled {active : String → List DetectionRule}
    (h : ∀ tenantId, enabledRules (disabledAt w.db tenantId) = active tenantId)
    (hdetect : DetectsWithAll w e) : Describes rt w e active := by
  constructor
  · intro auth p he hp hs
    rw [runDetections_searched he hs, ← h]
    exact (List.filter_eq_self.mpr fun r hr => by simpa using hdetect auth p he hp r hr).symm
  · intro auth p he hp hs
    obtain ⟨orch, as, invs, l, u, t, hreach, hallowed, hdone⟩ := completes_of_admitted he hp hs
    have hcalls := hreach.searchCalls hallowed hdone.answered
    rw [searchedRules_of_answers hdone.answered hcalls, h]
  · intro p orch hreach
    have hfits : FitsQuota w.db p.tenantId (e.env.now 1) (active p.tenantId).length ↔
        SearchAllowed w.db p.tenantId (e.env.now 1) := by
      rw [FitsQuota, SearchAllowed, wanted, h]
    rw [hfits]
    obtain ⟨hrefused, herr⟩ | ⟨hallowed, _⟩ := hreach.outcome
    · refine ⟨fun _ => refused429_of_handled herr, fun hs => ?_⟩
      obtain ⟨body, t, hok⟩ := (succeeds_iff rt w e).mp hs
      cases herr.symm.trans hok
    · exact ⟨fun hnot => absurd hallowed hnot, fun _ => hallowed⟩
  · intro auth p he hp hs
    obtain ⟨orch, as, invs, l, u, t, _, _, hdone⟩ := completes_of_admitted he hp hs
    obtain ⟨i, j, husage⟩ := hdone.usage
    refine ⟨invs.length, e.env.now i, e.env.now j, ?_⟩
    rw [husage, wanted, h]
  · intro auth p rules he hp hanswer
    rw [listRules_answer he hp hanswer, ← h]
    constructor
    · rw [List.map_map]
      exact List.map_id _
    · rw [List.filter_map, List.map_map]
      exact List.map_id _
  · intro auth p m he hp hanswer
    rw [mitreCoverage_answer he hp hanswer, h]
    exact ⟨rfl, rfl⟩

end

/-- After every run, from no toggles at all: whatever the next request, it speaks of the rules
    whose last toggle by the caller's tenant was not "disabled", unless it is a detection run
    of a tenant that has disabled one. -/
theorem enabled_rules_agree (rt : Runtime) (w : World) (es : List Event) (e : Event)
    (hw : w.db.ruleStates = .empty) (he : DetectsWithAll (run rt w es) e) :
    Describes rt (run rt w es) e fun tenantId => activeRules rt tenantId w es :=
  describes_of_enabled (enabledRules_run rt hw es) he

/-! ## A detection run with a disabled rule -/

def toggleR001 (enabled : Bool) : Event :=
  adminRequest (.admin (.bearer adminToken) (.toggleRule "R001" enabled))

def detectionRun : Event where
  env := quietSplunk
  request := .runDetections (.bearer adminToken)

/-- A rule disabled and enabled again is one the detection run may search for. -/
theorem enabled_rules_agree_toggled :
    Describes .plain (run .plain (initech "pro") [toggleR001 false, toggleR001 true]) detectionRun
      fun tenantId => activeRules .plain tenantId (initech "pro")
        [toggleR001 false, toggleR001 true] := by
  refine enabled_rules_agree .plain (initech "pro") [toggleR001 false, toggleR001 true]
    detectionRun rfl fun auth p he hp => ?_
  cases he
  obtain ⟨token, hid, rfl, _⟩ := hp
  cases hid.bearer
  decide

/-- The detection run after the toggle searches for the disabled rule all the same. -/
theorem detections_search_disabled :
    ¬ ∀ (rt : Runtime) (w : World) (es : List Event) (e : Event), w.db.ruleStates = .empty →
      Describes rt (run rt w es) e fun tenantId => activeRules rt tenantId w es := by
  intro h
  have hdescribes := h .plain (initech "pro") [toggleR001 false] detectionRun rfl
  have hadmitted : Admitted (run .plain (initech "pro") [toggleR001 false]).db
      (run .plain (initech "pro") [toggleR001 false]).issued 0 (.bearer adminToken) .detectionRun
      adminToken.principal :=
    ⟨adminToken, ⟨rfl, by decide, by decide, by decide, by decide, by decide⟩, rfl, by decide⟩
  have hsearched := hdescribes.detections _ _ rfl hadmitted (by decide +kernel)
  revert hsearched
  decide +kernel

end SentinelAI
