import Mathlib.Data.List.Dedup
import SentinelAI.Billing.UsageSteps

/-
  What a tenant is billed for over a run of answered requests, against the work that was done
  for it. The rollup counts each search of an investigation run once however often it was
  retried, one model call for the two completions an investigation takes, and one action for
  each execution, whether a connector supports it or not.
-/

namespace SentinelAI

open Lib

/-! ## The rollup -/

/-- The quantity the rollup reports for a kind: nothing if it has no entry. -/
def UsageRollup.quantity (r : UsageRollup) (kind : String) : Int :=
  ((r.byKind.lookup kind).map KindUsage.quantity).getD 0

/-- A rollup's quantity of a kind is the sum over the rows of that kind. -/
theorem quantity_groupByKind (tenantId : String) (rows : List UsageEventRow) (total : Int)
    (kind : String) :
    (⟨tenantId, MeteringService.groupByKind rows, total⟩ : UsageRollup).quantity kind =
      groupSum UsageEventRow.kind UsageEventRow.quantity rows kind := by
  unfold UsageRollup.quantity
  rw [MeteringService.groupByKind_lookup]
  split
  · rfl
  · next hnone =>
    have hempty : rows.filter (fun r => r.kind = kind) = [] := by
      refine List.filter_eq_nil_iff.mpr fun r hr hkind => hnone ?_
      exact List.mem_map.mpr ⟨r, hr, of_decide_eq_true hkind⟩
    unfold groupSum
    rw [hempty]
    rfl

/-- The quantities of a kind inside a window. -/
theorem groupSum_windowRows (db : Database) (tenantId kind : String) (since until_ : Option Time) :
    groupSum UsageEventRow.kind UsageEventRow.quantity
      (MeteringService.windowRows db tenantId since until_) kind =
      quantityOf db fun r => MeteringService.inWindow tenantId since until_ r && r.kind == kind := by
  unfold quantityOf groupSum MeteringService.windowRows AutoTable.select
  rw [List.filter_filter]
  congr 2
  exact List.filter_congr fun r _ => Bool.and_comm ..

/-- The rollup over all time reports the sums of a tenant's usage events by kind. -/
theorem rollup_run (tenantId : String) (s : Session) :
    ∃ r, (MeteringService.rollup tenantId none none).run s = .ok r s ∧
      ∀ kind, r.quantity kind = metered s.db tenantId kind := by
  refine ⟨_, MeteringService.rollup_run tenantId none none s, fun kind => ?_⟩
  rw [quantity_groupByKind, groupSum_windowRows, metered]
  congr 1
  funext r
  simp [ofKind, MeteringService.inWindow]

/-! ## The work done for a tenant -/

/-- The tenant of the token a request carries. -/
def Request.tenant (q : Request) : Option String :=
  match q.auth with
  | .bearer token => some token.tenantId
  | _ => none

/-- What a request did, if it carries a token of the tenant. -/
def doneFor (tenantId : String) (work : World → Event → Nat) (w : World) (e : Event) : Nat :=
  if e.request.tenant = some tenantId then work w e else 0

/-- The searches sent, retries included. -/
def searchesSent (rt : Runtime) (w : World) (e : Event) : Nat := (searchCalls rt w e).length

/-- The different searches sent. -/
def searchesMade (rt : Runtime) (w : World) (e : Event) : Nat := (searchCalls rt w e).dedup.length

def completionsMade (rt : Runtime) (w : World) (e : Event) : Nat := (modelCalls rt w e).length

def connectorsInvoked (rt : Runtime) (w : World) (e : Event) : Nat :=
  (connectorCalls rt w e).length

/-- The actions a request executes that no connector supports. -/
def unsupportedActions (w : World) (e : Event) : Nat :=
  match e.request with
  | .case _ invId (.execute i) =>
    match storedAction w invId i with
    | some a => if (supportingConnector e.env.connectors a.actionType).isNone then 1 else 0
    | none => 0
  | _ => 0

/-- The routes that search without metering. -/
def Request.searchesUnmetered : Request → Bool
  | .search .. => true
  | .runDetections _ => true
  | _ => false

/-- An answered request, the tenant's own not being one that searches without metering. -/
def Answered (rt : Runtime) (tenantId : String) (w : World) (e : Event) (w' : World) : Prop :=
  Stepped rt w e w' ∧ succeeds rt w e = true ∧
    (e.request.tenant = some tenantId → e.request.searchesUnmetered = false)

/-! ## Step by step -/

section

variable {rt : Runtime} {w : World} {e : Event}

theorem RunReaches.tenant {p : Principal} {orch : Orchestrator} (h : RunReaches rt w e p orch) :
    e.request.tenant = some p.tenantId := by
  obtain ⟨auth, he, token, hid, rfl, _⟩ := h.admitted
  rw [he, Request.tenant, Request.auth, hid.bearer]
  rfl

theorem Reaches.tenant {invId : String} {i : Int} {row : InvestigationRow} {a : IncidentAction}
    (h : Reaches w e invId i row a) : e.request.tenant = some row.tenantId := by
  obtain ⟨auth, p, he, ⟨token, hid, rfl, _⟩, hrow, _⟩ := h
  rw [he, Request.tenant, Request.auth, hid.bearer, (ownRow_eq_some.mp hrow).2]
  rfl

/-- Searches that settled one after another are one different search for each rule, sent once
    to three times. -/
theorem dedup_calls {env : Env} (client : SplunkClient) {k : Nat} {disabled : List String}
    {as : List RuleAnswer} (h : answers env client k (enabledRules disabled) = some as) :
    (as.flatMap (RuleAnswer.calls client)).dedup.length = (enabledRules disabled).length ∧
      (as.flatMap (RuleAnswer.calls client)).length ≤ 3 * (enabledRules disabled).length := by
  obtain ⟨hrules, hattempts⟩ := answers_rules h
  have hnodup : ((enabledRules disabled).map fun r => (⟨client, r.spl⟩ : SearchCall)).Nodup := by
    refine List.Nodup.map_on (fun r hr r' hr' hsame => ?_)
      (List.Nodup.filter _ (by decide : defaultRules.Nodup))
    exact eq_of_spl_eq r (mem_enabledRules.mp hr).1 r' (mem_enabledRules.mp hr').1
      (congrArg SearchCall.spl hsame)
  have hmem (c : SearchCall) : c ∈ as.flatMap (RuleAnswer.calls client) ↔
      c ∈ (enabledRules disabled).map fun r => (⟨client, r.spl⟩ : SearchCall) := by
    rw [← hrules, List.map_map, List.mem_flatMap, List.mem_map]
    constructor
    · rintro ⟨a, ha, hc⟩
      exact ⟨a, ha, (List.eq_of_mem_replicate hc).symm⟩
    · rintro ⟨a, ha, rfl⟩
      have hattempt := (hattempts a ha).1
      exact ⟨a, ha, List.mem_replicate.mpr ⟨by omega, rfl⟩⟩
  constructor
  · have hperm := (List.perm_ext_iff_of_nodup (List.nodup_dedup _) hnodup).mpr fun c =>
      List.mem_dedup.trans (hmem c)
    rw [hperm.length_eq, List.length_map]
  · have hlen : (enabledRules disabled).length = as.length := by
      rw [← hrules, List.length_map]
    rw [hlen]
    clear h hrules hnodup hmem hlen
    induction as with
    | nil => simp
    | cons a as ih =>
      obtain ⟨ha, hrest⟩ := List.forall_mem_cons.mp hattempts
      have hle := ih hrest
      rw [List.flatMap_cons, List.length_append, List.length_cons, RuleAnswer.calls,
        List.length_replicate]
      omega

/-- What an answered request adds to a tenant's usage is what it did for the tenant. -/
structure Billed (rt : Runtime) (tenantId : String) (w : World) (e : Event) : Prop where
  searches : metered (step rt w e).db tenantId kindSearch =
    metered w.db tenantId kindSearch + doneFor tenantId (searchesMade rt) w e
  sent : doneFor tenantId (searchesSent rt) w e ≤ 3 * doneFor tenantId (searchesMade rt) w e
  modelCalls : 2 * metered (step rt w e).db tenantId kindModelCall =
    2 * metered w.db tenantId kindModelCall + doneFor tenantId (completionsMade rt) w e
  actions : metered (step rt w e).db tenantId kindAction = metered w.db tenantId kindAction +
    (doneFor tenantId (connectorsInvoked rt) w e + doneFor tenantId unsupportedActions w e : Nat)

theorem doneFor_own {tenantId : String} (h : e.request.tenant = some tenantId)
    (work : World → Event → Nat) : doneFor tenantId work w e = work w e :=
  if_pos h

theorem doneFor_other {tenantId : String} (h : e.request.tenant ≠ some tenantId)
    (work : World → Event → Nat) : doneFor tenantId work w e = 0 :=
  if_neg h

/-- Another tenant's request, if it adds nothing to the tenant's usage. -/
theorem billed_other {tenantId : String} (h : e.request.tenant ≠ some tenantId)
    (hsame : ∀ kind, metered (step rt w e).db tenantId kind = metered w.db tenantId kind) :
    Billed rt tenantId w e := by
  constructor <;> simp [doneFor_other h, hsame]

/-- A completed run made one search for each enabled rule and two completions for each
    investigation. -/
theorem billed_run {p : Principal} {orch : Orchestrator} {as : List RuleAnswer}
    {invs : List Investigation} {l : Routes.InvestigationList} {u t : Session}
    (h : RunReaches rt w e p orch) (hallowed : SearchAllowed w.db p.tenantId (e.env.now 1))
    (hdone : RunCompletes rt w e p orch as invs l u t) (tenantId : String) :
    Billed rt tenantId w e := by
  obtain ⟨auth, he, _⟩ := h.admitted
  obtain ⟨i, j, husage⟩ := hdone.usage
  have hmetered (kind : String) : metered (step rt w e).db tenantId kind =
      metered w.db tenantId kind +
      (if p.tenantId == tenantId && kindSearch == kind then wanted w.db p.tenantId else 0) +
      if p.tenantId == tenantId && kindModelCall == kind then (invs.length : Int) else 0 := by
    unfold metered
    rw [quantityOf_congr husage, quantityOf_runEvents]
    simp
  by_cases hp : p.tenantId = tenantId
  · subst hp
    have hown := doneFor_own (w := w) h.tenant
    have hsearch : (kindSearch == kindModelCall) = false ∧ (kindSearch == kindAction) = false := by
      decide
    have hmodel : (kindModelCall == kindSearch) = false ∧ (kindModelCall == kindAction) = false := by
      decide
    obtain ⟨hmade, hsent⟩ := dedup_calls orch.splunk hdone.answered
    rw [← h.searchCalls hallowed hdone.answered] at hmade hsent
    constructor
    · rw [hmetered, hown, searchesMade, hmade]
      simp [hmodel, wanted]
    · rw [hown, hown, searchesMade, hmade]
      exact hsent
    · rw [hmetered, hown, completionsMade, hdone.modelCalls, List.length_replicate]
      simp [hsearch]
      omega
    · have hconnectors : connectorCalls rt w e = [] :=
        connectorCalls_eq_nil (by rw [he]; simp [footprint])
      rw [hmetered, hown, hown, connectorsInvoked, hconnectors, unsupportedActions, he]
      simp [hsearch, hmodel]
  · have hother : e.request.tenant ≠ some tenantId := by
      rw [h.tenant]
      exact fun hsame => hp (Option.some.inj hsame)
    have hne : (p.tenantId == tenantId) = false := beq_eq_false_iff_ne.mpr hp
    exact billed_other hother fun kind => by simp [hmetered, hne]

/-- An executed action invoked a connector, or is one that none supports. -/
theorem billed_execution {invId : String} {i : Int} {row : InvestigationRow} {a : IncidentAction}
    {now : Time} (h : Reaches w e invId i row a)
    (husage : (step rt w e).db.usageEvents =
      (w.db.addUsage [actionEvent rt row.tenantId a.actionType now]).usageEvents)
    (tenantId : String) : Billed rt tenantId w e := by
  obtain ⟨auth, p, he, _⟩ := id h
  have hmetered (kind : String) : metered (step rt w e).db tenantId kind =
      metered w.db tenantId kind +
        if row.tenantId == tenantId && kindAction == kind then 1 else 0 := by
    unfold metered
    rw [quantityOf_congr husage, quantityOf_addUsage, List.filter_singleton, actionEvent,
      ofKind_usageRow]
    cases row.tenantId == tenantId && kindAction == kind <;> rfl
  by_cases hrow : row.tenantId = tenantId
  · subst hrow
    have hown := doneFor_own (w := w) h.tenant
    have haction : (kindAction == kindSearch) = false ∧ (kindAction == kindModelCall) = false := by
      decide
    have hsearches : searchCalls rt w e = [] := searchCalls_eq_nil (by rw [he]; simp [writes])
    have hcompletions : modelCalls rt w e = [] := modelCalls_eq_nil (by rw [he]; simp [writes])
    constructor
    · rw [hmetered, hown, searchesMade, hsearches]
      simp [haction]
    · rw [hown, hown, searchesSent, hsearches]
      simp
    · rw [hmetered, hown, completionsMade, hcompletions]
      simp [haction]
    · have hcalls := (h.step rt).1
      rw [hmetered, hown, hown, connectorsInvoked, hcalls, unsupportedActions, he]
      dsimp only
      rw [h.storedAction]
      unfold executorCall
      cases hsupport : supportingConnector e.env.connectors a.actionType <;> simp [hsupport]
  · have hother : e.request.tenant ≠ some tenantId := by
      rw [h.tenant]
      exact fun hsame => hrow (Option.some.inj hsame)
    have hne : (row.tenantId == tenantId) = false := beq_eq_false_iff_ne.mpr hrow
    exact billed_other hother fun kind => by simp [hmetered, hne]

/-- A request that meters nothing did nothing there is to meter, the routes apart that search
    without metering. -/
theorem billed_unmetered {tenantId : String} (hwrites : .usageEvents ∉ writes e.request)
    (hsame : (step rt w e).db.usageEvents = w.db.usageEvents)
    (hroute : e.request.tenant = some tenantId → e.request.searchesUnmetered = false) :
    Billed rt tenantId w e := by
  have hmetered (kind : String) : metered (step rt w e).db tenantId kind =
      metered w.db tenantId kind := quantityOf_congr hsame _
  by_cases htenant : e.request.tenant = some tenantId
  · have hown := doneFor_own (w := w) htenant
    have hmetersNo := hroute htenant
    have hidle : .searches ∉ writes e.request ∧ .completions ∉ writes e.request ∧
        .connectors ∉ footprint e.request ∧ unsupportedActions w e = 0 := by
      unfold unsupportedActions
      cases hq : e.request with
      | search | runDetections => rw [hq] at hmetersNo; cases hmetersNo
      | runInvestigations auth => rw [hq] at hwrites; simp [writes] at hwrites
      | case auth invId r =>
        cases r with
        | execute i => rw [hq] at hwrites; simp [writes] at hwrites
        | _ => simp [writes, footprint]
      | admin auth r => cases r <;> simp [writes, footprint]
      | provider auth r => cases r <;> simp [writes, footprint]
      | _ => simp [writes, footprint]
    obtain ⟨hsearches, hcompletions, hconnectors, hunsupported⟩ := hidle
    constructor
    · rw [hmetered, hown, searchesMade, searchCalls_eq_nil hsearches]
      simp
    · rw [hown, hown, searchesSent, searchCalls_eq_nil hsearches]
      simp
    · rw [hmetered, hown, completionsMade, modelCalls_eq_nil hcompletions]
      simp
    · rw [hmetered, hown, hown, connectorsInvoked, connectorCalls_eq_nil hconnectors, hunsupported]
      simp
  · exact billed_other htenant hmetered

theorem billed_of_answered {tenantId : String} {w' : World} (h : Answered rt tenantId w e w') :
    Billed rt tenantId w e := by
  obtain ⟨_, hs, hroute⟩ := h
  obtain ⟨p, orch, as, invs, l, u, t, hreach, hallowed, hdone⟩ | ⟨_, _, row, a, now, hreach, husage⟩ |
    ⟨hwrites, hsame⟩ := answered_cases hs
  · exact billed_run hreach hallowed hdone tenantId
  · exact billed_execution hreach husage tenantId
  · exact billed_unmetered hwrites hsame hroute

end

/-! ## Run by run -/

/-- Over every run of answered requests, the tenant's own being none that searches without
    metering: the rollup has grown by one search for each different search an investigation
    run sent, however often it was sent (three times at most), by one model call for two
    completions, and by one action for each connector invocation and for each executed action
    that no connector supports. -/
theorem billing_complete (rt : Runtime) (tenantId : String) (w w' : World) (es : List Event)
    (h : Steps (Answered rt tenantId) w es w') :
    ∃ before after,
      (MeteringService.rollup tenantId none none).run w.session = .ok before w.session ∧
      (MeteringService.rollup tenantId none none).run w'.session = .ok after w'.session ∧
      after.quantity kindSearch = before.quantity kindSearch +
        tally (step rt) (doneFor tenantId (searchesMade rt)) w es ∧
      tally (step rt) (doneFor tenantId (searchesSent rt)) w es ≤
        3 * tally (step rt) (doneFor tenantId (searchesMade rt)) w es ∧
      2 * after.quantity kindModelCall = 2 * before.quantity kindModelCall +
        tally (step rt) (doneFor tenantId (completionsMade rt)) w es ∧
      after.quantity kindAction = before.quantity kindAction +
        tally (step rt) (doneFor tenantId (connectorsInvoked rt)) w es +
        tally (step rt) (doneFor tenantId unsupportedActions) w es := by
  have hstep (v : World) (e : Event) (v' : World) (hv : Answered rt tenantId v e v') :
      v' = step rt v e ∧ Billed rt tenantId v e := ⟨hv.1, billed_of_answered hv⟩
  obtain ⟨before, hbefore, hmetered⟩ := rollup_run tenantId w.session
  obtain ⟨after, hafter, hmetered'⟩ := rollup_run tenantId w'.session
  refine ⟨before, after, hbefore, hafter, ?_, ?_, ?_, ?_⟩
  · rw [hmetered, hmetered']
    refine h.tally_eq (m := fun v => metered v.db tenantId kindSearch) fun v e v' hv => ?_
    obtain ⟨rfl, hbilled⟩ := hstep v e v' hv
    exact ⟨rfl, hbilled.searches⟩
  · rw [← tally_mul]
    refine h.tally_le fun v e v' hv => ?_
    obtain ⟨rfl, hbilled⟩ := hstep v e v' hv
    exact ⟨rfl, hbilled.sent⟩
  · rw [hmetered, hmetered']
    refine h.tally_eq (m := fun v => 2 * metered v.db tenantId kindModelCall)
      fun v e v' hv => ?_
    obtain ⟨rfl, hbilled⟩ := hstep v e v' hv
    exact ⟨rfl, hbilled.modelCalls⟩
  · rw [hmetered, hmetered', add_assoc, ← Nat.cast_add, ← tally_add]
    refine h.tally_eq (m := fun v => metered v.db tenantId kindAction) fun v e v' hv => ?_
    obtain ⟨rfl, hbilled⟩ := hstep v e v' hv
    exact ⟨rfl, hbilled.actions⟩

/-- A run with five detections. -/
theorem billing_complete_busy :
    ∃ before after,
      (MeteringService.rollup "t1" none none).run (initech "pro").session =
        .ok before (initech "pro").session ∧
      (MeteringService.rollup "t1" none none).run
          (step shortDigest (initech "pro") (busyRun 0)).session =
        .ok after (step shortDigest (initech "pro") (busyRun 0)).session ∧
      after.quantity kindSearch = before.quantity kindSearch +
        tally (step shortDigest) (doneFor "t1" (searchesMade shortDigest)) (initech "pro")
          [busyRun 0] ∧
      tally (step shortDigest) (doneFor "t1" (searchesSent shortDigest)) (initech "pro")
          [busyRun 0] ≤
        3 * tally (step shortDigest) (doneFor "t1" (searchesMade shortDigest)) (initech "pro")
          [busyRun 0] ∧
      2 * after.quantity kindModelCall = 2 * before.quantity kindModelCall +
        tally (step shortDigest) (doneFor "t1" (completionsMade shortDigest)) (initech "pro")
          [busyRun 0] ∧
      after.quantity kindAction = before.quantity kindAction +
        tally (step shortDigest) (doneFor "t1" (connectorsInvoked shortDigest)) (initech "pro")
          [busyRun 0] +
        tally (step shortDigest) (doneFor "t1" unsupportedActions) (initech "pro") [busyRun 0] :=
  billing_complete shortDigest "t1" (initech "pro")
    (step shortDigest (initech "pro") (busyRun 0)) [busyRun 0]
    (Steps.cons ⟨rfl, by decide +kernel, fun _ => rfl⟩ (Steps.nil _))

/-- From no usage, a run with five detections asks for ten completions and meters five. -/
theorem billing_halves_completions :
    ¬ ∀ (rt : Runtime) (tenantId : String) (w w' : World) (es : List Event),
      w.db.usageEvents = .empty →
      Steps (Guarded (Stepped rt) fun v e => succeeds rt v e = true) w es w' →
      ∃ after, (MeteringService.rollup tenantId none none).run w'.session = .ok after w'.session ∧
        after.quantity kindSearch = tally (step rt) (doneFor tenantId (searchesSent rt)) w es ∧
        after.quantity kindModelCall =
          tally (step rt) (doneFor tenantId (completionsMade rt)) w es ∧
        after.quantity kindAction =
          tally (step rt) (doneFor tenantId (connectorsInvoked rt)) w es := by
  intro h
  obtain ⟨after, hrun, _, hmodel, _⟩ := h shortDigest "t1" (initech "pro")
    (step shortDigest (initech "pro") (busyRun 0)) [busyRun 0] rfl
    (Steps.cons ⟨rfl, by decide +kernel⟩ (Steps.nil _))
  obtain ⟨r, hr, hmetered⟩ :=
    rollup_run "t1" (step shortDigest (initech "pro") (busyRun 0)).session
  cases hrun.symm.trans hr
  rw [hmetered] at hmodel
  revert hmodel
  decide +kernel

end SentinelAI
