import SentinelAI.Cases.Rows
import SentinelAI.Security.ApprovalGate

/-
  What a planned action acts on. The response agent has a table that says of what kind the target
  of each action is, a host, a user or an address, and then targets the detection's entity
  whatever the table says. So a plan is right exactly when the entity happens to be of the kind
  each suggested action needs (`planned_targets_iff`); and whatever happens to the case
  afterwards, what was planned is what the executor receives (`plan_dispatched`).
-/

namespace SentinelAI

open Lib

namespace ResponseAgent

/-- The kinds of `_ACTION_TARGET_HINT`. -/
inductive TargetHint where
  | host
  | user
  | srcIp
  deriving DecidableEq, Repr

/-- `_ACTION_TARGET_HINT` -/
def actionTargetHint : List (String × TargetHint) :=
  [("isolate_host", .host), ("kill_process", .host), ("disable_user", .user), ("block_ip", .srcIp)]

/-- The target is an object of the detection of this kind. -/
def TargetHint.Meets (d : Detection) (target : String) : TargetHint → Prop
  | host => target = d.entity
  | user => target ∈ d.users
  | srcIp => target ∈ d.srcIps

/-- The target is of the kind the table says, if it says any. -/
def RightKind (d : Detection) (a : IncidentAction) : Prop :=
  ∀ hint, (a.actionType, hint) ∈ actionTargetHint → hint.Meets d a.target

/-- Every action of a plan targets the entity. -/
theorem plan_target {rt : Runtime} {d : Detection} {v : TriageVerdict} {a : IncidentAction}
    (h : a ∈ plan rt d v) : a.target = d.entity := by
  unfold plan at h
  split at h
  · cases h
  · obtain ⟨t, _, rfl⟩ := List.mem_map.mp h
    rfl

/-- The types planned under a true positive are those suggested, but for what is no action. -/
theorem mem_plan_type (rt : Runtime) (d : Detection) {v : TriageVerdict}
    (hv : v.isTruePositive = true) {actionType : String} (hkept : actionType ∉ skipped) :
    (∃ a ∈ plan rt d v, a.actionType = actionType) ↔ actionType ∈ v.suggestedActions := by
  unfold plan
  rw [if_neg (by simp [hv])]
  constructor
  · rintro ⟨a, ha, rfl⟩
    obtain ⟨t, ht, rfl⟩ := List.mem_map.mp ha
    exact (List.mem_filter.mp ht).1
  · intro h
    refine ⟨planned rt d v actionType, List.mem_map.mpr ⟨actionType, ?_, rfl⟩, rfl⟩
    exact List.mem_filter.mpr ⟨h, by simpa using hkept⟩

/-- A plan is right exactly when the entity is a user if one is to be disabled, and an address if
    one is to be blocked. -/
theorem plan_rightKind_iff {rt : Runtime} {d : Detection} {v : TriageVerdict}
    (hv : v.isTruePositive = true) :
    (∀ a ∈ plan rt d v, RightKind d a) ↔
      ("disable_user" ∈ v.suggestedActions → d.entity ∈ d.users) ∧
        ("block_ip" ∈ v.suggestedActions → d.entity ∈ d.srcIps) := by
  rw [← mem_plan_type rt d hv (by decide : "disable_user" ∉ skipped),
    ← mem_plan_type rt d hv (by decide : "block_ip" ∉ skipped)]
  constructor
  · intro h
    refine ⟨?_, ?_⟩
    · rintro ⟨a, ha, htype⟩
      have hmeets := h a ha .user (by rw [htype]; decide)
      exact plan_target ha ▸ hmeets
    · rintro ⟨a, ha, htype⟩
      have hmeets := h a ha .srcIp (by rw [htype]; decide)
      exact plan_target ha ▸ hmeets
  · rintro ⟨huser, haddress⟩ a ha hint hhint
    have htarget := plan_target ha
    simp only [actionTargetHint, List.mem_cons, Prod.mk.injEq, List.not_mem_nil, or_false] at hhint
    rcases hhint with ⟨_, rfl⟩ | ⟨_, rfl⟩ | ⟨htype, rfl⟩ | ⟨htype, rfl⟩
    · exact htarget
    · exact htarget
    · exact htarget ▸ huser ⟨a, ha, htype⟩
    · exact htarget ▸ haddress ⟨a, ha, htype⟩

end ResponseAgent

/-! ## What the executor receives -/

/-- The invocation that executing an action of a row makes. -/
def orderAt (row : InvestigationRow) (i : Int) : Option ConnectorCall :=
  (actionAt row.payload i).map fun a => ⟨a.actionType, a.target⟩

theorem orderAt_setAction {row : InvestigationRow} {i : Int} {a b : IncidentAction}
    (h : actionAt row.payload i = some a) (htype : b.actionType = a.actionType)
    (htarget : b.target = a.target) (j : Int) : orderAt (row.setAction i b) j = orderAt row j := by
  unfold orderAt
  by_cases hj : j = i
  · subst hj
    rw [actionAt_setAction h, h]
    show some (ConnectorCall.mk b.actionType b.target) = some ⟨a.actionType, a.target⟩
    rw [htype, htarget]
  · rw [actionAt_setAction_ne b h hj]

/-- No operation on a case changes what its actions would invoke. -/
theorem compute_orderAt {op : CaseOp} {row new : InvestigationRow} (h : op.compute row = some new)
    (j : Int) : orderAt new j = orderAt row j := by
  cases op with
  | approve i =>
    obtain ⟨a, ha, rfl⟩ := approve_compute.mp h
    exact orderAt_setAction (b := { a with requiresApproval := false }) ha rfl rfl j
  | execute i cs =>
    obtain ⟨a, res, ha, _, _, rfl⟩ := execute_compute.mp h
    have hset := orderAt_setAction (b := a.executedWith res) ha rfl rfl j
    unfold executeRow
    dsimp only
    split
    · exact hset
    · exact hset
  | assign assignee =>
    cases h
    rfl
  | transition target now =>
    obtain ⟨status, _, rfl⟩ := transition_compute.mp h
    rfl

/-- The request's pipeline, if it runs one, draws no id equal to this one. -/
def DrawsOther (rt : Runtime) (invId : String) (w : World) (e : Event) : Prop :=
  ∀ p orch, RunReaches rt w e p orch → invId ∉ drawnIds rt w e p.tenantId

/-- A request keeps what the actions of a stored investigation would invoke. -/
theorem orderAt_step {rt : Runtime} {w : World} {e : Event} {invId : String}
    {row : InvestigationRow} (hrow : w.db.investigations.find? invId = some row)
    (hother : DrawsOther rt invId w e) :
    ∃ row', (step rt w e).db.investigations.find? invId = some row' ∧
      ∀ j, orderAt row' j = orderAt row j := by
  cases row_change rt w e invId with
  | kept h => exact ⟨row, h.trans hrow, fun j => rfl⟩
  | written auth r op he hop hwrites =>
    obtain ⟨old, new, hold, hnew, hstored, _⟩ := hwrites.rows
    cases hrow.symm.trans hold
    exact ⟨new, hstored, compute_orderAt hnew⟩
  | filed p orch hreach hs hfiled =>
    have hid : row.id = invId := ((w.db.investigations.find?_eq_some invId row).mp hrow).2
    rw [hrow] at hfiled
    generalize hnew : (step rt w e).db.investigations.find? invId = o at hfiled
    cases hfiled with
    | same => exact ⟨row, rfl, fun j => rfl⟩
    | refiled row inv hinv hdrawn hsame htenant =>
      rw [← hsame, hid] at hdrawn
      exact absurd hdrawn (hother p orch hreach)

theorem orderAt_run {rt : Runtime} {w : World} {es : List Event} {invId : String}
    {row : InvestigationRow} (hrow : w.db.investigations.find? invId = some row)
    (hother : ∀ before e after, es = before ++ e :: after →
      DrawsOther rt invId (run rt w before) e) :
    ∃ row', (run rt w es).db.investigations.find? invId = some row' ∧
      ∀ j, orderAt row' j = orderAt row j := by
  induction es generalizing w row with
  | nil => exact ⟨row, hrow, fun j => rfl⟩
  | cons e es ih =>
    obtain ⟨row', hrow', hkept⟩ := orderAt_step hrow (hother [] e es rfl)
    obtain ⟨row'', hrow'', hkept'⟩ := ih hrow' fun before e' after h =>
      hother (e :: before) e' after (by rw [h]; rfl)
    exact ⟨row'', hrow'', fun j => (hkept' j).trans (hkept j)⟩

/-- Stored with an investigation, the actions are what executing them invokes a connector with,
    however much later and whatever was done to the case meanwhile. -/
def Dispatched (rt : Runtime) (actions : List IncidentAction) : Prop :=
  ∀ (w : World) (invId : String) (row : InvestigationRow),
    w.db.investigations.find? invId = some row → row.payload.actions = actions →
    ∀ es, (∀ before e after, es = before ++ e :: after → DrawsOther rt invId (run rt w before) e) →
    ∀ e auth i, e.request = .case auth invId (.execute i) →
    ∀ c ∈ connectorCalls rt (run rt w es) e,
      ∃ a ∈ actions, 0 ≤ i ∧ actions[i.toNat]? = some a ∧ c = ⟨a.actionType, a.target⟩

theorem plan_dispatched (rt : Runtime) (actions : List IncidentAction) : Dispatched rt actions := by
  intro w invId row hrow hactions es hother e auth i he c hc
  obtain ⟨row', hrow', hkept⟩ := orderAt_run hrow hother
  obtain ⟨caseId, j, stored, a, hreach, rfl⟩ := connectorCalls_reach hc
  obtain ⟨auth', _, he', _⟩ := id hreach
  cases he.symm.trans he'
  cases hreach.row_eq.symm.trans hrow'
  -- the action that was stored first, under the same index
  have horder := hkept i
  unfold orderAt at horder
  rw [hreach.action.1] at horder
  obtain ⟨b, hb, hcall⟩ := Option.map_eq_some_iff.mp horder.symm
  unfold actionAt at hb
  split at hb
  · cases hb
  · rename_i hi
    rw [hactions] at hb
    exact ⟨b, List.mem_of_getElem? hb, not_lt.mp hi, hb, hcall.symm⟩

/-- For every detection and every true positive: each planned action targets an object of the
    kind its type acts on, and that target is what the executor receives, exactly when the
    detection's entity is one of its users if disabling one is suggested, and one of its
    addresses if blocking one is. -/
theorem planned_targets_iff (rt : Runtime) (d : Detection) {v : TriageVerdict}
    (hv : v.isTruePositive = true) :
    ((∀ a ∈ ResponseAgent.plan rt d v, ResponseAgent.RightKind d a) ∧
      Dispatched rt (ResponseAgent.plan rt d v)) ↔
      ("disable_user" ∈ v.suggestedActions → d.entity ∈ d.users) ∧
        ("block_ip" ∈ v.suggestedActions → d.entity ∈ d.srcIps) := by
  rw [ResponseAgent.plan_rightKind_iff hv]
  exact and_iff_left (plan_dispatched rt _)

/-- A burst of failed logins on a web server. -/
def bruteForce : Detection where
  id := "DET-1"
  title := "Brute-force authentication"
  description := ""
  severity := .high
  splQuery := ""
  entity := "web-prod-01"
  createdAt := 0
  srcIps := ["203.0.113.1"]
  users := ["admin"]

/-- A true positive with some suggestions. -/
def confirmedWith (suggested : List String) : TriageVerdict where
  detectionId := "DET-1"
  isTruePositive := true
  confidence := 1
  confidence_ge := zero_le_one
  confidence_le := le_rfl
  rationale := ""
  recommendedSeverity := .high
  suggestedActions := suggested

/-- A scan from one address. -/
def portScan : Detection where
  id := "DET-2"
  title := "Port scan"
  description := ""
  severity := .medium
  splQuery := ""
  entity := "203.0.113.1"
  createdAt := 0
  srcIps := ["203.0.113.1", "203.0.113.2"]

def blocking : TriageVerdict := confirmedWith ["block_ip", "rotate_credentials"]

/-- Blocking the address is planned for the address. -/
theorem planned_targets_blocking :
    "block_ip" ∈ (ResponseAgent.plan .plain portScan blocking).map IncidentAction.actionType ∧
      (∀ a ∈ ResponseAgent.plan .plain portScan blocking, ResponseAgent.RightKind portScan a) ∧
      Dispatched .plain (ResponseAgent.plan .plain portScan blocking) := by
  refine ⟨by decide, (planned_targets_iff .plain portScan (v := blocking) rfl).mpr ⟨?_, ?_⟩⟩
  · decide
  · decide

/-- The identity provider is asked to disable a host. -/
theorem host_disabled_as_user :
    ¬ ∀ (rt : Runtime) (d : Detection) (v : TriageVerdict), v.isTruePositive = true →
      d.users ≠ [] → d.srcIps ≠ [] →
        ∀ a ∈ ResponseAgent.plan rt d v, ResponseAgent.RightKind d a := by
  intro h
  have hright := h .plain bruteForce (confirmedWith ["disable_user"]) rfl
    (List.cons_ne_nil _ _) (List.cons_ne_nil _ _)
    (ResponseAgent.planned .plain bruteForce (confirmedWith ["disable_user"]) "disable_user")
    (List.mem_singleton_self _)
  have hmeets := hright .user (by decide)
  have hhost : "web-prod-01" ∈ ["admin"] := hmeets
  revert hhost
  decide

end SentinelAI
