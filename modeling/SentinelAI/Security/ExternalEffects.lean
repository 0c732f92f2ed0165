import SentinelAI.Security.CaseSteps

/-
  Whether an execution that reached the outside world is on record.

  The route calls the connector in the middle of its transaction. `Faulty.executeAction` is
  the route with a failure of the statements that follow the call: the flush of the row, the
  metering, the audit entry, the commit. `Faults` says which of them raise; the channels
  raise as the environment has it. Without faults it is the route itself.
-/

namespace SentinelAI

open Lib

/-- The exceptions of the statements after the connector call. -/
structure Faults where
  flush : Option Exc := none
  metering : Option Exc := none
  audit : Option Exc := none
  commit : Option Exc := none
  deriving DecidableEq

def raiseFault : Option Exc → ApiM Unit
  | none => pure ()
  | some e => throw e

namespace Faulty

variable (f : Faults) (rt : Runtime) (env : Env)

/-- `InvestigationRepository.execute_action`. -/
def executeStored (tenantId invId : String) (i : Int) : ApiM (Except CaseError Investigation) := do
  match ← InvestigationRepository.getRow tenantId invId with
  | none => return .error .notFound
  | some row =>
    match executableAction i row with
    | .error e => return .error e
    | .ok action =>
      let result ← ActionExecutor.execute env action.actionType action.target
      let row' := executeRow i action result row
      raiseFault f.flush
      InvestigationRepository.flush row'
      return .ok row'.payload

/-- What the route does once the action is stored. -/
def afterExecution (principal : Principal) (invId : String) (i : Int)
    (executed : IncidentAction) : ApiM Unit := do
  raiseFault f.metering
  let _ ← MeteringService.record rt env principal.tenantId kindAction 1 executed.actionType
  raiseFault f.audit
  AuditService.recordEntry rt env
    (Routes.investigationEntry principal "action.executed" invId
      (some [("action_index", .int i), ("action_type", .str executed.actionType),
        ("status", Routes.optionJson executed.executionStatus)]))
  let status := executed.executionStatus.getD ""
  let _ ← NotificationService.alertActionExecuted env principal.tenantId executed.actionType
    executed.target (if status == "" then "unknown" else status)

/-- `execute_action`. -/
def executeAction (auth : Authorization) (invId : String) (i : Int) : ApiM Investigation := do
  let principal ← Deps.require env auth .actionApprove
  match ← executeStored f env principal.tenantId invId i with
  | .error e => throw (Routes.executeError e)
  | .ok inv =>
    let executed ← orRaise (.other "IndexError") (actionAt inv i)
    afterExecution f rt env principal invId i executed
    return inv

/-- The request in its own session, with `get_session`'s commit. -/
def respond (w : World) (auth : Authorization) (invId : String) (i : Int) :
    EStateM.Result Exc Session Investigation :=
  (do
    let inv ← executeAction f rt env auth invId i
    raiseFault f.commit
    commit
    return inv : ApiM Investigation).run w.session

/-- The world the request leaves. -/
def after (w : World) (auth : Authorization) (invId : String) (i : Int) : World :=
  let s := stateOf (respond f rt env w auth invId i)
  { db := s.committed, issued := s.issued, captured := s.captured }

/-- Without faults it is the service's own request. -/
theorem executeAction_none (auth : Authorization) (invId : String) (i : Int) :
    executeAction {} rt env auth invId i = Routes.executeAction rt env auth invId i := rfl

end Faulty

theorem raiseFault_eq_ok {o : Option Exc} {s t : Session} {u : Unit} :
    (raiseFault o).run s = .ok u t ↔ o = none ∧ t = s := by
  cases o <;> simp [raiseFault, eq_comm]

@[grind ←] theorem raiseFault_touches {π : Type} [Follows π] {F : List π} (o : Option Exc) :
    Touches F (raiseFault o) := by
  cases o <;> grind [raiseFault]

/-! ## Runs with faults -/

namespace Faulty

variable {f : Faults} {rt : Runtime} {w : World} {e : Event} {auth : Authorization}
  {invId : String} {i : Int} {row : InvestigationRow} {a : IncidentAction} {r : ExecutionResult}

/-- What the route does once the connector has answered. -/
def afterAnswer (f : Faults) (rt : Runtime) (env : Env) (p : Principal) (invId : String) (i : Int)
    (row : InvestigationRow) (a : IncidentAction) (r : ExecutionResult) : ApiM Investigation := do
  raiseFault f.flush
  InvestigationRepository.flush (executeRow i a r row)
  afterExecution f rt env p invId i (a.executedWith r)
  return (executeRow i a r row).payload

theorem afterAnswer_touches (f : Faults) (rt : Runtime) (env : Env) (p : Principal)
    (invId : String) (i : Int) (row : InvestigationRow) (a : IncidentAction)
    (r : ExecutionResult) :
    Touches [Resource.investigations, .usageEvents, .auditLog, .captured]
      (afterAnswer f rt env p invId i row a r) := by
  unfold afterAnswer afterExecution
  refine (raiseFault_touches _).bind fun _ => Touches.bind (by grind) fun _ => ?_
  refine Touches.bind ((raiseFault_touches _).bind fun _ => ?_) fun _ => Touches.pure _
  refine (MeteringService.record_touches ..).bind fun _ => (raiseFault_touches _).bind fun _ => ?_
  grind [NotificationService.alertActionExecuted]

/-- The route up to the answer of the connector. -/
theorem executeAction_run (f : Faults) (rt : Runtime) {env : Env} {p : Principal} {s : Session}
    (hp : Admitted s.db s.issued (env.now s.ticks) auth .actionApprove p)
    (hrow : ownRow s.db p.tenantId invId = some row) (ha : executableAction i row = .ok a)
    (hr : executorResult env.connectors a.actionType a.target = .ok r) :
    (executeAction f rt env auth invId i).run s =
      (afterAnswer f rt env p invId i row a r).run (dispatched env a s.ticked) := by
  have hget : (InvestigationRepository.getRow p.tenantId invId).run s.ticked =
      .ok (some row) s.ticked := by
    rw [InvestigationRepository.getRow_run]
    exact congrArg (fun o => EStateM.Result.ok o s.ticked) hrow
  have hexec : (ActionExecutor.execute env a.actionType a.target).run s.ticked =
      .ok r (dispatched env a s.ticked) := by
    rw [ActionExecutor.execute_run, hr]
    rfl
  have hstored : (executeStored f env p.tenantId invId i).run s.ticked =
      (do
        raiseFault f.flush
        InvestigationRepository.flush (executeRow i a r row)
        return .ok (executeRow i a r row).payload : ApiM (Except CaseError Investigation)).run
          (dispatched env a s.ticked) := by
    unfold executeStored
    rw [run_bind_ok hget]
    dsimp only
    rw [ha]
    dsimp only
    rw [run_bind_ok hexec]
  unfold executeAction afterAnswer
  rw [run_bind_ok (require_eq_ok.mpr ⟨hp, rfl⟩)]
  cases hf : f.flush with
  | some ex =>
    rw [hf] at hstored
    exact run_bind_error hstored
  | none =>
    rw [hf] at hstored
    have hat : actionAt (executeRow i a r row).payload i = some (a.executedWith r) :=
      actionAt_executeRow (executableAction_ok.mp ha).1
    rw [run_bind_ok hstored]
    exact run_bind_ok (orRaise_eq_ok.mpr ⟨hat, rfl⟩)

/-- Without faults the request is the service's own. -/
theorem after_none (he : e.request = .case auth invId (.execute i)) :
    after {} rt e.env w auth invId i = step rt w e := by
  have hrun : handled rt w e =
      (Body.investigation <$> executeAction {} rt e.env auth invId i).run w.session :=
    handled_execute rt he
  have hbody : (Body.investigation <$> executeAction {} rt e.env auth invId i).run w.session =
      match (executeAction {} rt e.env auth invId i).run w.session with
      | .ok inv t => .ok (.investigation inv) t
      | .error ex t => .error ex t := by
    show ((executeAction {} rt e.env auth invId i) >>= fun inv =>
      pure (Body.investigation inv)).run w.session = _
    rw [EStateM.run_bind]
    cases (executeAction {} rt e.env auth invId i).run w.session <;> rfl
  rw [step_eq, hrun, hbody]
  unfold after respond
  rw [EStateM.run_bind]
  cases hres : (executeAction {} rt e.env auth invId i).run w.session with
  | ok inv t => rfl
  | error ex t => rfl

/-- The audit entry of an execution. -/
def executedEntry (p : Principal) (invId : String) (i : Int) (a : IncidentAction)
    (r : ExecutionResult) : AuditEntry :=
  Routes.investigationEntry p "action.executed" invId
    (some [("action_index", .int i), ("action_type", .str a.actionType),
      ("status", .str r.status)])

/-- If all that follows the answer returns, nothing in it raised, the row is written and the
    execution is audited. -/
theorem afterAnswer_ok {env : Env} {p : Principal} {s t : Session} {inv : Investigation}
    (hp : row.tenantId = p.tenantId)
    (h : (afterAnswer f rt env p invId i row a r).run s = .ok inv t) :
    (f.flush = none ∧ f.metering = none ∧ f.audit = none) ∧ Announced env (executionNote row a r) ∧
      ∃ now, t.db.auditLog =
        AuditService.record rt.sha256 now (executedEntry p invId i a r) s.db.auditLog := by
  unfold afterAnswer afterExecution at h
  simp only [run_bind_eq_ok, raiseFault_eq_ok] at h
  obtain ⟨_, _, ⟨hflush, rfl⟩, _, u, hwrite, _, v, ⟨_, _, ⟨hmetering, rfl⟩, _, _, hmeter, _, _,
    ⟨haudit, rfl⟩, _, _, hrec, k, _, hnotify, hret⟩, hret'⟩ := h
  cases hwrite
  cases hmeter
  rw [AuditService.recordEntry_run] at hrec
  cases hrec
  cases hret
  cases hret'
  refine ⟨⟨hflush, hmetering, haudit⟩, ?_, ?_⟩
  · have hnote : Announced env (actionExecutedNotification p.tenantId a.actionType a.target
        (if r.status == "" then "unknown" else r.status)) :=
      (notify_returns_iff env _ _).mp ⟨k, _, hnotify⟩
    unfold executionNote
    rwa [hp]
  · have hkept := (NotificationService.notify_touches (F := [Resource.captured]) env _).moves.of_ok
      hnotify
    exact ⟨_, (hkept .auditLog (by decide)).1⟩

/-- The request commits what it wrote if nothing raised, and nothing otherwise; either way the
    connector has been invoked. -/
theorem after_db (f : Faults) (rt : Runtime) {p : Principal}
    (hp : Admitted w.db w.issued (e.env.now 0) auth .actionApprove p)
    (hrow : ownRow w.db p.tenantId invId = some row) (ha : executableAction i row = .ok a)
    (hr : executorResult e.env.connectors a.actionType a.target = .ok r) :
    (stateOf (respond f rt e.env w auth invId i)).connectorCalls =
        executorCall e.env.connectors a.actionType a.target ∧
      (after f rt e.env w auth invId i).db =
        match (afterAnswer f rt e.env p invId i row a r).run (dispatched e.env a w.session.ticked),
          f.commit with
        | .ok _ t, none => t.db
        | _, _ => w.db := by
  have hrun := executeAction_run f rt (s := w.session) hp hrow ha hr
  have hkept := afterAnswer_touches f rt e.env p invId i row a r
  have hcalls : (stateOf ((executeAction f rt e.env auth invId i).run w.session)).connectorCalls =
      executorCall e.env.connectors a.actionType a.target := by
    rw [hrun]
    exact hkept.same (p := .connectors) (by decide) _
  have hcommitted : (stateOf ((executeAction f rt e.env auth invId i).run w.session)).committed =
      w.db := by
    rw [hrun]
    exact hkept.same (p := .committed) (by decide) _
  rw [← hrun]
  unfold after respond
  rw [EStateM.run_bind]
  cases hres : (executeAction f rt e.env auth invId i).run w.session with
  | error ex t =>
    rw [hres] at hcalls hcommitted
    exact ⟨hcalls, hcommitted⟩
  | ok inv t =>
    rw [hres] at hcalls hcommitted
    cases f.commit with
    | some ex => exact ⟨hcalls, hcommitted⟩
    | none => exact ⟨hcalls, rfl⟩

end Faulty

/-! ## On record -/

/-- The action is stored as executed, with the connector's rollback token, and the audit log
    has one more entry, for this execution. -/
structure OnRecord (w w' : World) (invId : String) (i : Int) (row : InvestigationRow)
    (a : IncidentAction) (r : ExecutionResult) : Prop where
  stored : storedAction w' invId i = some (a.executedWith r)
  audited : ∃ k entry, w'.db.auditLog.rows = w.db.auditLog.rows ++ [(k, entry)] ∧
    entry.action = "action.executed" ∧ entry.tenantId = row.tenantId ∧ entry.targetId = invId ∧
    entry.detail = [("action_index", .int i), ("action_type", .str a.actionType),
      ("status", .str r.status)]

section

variable {f : Faults} {rt : Runtime} {w : World} {e : Event} {auth : Authorization}
  {invId : String} {i : Int} {row : InvestigationRow} {a : IncidentAction} {r : ExecutionResult}

/-- A record that outlives the request means that nothing after the answer raised. -/
theorem OnRecord.no_faults {p : Principal}
    (hp : Admitted w.db w.issued (e.env.now 0) auth .actionApprove p)
    (hrow : ownRow w.db p.tenantId invId = some row) (ha : executableAction i row = .ok a)
    (hr : executorResult e.env.connectors a.actionType a.target = .ok r)
    (h : OnRecord w (Faulty.after f rt e.env w auth invId i) invId i row a r) :
    f = {} ∧ Announced e.env (executionNote row a r) := by
  have hne : (Faulty.after f rt e.env w auth invId i).db ≠ w.db := by
    intro hdb
    obtain ⟨k, entry, hrows, _⟩ := h.audited
    rw [hdb] at hrows
    simp at hrows
  obtain ⟨_, hdb⟩ := Faulty.after_db f rt hp hrow ha hr
  cases hrun : (Faulty.afterAnswer f rt e.env p invId i row a r).run
      (dispatched e.env a w.session.ticked) with
  | error ex t =>
    rw [hrun] at hdb
    exact absurd hdb hne
  | ok inv t =>
    cases hcommit : f.commit with
    | some ex =>
      rw [hrun, hcommit] at hdb
      exact absurd hdb hne
    | none =>
      obtain ⟨⟨hflush, hmetering, haudit⟩, hnote, _⟩ :=
        Faulty.afterAnswer_ok (ownRow_eq_some.mp hrow).2 hrun
      refine ⟨?_, hnote⟩
      cases f
      cases hflush
      cases hmetering
      cases haudit
      cases hcommit
      rfl

/-- Where nothing raises, the execution is on record. -/
theorem onRecord_of_announced {p : Principal}
    (hp : Admitted w.db w.issued (e.env.now 0) auth .actionApprove p)
    (hrow : ownRow w.db p.tenantId invId = some row) (ha : executableAction i row = .ok a)
    (hr : executorResult e.env.connectors a.actionType a.target = .ok r)
    (hnote : Announced e.env (executionNote row a r)) :
    OnRecord w (Faulty.after {} rt e.env w auth invId i) invId i row a r := by
  have hof := (ownRow_eq_some.mp hrow).2
  obtain ⟨u, t, hafter⟩ := (afterExecution_returns_iff rt e.env p invId i row a r
    (flushed (executeRow i a r row) (dispatched e.env a w.session.ticked)) hof).mpr hnote
  have hrun : (Faulty.afterAnswer {} rt e.env p invId i row a r).run
      (dispatched e.env a w.session.ticked) = .ok (executeRow i a r row).payload t :=
    run_bind_ok hafter
  obtain ⟨_, hdb⟩ := Faulty.after_db {} rt hp hrow ha hr
  rw [hrun] at hdb
  have hrow' : (Faulty.after {} rt e.env w auth invId i).db = t.db := hdb
  constructor
  · have hkept := (afterExecution_keeps rt e.env p invId i (a.executedWith r)
      (flushed (executeRow i a r row) (dispatched e.env a w.session.ticked))).1
    rw [hafter] at hkept
    have hfind : t.db.investigations.find? invId = some (executeRow i a r row) := by
      rw [show t.db.investigations = _ from hkept.1]
      have hid := (executeRow_fixed i a r row).id
      have hwritten := (find_written (ownRow_eq_some.mp hrow).1 hid).1
      rw [← hid] at hwritten
      exact hwritten
    refine (storedAction_of_find? ?_ i).trans (actionAt_executeRow (executableAction_ok.mp ha).1)
    rw [hrow']
    exact hfind
  · obtain ⟨_, _, now, haudit⟩ := Faulty.afterAnswer_ok hof hrun
    have hrows : t.db.auditLog.rows = _ := (congrArg AutoTable.rows haudit).trans
      (AutoTable.insert_rows _ _)
    rw [← hrow'] at hrows
    exact ⟨_, _, hrows, rfl, hof.symm, rfl, rfl⟩

end

/-- An execution whose connector answered is on record exactly when nothing that follows the
    answer raises: not the flush, the metering, the audit entry or the commit, and no
    channel. The connector has been invoked in any case. -/
theorem effect_on_record_iff (f : Faults) (rt : Runtime) (w : World) (e : Event)
    (auth : Authorization) (invId : String) (i : Int) (row : InvestigationRow)
    (a : IncidentAction) (c : ActionConnector) (r : ExecutionResult)
    (he : e.request = .case auth invId (.execute i)) (h : Reaches w e invId i row a)
    (hc : supportingConnector e.env.connectors a.actionType = some c)
    (hr : c.execute a.actionType a.target = .ok r) :
    (stateOf (Faulty.respond f rt e.env w auth invId i)).connectorCalls =
        [⟨a.actionType, a.target⟩] ∧
      (Faulty.after {} rt e.env w auth invId i = step rt w e) ∧
      (OnRecord w (Faulty.after f rt e.env w auth invId i) invId i row a r ↔
        f = {} ∧ Announced e.env (executionNote row a r)) := by
  obtain ⟨auth', p, he', hp, hrow, ha⟩ := h
  cases he.symm.trans he'
  have hresult : executorResult e.env.connectors a.actionType a.target = .ok r := by
    unfold executorResult
    rw [hc]
    exact hr
  refine ⟨?_, Faulty.after_none he, fun hon => hon.no_faults hp hrow ha hresult, ?_⟩
  · rw [(Faulty.after_db f rt hp hrow ha hresult).1]
    unfold executorCall
    rw [hc]
  · rintro ⟨rfl, hnote⟩
    exact onRecord_of_announced hp hrow ha hresult hnote

/-! ## A channel that raises -/

/-- The approved action of the small case. -/
def approvedAction : IncidentAction := { gatedAction with requiresApproval := false }

/-- Its execution, announced over the given channels. -/
def executeOver (channels : List NotificationChannel) : Event where
  env := { (caseEvent (.execute 0)).env with channels := channels }
  request := (caseEvent (.execute 0)).request

/-- What the connector answers. -/
def isolated : ExecutionResult where
  actionType := "isolate_host"
  target := "ws-finance-07"
  status := "success"
  detail := "EDR: isolate_host applied to ws-finance-07"
  rollbackToken := some "rb-isolate_host-ws-finance-07"

theorem executeOver_reaches (channels : List NotificationChannel) :
    Reaches (caseWorld [approvedAction]) (executeOver channels) "INV-1" 0
      (openCase [approvedAction]) approvedAction :=
  ⟨_, _, rfl, caseWorld_admitted (r := .execute 0) (by decide), by decide, by decide⟩

/-- The capture channel raises nothing. -/
theorem effect_on_record_capture :
    (stateOf (Faulty.respond {} .plain (executeOver [.capture]).env (caseWorld [approvedAction])
        (.bearer responderToken) "INV-1" 0)).connectorCalls =
        [⟨"isolate_host", "ws-finance-07"⟩] ∧
      (Faulty.after {} .plain (executeOver [.capture]).env (caseWorld [approvedAction])
        (.bearer responderToken) "INV-1" 0 =
          step .plain (caseWorld [approvedAction]) (executeOver [.capture])) ∧
      (OnRecord (caseWorld [approvedAction])
          (Faulty.after {} .plain (executeOver [.capture]).env (caseWorld [approvedAction])
            (.bearer responderToken) "INV-1" 0) "INV-1" 0 (openCase [approvedAction])
          approvedAction isolated ↔
        ({} : Faults) = {} ∧ Announced (executeOver [.capture]).env
          (executionNote (openCase [approvedAction]) approvedAction isolated)) :=
  effect_on_record_iff {} .plain (caseWorld [approvedAction]) (executeOver [.capture])
    (.bearer responderToken) "INV-1" 0 (openCase [approvedAction]) approvedAction mockConnector
    isolated rfl (executeOver_reaches _) rfl (by decide)

/-- A webhook raises: the host is isolated, and neither the action nor the audit log says so. -/
theorem effect_lost :
    ¬ ∀ (rt : Runtime) (w : World) (e : Event) (invId : String) (i : Int)
      (row : InvestigationRow) (a : IncidentAction) (r : ExecutionResult),
      Reaches w e invId i row a →
      executorResult e.env.connectors a.actionType a.target = .ok r →
      connectorCalls rt w e = [⟨a.actionType, a.target⟩] →
      OnRecord w (step rt w e) invId i row a r := by
  intro h
  let channels : List NotificationChannel := [.webhook fun _ => .error (.other "InvalidURL")]
  have hreach := executeOver_reaches channels
  have hon := h .plain (caseWorld [approvedAction]) (executeOver channels) "INV-1" 0
    (openCase [approvedAction]) approvedAction isolated hreach rfl (hreach.step .plain).1
  obtain ⟨auth, p, he, hp, hrow, ha⟩ := hreach
  rw [← Faulty.after_none he] at hon
  obtain ⟨_, hnote⟩ := hon.no_faults hp hrow ha rfl
  obtain ⟨b, hb⟩ := hnote _ (List.mem_singleton_self _)
  cases hb

end SentinelAI
