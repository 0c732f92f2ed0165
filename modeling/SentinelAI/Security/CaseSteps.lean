import SentinelAI.Security.Admission
import SentinelAI.Security.CaseOps
import SentinelAI.Security.RequestFootprints

/-
  Requests on a case, as steps of the world. An answered approve, execute, assign or status
  request rewrites the row its operation computes; one that is not answered leaves the rows.
  An execute request invokes a connector exactly when it reaches an approved action.
-/

namespace SentinelAI

open Lib

/-! ## Announcing an execution -/

/-- Every channel takes the notification without raising. -/
def Announced (env : Env) (n : Notification) : Prop :=
  ∀ send, NotificationChannel.webhook send ∈ env.channels → ∃ b, send n = .ok b

/-- What the channels are sent after an execution. -/
def executionNote (row : InvestigationRow) (a : IncidentAction) (r : ExecutionResult) :
    Notification :=
  actionExecutedNotification row.tenantId a.actionType a.target
    (if r.status == "" then "unknown" else r.status)

theorem deliver_returns {n : Notification} {c : NotificationChannel} {s : Session}
    (h : ∀ send, c = .webhook send → ∃ b, send n = .ok b) :
    ∃ b t, (NotificationChannel.deliver n c).run s = .ok b t := by
  cases c with
  | capture => exact ⟨_, _, rfl⟩
  | webhook send =>
    obtain ⟨b, hb⟩ := h send rfl
    exact ⟨b, s, ofExcept_eq_ok.mpr ⟨hb, rfl⟩⟩

theorem mapM_deliver_returns {n : Notification} : ∀ {cs : List NotificationChannel} {s : Session},
    (∀ send, NotificationChannel.webhook send ∈ cs → ∃ b, send n = .ok b) →
    ∃ bs t, (cs.mapM (NotificationChannel.deliver n)).run s = .ok bs t
  | [], s, _ => ⟨[], s, by rw [List.mapM_nil]; rfl⟩
  | c :: cs, s, h => by
      obtain ⟨b, t, hc⟩ := deliver_returns (s := s) fun send hc => h send (hc ▸ List.mem_cons_self ..)
      obtain ⟨bs, t', hcs⟩ := mapM_deliver_returns (s := t) fun send hm =>
        h send (List.mem_cons_of_mem _ hm)
      exact ⟨b :: bs, t', by rw [List.mapM_cons, run_bind_ok hc, run_bind_ok hcs]; rfl⟩

theorem mapM_deliver_ok {n : Notification} : ∀ {cs : List NotificationChannel} {s t : Session}
    {bs : List Bool}, (cs.mapM (NotificationChannel.deliver n)).run s = .ok bs t →
    ∀ send, NotificationChannel.webhook send ∈ cs → ∃ b, send n = .ok b
  | [], _, _, _, _ => fun _ hm => by cases hm
  | c :: cs, s, t, bs, h => by
      rw [List.mapM_cons] at h
      obtain ⟨b, u, hc, h⟩ := run_bind_eq_ok.mp h
      obtain ⟨bs', u', hcs, _⟩ := run_bind_eq_ok.mp h
      intro send hm
      rcases List.mem_cons.mp hm with rfl | hm
      · exact ⟨b, (ofExcept_eq_ok.mp hc).1⟩
      · exact mapM_deliver_ok hcs send hm

/-- A notification goes out exactly when no channel raises. -/
theorem notify_returns_iff (env : Env) (n : Notification) (s : Session) :
    (∃ k t, (NotificationService.notify env n).run s = .ok k t) ↔ Announced env n := by
  constructor
  · rintro ⟨k, t, h⟩
    obtain ⟨bs, u, hbs, _⟩ := run_bind_eq_ok.mp h
    exact mapM_deliver_ok hbs
  · intro h
    obtain ⟨bs, t, hbs⟩ := mapM_deliver_returns (s := s) h
    exact ⟨_, t, run_bind_ok hbs⟩

/-- So does all that follows an execution. -/
theorem afterExecution_returns_iff (rt : Runtime) (env : Env) (p : Principal) (invId : String)
    (i : Int) (row : InvestigationRow) (a : IncidentAction) (r : ExecutionResult) (s : Session)
    (hp : row.tenantId = p.tenantId) :
    (∃ u t, (Routes.afterExecution rt env p invId i (a.executedWith r)).run s = .ok u t) ↔
      Announced env (executionNote row a r) := by
  have hmeter : ∃ o t, (MeteringService.record rt env p.tenantId kindAction 1
      (a.executedWith r).actionType).run s = .ok o t := ⟨_, _, rfl⟩
  obtain ⟨o, t, hmeter⟩ := hmeter
  rw [← notify_returns_iff env (executionNote row a r)
    (stateOf ((AuditService.recordEntry rt env (Routes.investigationEntry p "action.executed" invId
      (some [("action_index", .int i), ("action_type", .str (a.executedWith r).actionType),
        ("status", Routes.optionJson (a.executedWith r).executionStatus)]))).run t))]
  unfold Routes.afterExecution
  rw [run_bind_ok hmeter, run_bind_ok (AuditService.recordEntry_run ..)]
  unfold executionNote
  rw [hp]
  constructor
  · rintro ⟨u, t', h⟩
    obtain ⟨k, t'', hk, _⟩ := run_bind_eq_ok.mp h
    exact ⟨k, t'', hk⟩
  · rintro ⟨k, t', hk⟩
    exact ⟨(), t', run_bind_ok hk⟩

/-! ## Execute requests -/

/-- An execute request that reaches an approved action: admitted, the investigation its
    tenant's, the index in range, the action not waiting for approval. -/
def Reaches (w : World) (e : Event) (invId : String) (i : Int) (row : InvestigationRow)
    (a : IncidentAction) : Prop :=
  ∃ auth p, e.request = .case auth invId (.execute i) ∧
    Admitted w.db w.issued (e.env.now 0) auth .actionApprove p ∧
    ownRow w.db p.tenantId invId = some row ∧ executableAction i row = .ok a

theorem executableAction_ok {i : Int} {row : InvestigationRow} {a : IncidentAction} :
    executableAction i row = .ok a ↔ actionAt row.payload i = some a ∧ a.requiresApproval = false := by
  unfold executableAction
  cases actionAt row.payload i with
  | none => simp
  | some b =>
    cases hb : b.requiresApproval with
    | true =>
      refine ⟨fun h => by simp [hb] at h, ?_⟩
      rintro ⟨h, ha⟩
      cases h
      rw [hb] at ha
      cases ha
    | false =>
      simp only [hb, Bool.false_eq_true, if_false, Except.ok.injEq, Option.some.injEq]
      constructor
      · rintro rfl
        exact ⟨rfl, hb⟩
      · exact And.left

theorem Reaches.row_eq {w : World} {e : Event} {invId : String} {i : Int} {row : InvestigationRow}
    {a : IncidentAction} (h : Reaches w e invId i row a) :
    w.db.investigations.find? invId = some row := by
  obtain ⟨_, _, _, _, hrow, _⟩ := h
  exact (ownRow_eq_some.mp hrow).1

theorem Reaches.action {w : World} {e : Event} {invId : String} {i : Int} {row : InvestigationRow}
    {a : IncidentAction} (h : Reaches w e invId i row a) :
    actionAt row.payload i = some a ∧ a.requiresApproval = false := by
  obtain ⟨_, _, _, _, _, ha⟩ := h
  exact executableAction_ok.mp ha

section

variable (rt : Runtime) {w : World} {e : Event} {invId : String} {i : Int}
  {row : InvestigationRow} {a : IncidentAction}

/-- The route once its action is reached: dispatch, flush, and what follows. -/
theorem executeAction_run {env : Env} {auth : Authorization} {p : Principal} {s : Session}
    (hp : Admitted s.db s.issued (env.now s.ticks) auth .actionApprove p)
    (hrow : ownRow s.db p.tenantId invId = some row) (ha : executableAction i row = .ok a) :
    (Routes.executeAction rt env auth invId i).run s =
      match executorResult env.connectors a.actionType a.target with
      | .error ex => .error ex (dispatched env a s.ticked)
      | .ok r => (do
          Routes.afterExecution rt env p invId i (a.executedWith r)
          return (executeRow i a r row).payload : ApiM Investigation).run
          (flushed (executeRow i a r row) (dispatched env a s.ticked)) := by
  have hexec := InvestigationRepository.executeAction_run env p.tenantId invId i s.ticked
  rw [show ownRow s.ticked.db p.tenantId invId = some row from hrow] at hexec
  simp only [ha] at hexec
  unfold Routes.executeAction
  rw [run_bind_ok (require_eq_ok.mpr ⟨hp, rfl⟩)]
  cases hr : executorResult env.connectors a.actionType a.target with
  | error ex =>
    rw [hr] at hexec
    exact run_bind_error hexec
  | ok r =>
    rw [hr] at hexec
    rw [run_bind_ok hexec]
    have hat : actionAt (executeRow i a r row).payload i = some (a.executedWith r) :=
      actionAt_executeRow (executableAction_ok.mp ha).1
    exact run_bind_ok (orRaise_eq_ok.mpr ⟨hat, rfl⟩)

/-- A request that raised leaves the rows. -/
theorem raised (hc : .committed ∉ footprint e.request) {ex : Exc} {t : Session}
    (h : handled rt w e = .error ex t) : succeeds rt w e = false ∧ (step rt w e).db = w.db := by
  constructor
  · rw [← Bool.not_eq_true, succeeds_iff]
    rintro ⟨body, t', h'⟩
    rw [h] at h'
    cases h'
  · obtain ⟨body, t', h', _⟩ | ⟨_, hdb⟩ := step_db rt hc
    · rw [h] at h'
      cases h'
    · exact hdb

theorem handled_execute {auth : Authorization} (he : e.request = .case auth invId (.execute i)) :
    handled rt w e = (Body.investigation <$> Routes.executeAction rt e.env auth invId i).run
      (.start w.db w.captured w.issued) := handled_map he rfl

/-- What follows an execution keeps the investigations and invokes no connector. -/
theorem afterExecution_keeps (env : Env) (p : Principal) (id : String) (j : Int)
    (b : IncidentAction) (s : Session) :
    KeptTable Database.investigations s
      (stateOf ((Routes.afterExecution rt env p id j b).run s)) ∧
    (stateOf ((Routes.afterExecution rt env p id j b).run s)).connectorCalls =
      s.connectorCalls := by
  have h := Routes.afterExecution_touches (F := ([] : List Part)) rt env p id j b
  exact ⟨h.same (p := .investigations) List.not_mem_nil s,
    h.same (p := .connectors) List.not_mem_nil s⟩

/-- The session of a request that reaches its action, once the executor has answered and the
    row is flushed. -/
def executedSession (w : World) (e : Event) (i : Int) (row : InvestigationRow)
    (a : IncidentAction) (r : ExecutionResult) : Session :=
  flushed (executeRow i a r row)
    (dispatched e.env a (Session.start w.db w.captured w.issued).ticked)

/-- A reaching request raises if the executor does, or if what follows the execution does. -/
theorem Reaches.handled_cases (h : Reaches w e invId i row a) :
    (∃ ex, executorResult e.env.connectors a.actionType a.target = .error ex ∧
      handled rt w e =
        .error ex (dispatched e.env a (Session.start w.db w.captured w.issued).ticked)) ∨
    ∃ r p, executorResult e.env.connectors a.actionType a.target = .ok r ∧
      row.tenantId = p.tenantId ∧
      ((∃ t, (Routes.afterExecution rt e.env p invId i (a.executedWith r)).run
          (executedSession w e i row a r) = .ok () t ∧
          handled rt w e = .ok (.investigation (executeRow i a r row).payload) t) ∨
        ∃ ex t, (Routes.afterExecution rt e.env p invId i (a.executedWith r)).run
          (executedSession w e i row a r) = .error ex t ∧ handled rt w e = .error ex t) := by
  obtain ⟨auth, p, he, hp, hrow, ha⟩ := h
  have hrun := executeAction_run rt (s := .start w.db w.captured w.issued) hp hrow ha
  rw [handled_execute rt he]
  cases hr : executorResult e.env.connectors a.actionType a.target with
  | error ex =>
    rw [hr] at hrun
    exact Or.inl ⟨ex, rfl, run_bind_error hrun⟩
  | ok r =>
    rw [hr] at hrun
    refine Or.inr ⟨r, p, rfl, (ownRow_eq_some.mp hrow).2, ?_⟩
    cases hres : (Routes.afterExecution rt e.env p invId i (a.executedWith r)).run
      (executedSession w e i row a r) with
    | ok u t => exact Or.inl ⟨t, rfl, run_bind_ok (hrun.trans (run_bind_ok hres))⟩
    | error ex t => exact Or.inr ⟨ex, t, rfl, run_bind_error (hrun.trans (run_bind_error hres))⟩

/-- What a reaching request does: it invokes the connector, if there is one, and either
    stores the executed action or, if an answer or a channel raised, leaves the rows. -/
theorem Reaches.step (h : Reaches w e invId i row a) :
    connectorCalls rt w e = executorCall e.env.connectors a.actionType a.target ∧
    ((∃ r, executorResult e.env.connectors a.actionType a.target = .ok r ∧
        Announced e.env (executionNote row a r) ∧ succeeds rt w e = true ∧
        (step rt w e).db.investigations =
          w.db.investigations.modify row.id (executeRow i a r row).write
            (executeRow i a r row).write_key) ∨
      ((∀ r, executorResult e.env.connectors a.actionType a.target = .ok r →
          ¬ Announced e.env (executionNote row a r)) ∧
        succeeds rt w e = false ∧ (step rt w e).db = w.db)) := by
  have hcommitted : .committed ∉ footprint e.request := by
    obtain ⟨auth, p, he, _⟩ := id h
    exact committed_case he
  obtain ⟨ex, hr, hh⟩ | ⟨r, p, hr, hp, hafter⟩ := h.handled_cases rt
  · refine ⟨?_, Or.inr ⟨fun r hr' => ?_, raised rt hcommitted hh⟩⟩
    · rw [connectorCalls_eq, hh]
      rfl
    · rw [hr] at hr'
      cases hr'
  have hiff := afterExecution_returns_iff rt e.env p invId i row a r
    (executedSession w e i row a r) hp
  obtain ⟨hkept, hcalls⟩ := afterExecution_keeps rt e.env p invId i (a.executedWith r)
    (executedSession w e i row a r)
  obtain ⟨t, hres, hh⟩ | ⟨ex, t, hres, hh⟩ := hafter
  · rw [hres] at hkept hcalls
    refine ⟨?_, Or.inl ⟨r, hr, hiff.mp ⟨(), t, hres⟩, (succeeds_iff rt w e).mpr ⟨_, t, hh⟩, ?_⟩⟩
    · rw [connectorCalls_eq, hh]
      exact hcalls
    · rw [step_eq, hh]
      refine hkept.1.trans ?_
      rw [← (executeRow_fixed i a r row).id]
      rfl
  · rw [hres] at hcalls
    refine ⟨?_, Or.inr ⟨fun r' hr' hann => ?_, raised rt hcommitted hh⟩⟩
    · rw [connectorCalls_eq, hh]
      exact hcalls
    · rw [hr] at hr'
      cases hr'
      obtain ⟨u, t', hok⟩ := hiff.mpr hann
      rw [hres] at hok
      cases hok

/-- The route when no action is reached: it raises before the executor. -/
theorem executeAction_unreached {auth : Authorization} {env : Env} {s : Session}
    (h : ∀ p row a, Admitted s.db s.issued (env.now s.ticks) auth .actionApprove p →
      ownRow s.db p.tenantId invId = some row → executableAction i row ≠ .ok a) :
    ∃ ex t, (Routes.executeAction rt env auth invId i).run s = .error ex t ∧
      t.connectorCalls = s.connectorCalls := by
  have hreq := (Deps.require_touches (F := ([] : List Part)) env auth .actionApprove).same
    (p := .connectors) List.not_mem_nil s
  unfold Routes.executeAction
  cases hp : (Deps.require env auth .actionApprove).run s with
  | error ex t =>
    rw [hp] at hreq
    exact ⟨ex, t, run_bind_error hp, hreq⟩
  | ok p t =>
    obtain ⟨hadm, rfl⟩ := require_eq_ok.mp hp
    rw [run_bind_ok hp]
    have hexec := InvestigationRepository.executeAction_run env p.tenantId invId i s.ticked
    cases hrow : ownRow s.ticked.db p.tenantId invId with
    | none =>
      rw [hrow] at hexec
      exact ⟨_, _, run_bind_ok hexec, rfl⟩
    | some row =>
      cases ha : executableAction i row with
      | error ce =>
        simp only [hrow, ha] at hexec
        exact ⟨_, _, run_bind_ok hexec, rfl⟩
      | ok a => exact absurd ha (h p row a hadm hrow)

/-- An execute request reaches an action, or invokes nothing, raises and leaves the rows. -/
theorem reaches_or {auth : Authorization} (he : e.request = .case auth invId (.execute i)) :
    (∃ row a, Reaches w e invId i row a) ∨
      (connectorCalls rt w e = [] ∧ succeeds rt w e = false ∧ (step rt w e).db = w.db) := by
  by_cases hreach : ∃ row a, Reaches w e invId i row a
  · exact Or.inl hreach
  · have hun : ∃ ex t, (Routes.executeAction rt e.env auth invId i).run
        (.start w.db w.captured w.issued) = .error ex t ∧ t.connectorCalls = [] :=
      executeAction_unreached rt fun p row a hp hrow ha =>
        hreach ⟨row, a, auth, p, he, hp, hrow, ha⟩
    obtain ⟨ex, t, hrun, hcalls⟩ := hun
    have hh := (handled_execute rt he).trans (run_bind_error hrun)
    refine Or.inr ⟨?_, raised rt (committed_case he) hh⟩
    rw [connectorCalls_eq, hh]
    exact hcalls

end

/-! ## Requests on a row -/

/-- The operation on the row a case request stands for; a note writes none. -/
def CaseRequest.op (env : Env) : CaseRequest → Option CaseOp
  | .approve i => some (.approve i)
  | .execute i => some (.execute i env.connectors)
  | .status target => some (.transition target (env.now 1))
  | .assign assignee => some (.assign assignee)
  | .note _ => none

/-- The permission a case request needs. -/
def CaseRequest.permission : CaseRequest → Permission
  | .approve _ => .actionApprove
  | .execute _ => .actionApprove
  | _ => .caseWrite

/-- A case request that is answered has written the row its operation computes from the row
    of the caller's tenant. -/
def Writes (rt : Runtime) (w : World) (e : Event) (auth : Authorization) (invId : String)
    (r : CaseRequest) (op : CaseOp) : Prop :=
  ∃ p row new, Admitted w.db w.issued (e.env.now 0) auth r.permission p ∧
    ownRow w.db p.tenantId invId = some row ∧ op.compute row = some new ∧
    succeeds rt w e = true ∧
    (step rt w e).db.investigations =
      w.db.investigations.modify row.id new.write new.write_key

/-- Where a computed row is found after its write; the other rows stay. -/
theorem find_written {t : KeyedTable InvestigationRow} {invId : String}
    {row new : InvestigationRow} (hrow : t.find? invId = some row) (hid : new.id = row.id) :
    (t.modify row.id new.write new.write_key).find? invId = some new ∧
      ∀ id, id ≠ invId → (t.modify row.id new.write new.write_key).find? id = t.find? id := by
  have hkey : row.id = invId := ((t.find?_eq_some invId row).mp hrow).2
  rw [hkey]
  refine ⟨?_, fun id hne => KeyedTable.find?_modify_ne new.write_key hne⟩
  rw [KeyedTable.find?_modify_self new.write_key hrow, InvestigationRow.write, ← hid]

/-- The rows after a request that writes. -/
theorem Writes.rows {rt : Runtime} {w : World} {e : Event} {auth : Authorization} {invId : String}
    {r : CaseRequest} {op : CaseOp} (h : Writes rt w e auth invId r op) :
    ∃ row new, w.db.investigations.find? invId = some row ∧ op.compute row = some new ∧
      (step rt w e).db.investigations.find? invId = some new ∧
      ∀ id, id ≠ invId →
        (step rt w e).db.investigations.find? id = w.db.investigations.find? id := by
  obtain ⟨p, row, new, _, hrow, hnew, _, hdb⟩ := h
  obtain ⟨hfind, _⟩ := ownRow_eq_some.mp hrow
  rw [hdb]
  obtain ⟨hself, hother⟩ := find_written hfind (compute_fixed hnew).id
  exact ⟨row, new, hfind, hnew, hself, hother⟩

section

variable {rt : Runtime} {w : World} {e : Event} {auth : Authorization} {invId : String}

/-- What an answered request's session holds for the investigations, if its last part only
    audits. -/
theorem answered {row new : InvestigationRow} {s t : Session} {body : Body} {β : Type}
    {m : ApiM β} (h : handled rt w e = .ok body t) (hm : Touches ([] : List Part) m) {b : β}
    (hrun : m.run (flushed new s) = .ok b t) (hs : s.db = w.db) (hid : new.id = row.id) :
    succeeds rt w e = true ∧ (step rt w e).db.investigations =
      w.db.investigations.modify row.id new.write new.write_key := by
  refine ⟨(succeeds_iff rt w e).mpr ⟨body, t, h⟩, ?_⟩
  have hkept : KeptTable Database.investigations (flushed new s) t := by
    have := hm.same (p := .investigations) List.not_mem_nil (flushed new s)
    rwa [hrun] at this
  rw [step_eq, h]
  show t.db.investigations = _
  rw [hkept.1, ← hs, ← hid]
  rfl

theorem approve_writes {i : Int} (he : e.request = .case auth invId (.approve i)) {body : Body}
    {t : Session} (h : handled rt w e = .ok body t) :
    Writes rt w e auth invId (.approve i) (.approve i) := by
  have hrun := h
  obtain ⟨inv, hroute, rfl⟩ := (handled_eq_ok he rfl).mp hrun
  unfold Routes.approveAction at hroute
  obtain ⟨p, u, hp, hroute⟩ := run_bind_eq_ok.mp hroute
  obtain ⟨hadm, rfl⟩ := require_eq_ok.mp hp
  obtain ⟨o, u, ho, hroute⟩ := run_bind_eq_ok.mp hroute
  obtain ⟨x, v, hx, hroute⟩ := run_bind_eq_ok.mp hroute
  obtain ⟨rfl, rfl⟩ := orRaise_eq_ok.mp hx
  obtain ⟨row, new, hrow, hnew, rfl⟩ := InvestigationRepository.approveAction_ok ho
  have hid : new.id = row.id := (compute_fixed (show (CaseOp.approve i).compute row = some new from hnew)).id
  exact ⟨p, row, new, hadm, hrow, hnew, answered h (by grind) hroute rfl hid⟩

theorem assign_writes {assignee : Option String}
    (he : e.request = .case auth invId (.assign assignee)) {body : Body} {t : Session}
    (h : handled rt w e = .ok body t) :
    Writes rt w e auth invId (.assign assignee) (.assign assignee) := by
  have hrun := h
  obtain ⟨inv, hroute, rfl⟩ := (handled_eq_ok he rfl).mp hrun
  unfold Routes.assignInvestigation at hroute
  obtain ⟨p, u, hp, hroute⟩ := run_bind_eq_ok.mp hroute
  obtain ⟨hadm, rfl⟩ := require_eq_ok.mp hp
  obtain ⟨o, u, ho, hroute⟩ := run_bind_eq_ok.mp hroute
  obtain ⟨x, v, hx, hroute⟩ := run_bind_eq_ok.mp hroute
  obtain ⟨rfl, rfl⟩ := orRaise_eq_ok.mp hx
  obtain ⟨row, hrow, rfl⟩ := InvestigationRepository.setAssignee_ok ho
  exact ⟨p, row, setAssigneeRow assignee row, hadm, hrow, rfl,
    answered h (by grind) hroute rfl rfl⟩

theorem status_writes {target : String} (he : e.request = .case auth invId (.status target))
    {body : Body} {t : Session} (h : handled rt w e = .ok body t) :
    Writes rt w e auth invId (.status target) (.transition target (e.env.now 1)) := by
  have hrun := h
  obtain ⟨inv, hroute, rfl⟩ := (handled_eq_ok he rfl).mp hrun
  unfold Routes.transitionStatus at hroute
  obtain ⟨p, u, hp, hroute⟩ := run_bind_eq_ok.mp hroute
  obtain ⟨hadm, rfl⟩ := require_eq_ok.mp hp
  obtain ⟨o, u, ho, hroute⟩ := run_bind_eq_ok.mp hroute
  cases o with
  | error ce => cases hroute
  | ok x =>
    obtain ⟨row, status, hrow, hl, rfl⟩ := CaseWorkflowMixin.transitionStatus_ok ho
    exact ⟨p, row, transitionRow status (e.env.now 1) row, hadm, hrow,
      transition_compute.mpr ⟨status, hl, rfl⟩, answered h (by grind) hroute rfl rfl⟩

theorem execute_writes {i : Int} (he : e.request = .case auth invId (.execute i)) {body : Body}
    {t : Session} (h : handled rt w e = .ok body t) :
    Writes rt w e auth invId (.execute i) (.execute i e.env.connectors) := by
  have hs : succeeds rt w e = true := (succeeds_iff rt w e).mpr ⟨body, t, h⟩
  obtain ⟨row, a, hreach⟩ | ⟨_, hf, _⟩ := reaches_or rt (w := w) he
  · obtain ⟨_, ⟨r, hr, _, _, hdb⟩ | ⟨_, hf, _⟩⟩ := hreach.step rt
    · obtain ⟨auth', p, he', hadm, hrow, ha⟩ := hreach
      rw [he] at he'
      cases he'
      obtain ⟨hat, hap⟩ := executableAction_ok.mp ha
      exact ⟨p, row, executeRow i a r row, hadm, hrow,
        execute_compute.mpr ⟨a, r, hat, hap, hr, rfl⟩, hs, hdb⟩
    · rw [hs] at hf
      cases hf
  · rw [hs] at hf
    cases hf

end

/-- Every case request either writes or leaves the rows. -/
theorem case_step (rt : Runtime) {w : World} {e : Event} {auth : Authorization} {invId : String}
    {r : CaseRequest} {op : CaseOp} (he : e.request = .case auth invId r)
    (hop : r.op e.env = some op) :
    Writes rt w e auth invId r op ∨ (succeeds rt w e = false ∧ (step rt w e).db = w.db) := by
  cases hres : handled rt w e with
  | error ex t => exact Or.inr (raised rt (committed_case he) hres)
  | ok body t =>
    left
    cases r with
    | approve i =>
      cases hop
      exact approve_writes he hres
    | execute i =>
      cases hop
      exact execute_writes he hres
    | status target =>
      cases hop
      exact status_writes he hres
    | assign assignee =>
      cases hop
      exact assign_writes he hres
    | note body => cases hop

/-! ## An action from request to request -/

/-- The stored action at an index of an investigation. -/
def storedAction (w : World) (invId : String) (i : Int) : Option IncidentAction :=
  (w.db.investigations.find? invId).bind fun row => actionAt row.payload i

/-- What a request makes of a stored action: its type stays, it stops waiting for approval
    only if the request approved it, and an executed action stays executed. -/
structure ActionAfter (rt : Runtime) (w : World) (e : Event) (invId : String) (i : Int)
    (a b : IncidentAction) : Prop where
  actionType : b.actionType = a.actionType
  waiting : b.requiresApproval = a.requiresApproval ∨
    (∃ auth, e.request = .case auth invId (.approve i)) ∧ succeeds rt w e = true
  executed : a.executed = true → b.executed = true

/-- What became of the stored action at an index. -/
def StoredAfter (rt : Runtime) (w : World) (e : Event) (invId : String) (i : Int) : Prop :=
  (storedAction w invId i = none ∧ storedAction (step rt w e) invId i = none) ∨
    ∃ a b, storedAction w invId i = some a ∧ storedAction (step rt w e) invId i = some b ∧
      ActionAfter rt w e invId i a b

theorem storedAfter_of_same {rt : Runtime} {w : World} {e : Event} {invId : String} {i : Int}
    (h : (step rt w e).db.investigations.find? invId = w.db.investigations.find? invId) :
    StoredAfter rt w e invId i := by
  have hs : storedAction (step rt w e) invId i = storedAction w invId i := by
    unfold storedAction
    rw [h]
  unfold StoredAfter
  rw [hs]
  cases ha : storedAction w invId i with
  | none => exact Or.inl ⟨rfl, rfl⟩
  | some a => exact Or.inr ⟨a, a, rfl, rfl, ⟨rfl, Or.inl rfl, id⟩⟩

theorem storedAction_of_find? {w : World} {invId : String} {row : InvestigationRow}
    (h : w.db.investigations.find? invId = some row) (i : Int) :
    storedAction w invId i = actionAt row.payload i := by
  unfold storedAction
  rw [h]
  rfl

/-- A request that writes keeps the actions of its investigation. -/
theorem Writes.storedAfter {rt : Runtime} {w : World} {e : Event} {auth : Authorization}
    {id : String} {r : CaseRequest} {op : CaseOp} (h : Writes rt w e auth id r op)
    (hr : e.request = .case auth id r) (hop : r.op e.env = some op) (invId : String) (i : Int) :
    StoredAfter rt w e invId i := by
  have hsucc : succeeds rt w e = true := by
    obtain ⟨_, _, _, _, _, _, hs, _⟩ := h
    exact hs
  obtain ⟨row, new, hrow, hnew, hself, hother⟩ := h.rows
  by_cases hid : invId = id
  · subst hid
    unfold StoredAfter
    rw [storedAction_of_find? hrow, storedAction_of_find? hself]
    refine (compute_kept hnew i).imp_right ?_
    rintro ⟨a, b, ha, hb, hk⟩
    refine ⟨a, b, ha, hb, ⟨hk.actionType, hk.waiting.imp_right fun hap => ?_, hk.executed⟩⟩
    subst hap
    cases r with
    | approve j =>
      cases hop
      exact ⟨⟨auth, hr⟩, hsucc⟩
    | _ => cases hop
  · exact storedAfter_of_same (hother invId hid)

/-- Every request but a run of the pipeline keeps the stored actions. -/
theorem storedAction_step (rt : Runtime) {w : World} {e : Event}
    (he : ∀ auth, e.request ≠ .runInvestigations auth) (invId : String) (i : Int) :
    StoredAfter rt w e invId i := by
  by_cases hf : Part.investigations ∈ footprint e.request
  · obtain ⟨auth, hr⟩ | ⟨auth, id, r, hr, hnote⟩ := investigations_footprint hf
    · exact absurd hr (he auth)
    · cases hop : r.op e.env with
      | none =>
        cases r with
        | note body => exact absurd rfl (hnote body)
        | _ => cases hop
      | some op =>
        obtain hw | ⟨_, hdb⟩ := case_step rt hr hop
        · exact hw.storedAfter hr hop invId i
        · exact storedAfter_of_same (by rw [hdb])
  · exact storedAfter_of_same (by rw [step_investigations hf])

/-- An execution reaches the stored action. -/
theorem Reaches.storedAction {w : World} {e : Event} {invId : String} {i : Int}
    {row : InvestigationRow} {a : IncidentAction} (h : Reaches w e invId i row a) :
    storedAction w invId i = some a :=
  (storedAction_of_find? h.row_eq i).trans h.action.1

/-! ## A small world -/

def responderToken : Token where
  sub := "rita"
  uid := "u7"
  tenantId := "t"
  role := "responder"
  jti := "j7"
  exp := 3600

/-- A tenant's responder, signed in, and an investigation under way. -/
def caseWorld (actions : List IncidentAction) : World where
  db := { Database.empty with investigations := ⟨[openCase actions], List.nodup_singleton _⟩ }
  issued := [responderToken]

/-- The responder's request on the investigation. -/
def caseEvent (r : CaseRequest) : Event where
  env := { now := fun _ => 0, uuid4 := fun _ => "n1" }
  request := .case (.bearer responderToken) "INV-1" r

/-- An action of the kind that waits for approval. -/
def gatedAction : IncidentAction where
  actionType := "isolate_host"
  target := "ws-finance-07"
  rationale := ""
  requiresApproval := true

theorem caseWorld_admitted {actions : List IncidentAction} {r : CaseRequest}
    {permission : Permission} (h : responderToken.principal.can permission = true) :
    Admitted (caseWorld actions).db (caseWorld actions).issued ((caseEvent r).env.now 0)
      (.bearer responderToken) permission responderToken.principal :=
  ⟨responderToken, ⟨rfl, List.mem_singleton_self _, (by decide : Time.seconds 0 ≤ 3600), by decide, rfl,
    fun tenant ht => by cases ht⟩, rfl, h⟩

end SentinelAI
