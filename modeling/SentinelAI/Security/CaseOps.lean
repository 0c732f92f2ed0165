import SentinelAI.Db.Repositories

/-
  The operations that rewrite an investigation row, as functions on the row, and what the
  repository does with them: load the tenant's row, compute, flush.
-/

namespace SentinelAI

open Lib

/-- A request that writes the row, with what it depends on besides: the connectors of the
    executor, the instant of the transition. -/
inductive CaseOp where
  | approve (i : Int)
  | execute (i : Int) (connectors : List ActionConnector)
  | assign (assignee : Option String)
  | transition (target : String) (now : Time)

/-- The row a request computes from the row it read; none when it reports a failure. -/
def CaseOp.compute : CaseOp → InvestigationRow → Option InvestigationRow
  | .approve i, row => approveRow i row
  | .execute i connectors, row =>
    match executableAction i row with
    | .error _ => none
    | .ok a =>
      match executorResult connectors a.actionType a.target with
      | .ok result => some (executeRow i a result row)
      | .error _ => none
  | .assign assignee, row => some (setAssigneeRow assignee row)
  | .transition target now, row =>
    match legalTransition target row with
    | .ok status => some (transitionRow status now row)
    | .error _ => none

/-- An investigation under way, with some planned actions. -/
def openCase (actions : List IncidentAction) : InvestigationRow where
  id := "INV-1"
  tenantId := "t"
  title := "Encoded PowerShell execution"
  severity := "critical"
  status := "investigating"
  entity := "ws-finance-07"
  riskScore := 95
  isTruePositive := some true
  payload :=
    { id := "INV-1"
      detection :=
        { id := "DET-1"
          title := "Encoded PowerShell execution"
          description := ""
          severity := .critical
          status := .investigating
          splQuery := ""
          entity := "ws-finance-07"
          createdAt := 0 }
      actions := actions
      createdAt := 0 }
  createdAt := 0

/-! ## The repository computes these rows -/

/-- The investigation of a tenant. -/
def ownRow (db : Database) (tenantId invId : String) : Option InvestigationRow :=
  (db.investigations.find? invId).filter fun r => r.tenantId == tenantId

theorem ownRow_eq_some {db : Database} {tenantId invId : String} {row : InvestigationRow} :
    ownRow db tenantId invId = some row ↔
      db.investigations.find? invId = some row ∧ row.tenantId = tenantId := by
  unfold ownRow
  rw [Option.filter_eq_some_iff]
  simp

/-- A session after the flush of a row. -/
def flushed (row : InvestigationRow) (s : Session) : Session :=
  { s with db := { s.db with
      investigations := s.db.investigations.modify row.id row.write row.write_key } }

/-- A session after the executor dispatched an action. -/
def dispatched (env : Env) (a : IncidentAction) (s : Session) : Session :=
  { s with connectorCalls := s.connectorCalls ++ executorCall env.connectors a.actionType a.target }

namespace InvestigationRepository

/-- The row an operation loads. -/
theorem getRow_own (tenantId invId : String) (s : Session) :
    (getRow tenantId invId).run s = .ok (ownRow s.db tenantId invId) s := getRow_run ..

/-- A save inserts a new row, finds its id taken by another tenant, or rewrites the row that
    is stored. -/
theorem save_cases (env : Env) (tenantId : String) (inv : Investigation) (s : Session) :
    (ownRow s.db tenantId inv.id = none ∧ ∃ rows,
      s.db.investigations.insert? (newInvestigationRow tenantId inv (env.now s.ticks)) = some rows ∧
      (save env tenantId inv).run s = .ok (newInvestigationRow tenantId inv (env.now s.ticks))
        { s.ticked with db := { s.db with investigations := rows } }) ∨
    (ownRow s.db tenantId inv.id = none ∧
      s.db.investigations.insert? (newInvestigationRow tenantId inv (env.now s.ticks)) = none ∧
      (save env tenantId inv).run s = .error .integrity s.ticked) ∨
    ∃ row, ownRow s.db tenantId inv.id = some row ∧
      (save env tenantId inv).run s =
        .ok (row.withInvestigation inv) (flushed (row.withInvestigation inv) s) := by
  have hget := getRow_own tenantId inv.id s
  cases hown : ownRow s.db tenantId inv.id with
  | none =>
    rw [hown] at hget
    have hinsert : (save env tenantId inv).run s =
        (do
          insertRow Tables.investigations (newInvestigationRow tenantId inv (env.now s.ticks))
          return newInvestigationRow tenantId inv (env.now s.ticks) : ApiM _).run s.ticked :=
      (run_bind_ok hget).trans (run_bind_ok (readClock_run env s))
    obtain ⟨rows, hins, hrun⟩ | ⟨hins, hrun⟩ := insertRow_cases Tables.investigations
      (newInvestigationRow tenantId inv (env.now s.ticks)) s.ticked
    · exact Or.inl ⟨rfl, rows, hins, hinsert.trans (run_bind_ok hrun)⟩
    · exact Or.inr (Or.inl ⟨rfl, hins, hinsert.trans (run_bind_error hrun)⟩)
  | some row =>
    rw [hown] at hget
    exact Or.inr (Or.inr ⟨row, rfl, run_bind_ok hget⟩)

theorem approveAction_run (tenantId invId : String) (i : Int) (s : Session) :
    (approveAction tenantId invId i).run s =
      match (ownRow s.db tenantId invId).bind (approveRow i) with
      | none => .ok none s
      | some new => .ok (some new.payload) (flushed new s) := by
  unfold approveAction
  rw [run_bind_ok (getRow_own ..)]
  cases ownRow s.db tenantId invId with
  | none => rfl
  | some row =>
    rw [Option.bind_some]
    dsimp only
    cases approveRow i row <;> rfl

theorem setAssignee_run (tenantId invId : String) (assignee : Option String) (s : Session) :
    (setAssignee tenantId invId assignee).run s =
      match ownRow s.db tenantId invId with
      | none => .ok none s
      | some row => .ok (some (setAssigneeRow assignee row).payload)
          (flushed (setAssigneeRow assignee row) s) := by
  unfold setAssignee
  rw [run_bind_ok (getRow_own ..)]
  cases ownRow s.db tenantId invId <;> rfl

/-- What an execution does once its action is found executable. -/
theorem executeAction_run (env : Env) (tenantId invId : String) (i : Int) (s : Session) :
    (executeAction env tenantId invId i).run s =
      match ownRow s.db tenantId invId with
      | none => .ok (.error .notFound) s
      | some row =>
        match executableAction i row with
        | .error e => .ok (.error e) s
        | .ok a =>
          match executorResult env.connectors a.actionType a.target with
          | .error ex => .error ex (dispatched env a s)
          | .ok res => .ok (.ok (executeRow i a res row).payload)
              (flushed (executeRow i a res row) (dispatched env a s)) := by
  unfold executeAction
  rw [run_bind_ok (getRow_own ..)]
  cases ownRow s.db tenantId invId with
  | none => rfl
  | some row =>
    dsimp only
    cases executableAction i row with
    | error e => rfl
    | ok a =>
      have he := ActionExecutor.execute_run env a.actionType a.target s
      rw [ofExcept_run] at he
      dsimp only
      cases hr : executorResult env.connectors a.actionType a.target with
      | error ex =>
        rw [hr] at he
        exact run_bind_error he
      | ok res =>
        rw [hr] at he
        exact run_bind_ok he

end InvestigationRepository

theorem CaseWorkflowMixin.transitionStatus_run (env : Env) (tenantId invId target : String)
    (s : Session) :
    (CaseWorkflowMixin.transitionStatus env tenantId invId target).run s =
      match ownRow s.db tenantId invId with
      | none => .ok (.error .notFound) s
      | some row =>
        match legalTransition target row with
        | .error e => .ok (.error e) s
        | .ok status => .ok (.ok (transitionRow status (env.now s.ticks) row).payload)
            (flushed (transitionRow status (env.now s.ticks) row) s.ticked) := by
  unfold CaseWorkflowMixin.transitionStatus
  rw [run_bind_ok (InvestigationRepository.getRow_own ..)]
  cases ownRow s.db tenantId invId with
  | none => rfl
  | some row =>
    dsimp only
    cases legalTransition target row with
    | error e => rfl
    | ok status =>
      dsimp only
      rw [run_bind_ok (readClock_run ..)]
      rfl

/-! ### When an operation succeeds -/

theorem InvestigationRepository.approveAction_ok {tenantId invId : String} {i : Int}
    {s t : Session} {x : Investigation}
    (h : (InvestigationRepository.approveAction tenantId invId i).run s = .ok (some x) t) :
    ∃ row new, ownRow s.db tenantId invId = some row ∧ approveRow i row = some new ∧
      t = flushed new s := by
  rw [InvestigationRepository.approveAction_run] at h
  cases hrow : (ownRow s.db tenantId invId).bind (approveRow i) with
  | none =>
    rw [hrow] at h
    cases h
  | some new =>
    rw [hrow] at h
    cases h
    obtain ⟨row, hown, hnew⟩ := Option.bind_eq_some_iff.mp hrow
    exact ⟨row, new, hown, hnew, rfl⟩

theorem InvestigationRepository.setAssignee_ok {tenantId invId : String}
    {assignee : Option String} {s t : Session} {x : Investigation}
    (h : (InvestigationRepository.setAssignee tenantId invId assignee).run s = .ok (some x) t) :
    ∃ row, ownRow s.db tenantId invId = some row ∧ t = flushed (setAssigneeRow assignee row) s := by
  rw [InvestigationRepository.setAssignee_run] at h
  cases hrow : ownRow s.db tenantId invId with
  | none =>
    rw [hrow] at h
    cases h
  | some row =>
    rw [hrow] at h
    cases h
    exact ⟨row, rfl, rfl⟩

theorem CaseWorkflowMixin.transitionStatus_ok {env : Env} {tenantId invId target : String}
    {s t : Session} {x : Investigation}
    (h : (CaseWorkflowMixin.transitionStatus env tenantId invId target).run s = .ok (.ok x) t) :
    ∃ row status, ownRow s.db tenantId invId = some row ∧ legalTransition target row = .ok status ∧
      t = flushed (transitionRow status (env.now s.ticks) row) s.ticked := by
  rw [CaseWorkflowMixin.transitionStatus_run] at h
  cases hrow : ownRow s.db tenantId invId with
  | none =>
    rw [hrow] at h
    cases h
  | some row =>
    cases hl : legalTransition target row with
    | error e =>
      simp only [hrow, hl] at h
      cases h
    | ok status =>
      simp only [hrow, hl] at h
      cases h
      exact ⟨row, status, rfl, hl, rfl⟩

/-! ## What the row functions change -/

theorem actionAt_setAction {r : InvestigationRow} {i : Int} {a b : IncidentAction}
    (h : actionAt r.payload i = some a) : actionAt (r.setAction i b).payload i = some b := by
  unfold actionAt at h ⊢
  split at h
  · cases h
  · rename_i hi
    obtain ⟨hlt, _⟩ := List.getElem?_eq_some_iff.mp h
    simp [hi, InvestigationRow.setAction, hlt]

theorem actionAt_setAction_ne {r : InvestigationRow} {i j : Int} {a : IncidentAction}
    (b : IncidentAction) (h : actionAt r.payload i = some a) (hj : j ≠ i) :
    actionAt (r.setAction i b).payload j = actionAt r.payload j := by
  unfold actionAt at h ⊢
  split at h
  · cases h
  · split
    · rfl
    · have hne : i.toNat ≠ j.toNat := by omega
      simp [InvestigationRow.setAction, List.getElem?_set_ne hne]

/-- An approval clears one action's flag. -/
theorem approve_compute {i : Int} {r m : InvestigationRow} :
    (CaseOp.approve i).compute r = some m ↔
      ∃ a, actionAt r.payload i = some a ∧ m = r.setAction i { a with requiresApproval := false } := by
  constructor
  · intro h
    obtain ⟨a, ha, rfl⟩ := Option.map_eq_some_iff.mp h
    exact ⟨a, ha, rfl⟩
  · rintro ⟨a, ha, rfl⟩
    exact Option.map_eq_some_iff.mpr ⟨a, ha, rfl⟩

/-- An execution that reports success: the action was there and approved, and the executor
    answered. -/
theorem execute_compute {i : Int} {cs : List ActionConnector} {r m : InvestigationRow} :
    (CaseOp.execute i cs).compute r = some m ↔
      ∃ a res, actionAt r.payload i = some a ∧ a.requiresApproval = false ∧
        executorResult cs a.actionType a.target = .ok res ∧ m = executeRow i a res r := by
  constructor
  · intro h
    simp only [CaseOp.compute, executableAction] at h
    cases ha : actionAt r.payload i with
    | none => simp [ha] at h
    | some a =>
      cases hp : a.requiresApproval with
      | true => simp [ha, hp] at h
      | false =>
        cases he : executorResult cs a.actionType a.target with
        | error e => simp [ha, hp, he] at h
        | ok res =>
          simp only [ha, hp, he, Bool.false_eq_true, if_false, Option.some.injEq] at h
          exact ⟨a, res, rfl, hp, he, h.symm⟩
  · rintro ⟨a, res, ha, hp, he, rfl⟩
    simp [CaseOp.compute, executableAction, ha, hp, he]

theorem actionAt_executeRow {i : Int} {a : IncidentAction} {res : ExecutionResult}
    {r : InvestigationRow} (h : actionAt r.payload i = some a) :
    actionAt (executeRow i a res r).payload i = some (a.executedWith res) := by
  have := actionAt_setAction (b := a.executedWith res) h
  unfold executeRow
  dsimp only
  split
  · exact this
  · exact this

/-- An execution contains a case under investigation, and leaves the status of any other. -/
theorem executeRow_status (i : Int) (a : IncidentAction) (res : ExecutionResult)
    (r : InvestigationRow) :
    (executeRow i a res r).status =
      if r.status = DetectionStatus.investigating.value then DetectionStatus.contained.value
      else r.status := by
  unfold executeRow
  dsimp only
  simp only [beq_iff_eq]
  split <;> rfl

/-- The case is not `investigating` after an execution. -/
theorem executeRow_status_ne (i : Int) (a : IncidentAction) (res : ExecutionResult)
    (r : InvestigationRow) :
    (executeRow i a res r).status ≠ DetectionStatus.investigating.value := by
  rw [executeRow_status]
  split
  · decide
  · assumption

/-- A status change goes where the lifecycle allows. -/
theorem transition_compute {target : String} {now : Time} {r m : InvestigationRow} :
    (CaseOp.transition target now).compute r = some m ↔
      ∃ status, legalTransition target r = .ok status ∧ m = transitionRow status now r := by
  simp only [CaseOp.compute]
  cases legalTransition target r with
  | error e => simp
  | ok status => simp [eq_comm]

/-- No status leads to itself. -/
theorem canTransition_self (s : DetectionStatus) : canTransition s s = false := by
  cases s <;> rfl

theorem legalTransition_ok {target : String} {r : InvestigationRow} {s : DetectionStatus} :
    legalTransition target r = .ok s ↔
      ∃ current, DetectionStatus.ofValue? r.status = some current ∧
        DetectionStatus.ofValue? target = some s ∧ canTransition current s = true := by
  unfold legalTransition
  cases DetectionStatus.ofValue? r.status with
  | none => simp
  | some current =>
    cases DetectionStatus.ofValue? target with
    | none => simp
    | some t =>
      cases ht : canTransition current t with
      | true =>
        simp only [ht, if_true, Except.ok.injEq, Option.some.injEq]
        constructor
        · rintro rfl
          exact ⟨current, rfl, rfl, ht⟩
        · rintro ⟨_, _, h, _⟩
          exact h
      | false =>
        simp only [ht, Bool.false_eq_true, if_false, Option.some.injEq, reduceCtorEq, false_iff]
        rintro ⟨_, rfl, rfl, h⟩
        rw [ht] at h
        cases h

/-- Columns no request of the four writes. -/
structure SameFixedColumns (r r' : InvestigationRow) : Prop where
  id : r'.id = r.id
  tenantId : r'.tenantId = r.tenantId
  title : r'.title = r.title
  severity : r'.severity = r.severity
  entity : r'.entity = r.entity
  riskScore : r'.riskScore = r.riskScore
  isTruePositive : r'.isTruePositive = r.isTruePositive
  createdAt : r'.createdAt = r.createdAt

theorem executeRow_fixed (i : Int) (a : IncidentAction) (res : ExecutionResult)
    (r : InvestigationRow) : SameFixedColumns r (executeRow i a res r) := by
  unfold executeRow
  dsimp only
  split <;> exact ⟨rfl, rfl, rfl, rfl, rfl, rfl, rfl, rfl⟩

theorem compute_fixed {op : CaseOp} {r r' : InvestigationRow} (h : op.compute r = some r') :
    SameFixedColumns r r' := by
  cases op with
  | approve i =>
    obtain ⟨a, _, rfl⟩ := Option.map_eq_some_iff.mp h
    exact ⟨rfl, rfl, rfl, rfl, rfl, rfl, rfl, rfl⟩
  | execute i connectors =>
    simp only [CaseOp.compute] at h
    split at h
    · cases h
    · split at h
      · cases h
        exact executeRow_fixed ..
      · cases h
  | assign a =>
    cases h
    exact ⟨rfl, rfl, rfl, rfl, rfl, rfl, rfl, rfl⟩
  | transition target now =>
    simp only [CaseOp.compute] at h
    split at h
    · cases h
      exact ⟨rfl, rfl, rfl, rfl, rfl, rfl, rfl, rfl⟩
    · cases h

/-- What became of an action: its type stays, it stops waiting for approval only if this very
    index was approved, and an executed action stays executed. -/
structure ActionKept (op : CaseOp) (j : Int) (a b : IncidentAction) : Prop where
  actionType : b.actionType = a.actionType
  waiting : b.requiresApproval = a.requiresApproval ∨ op = .approve j
  executed : a.executed = true → b.executed = true

theorem ActionKept.refl (op : CaseOp) (j : Int) (a : IncidentAction) : ActionKept op j a a :=
  ⟨rfl, Or.inl rfl, id⟩

/-- Setting one action keeps them all, if it keeps that one. -/
theorem setAction_kept {op : CaseOp} {r : InvestigationRow} {i : Int} {a : IncidentAction}
    (b : IncidentAction) (h : actionAt r.payload i = some a) (hk : ActionKept op i a b) (j : Int) :
    (actionAt r.payload j = none ∧ actionAt (r.setAction i b).payload j = none) ∨
      ∃ x y, actionAt r.payload j = some x ∧ actionAt (r.setAction i b).payload j = some y ∧
        ActionKept op j x y := by
  by_cases hj : j = i
  · subst hj
    exact Or.inr ⟨a, b, h, actionAt_setAction h, hk⟩
  · rw [actionAt_setAction_ne b h hj]
    cases hx : actionAt r.payload j with
    | none => exact Or.inl ⟨rfl, rfl⟩
    | some x => exact Or.inr ⟨x, x, rfl, rfl, .refl op j x⟩

/-- Every operation keeps the actions of its row. -/
theorem compute_kept {op : CaseOp} {r m : InvestigationRow} (h : op.compute r = some m) (j : Int) :
    (actionAt r.payload j = none ∧ actionAt m.payload j = none) ∨
      ∃ x y, actionAt r.payload j = some x ∧ actionAt m.payload j = some y ∧
        ActionKept op j x y := by
  have hsame : actionAt m.payload j = actionAt r.payload j →
      (actionAt r.payload j = none ∧ actionAt m.payload j = none) ∨
        ∃ x y, actionAt r.payload j = some x ∧ actionAt m.payload j = some y ∧
          ActionKept op j x y := by
    intro he
    rw [he]
    cases hx : actionAt r.payload j with
    | none => exact Or.inl ⟨rfl, rfl⟩
    | some x => exact Or.inr ⟨x, x, rfl, rfl, .refl op j x⟩
  cases op with
  | approve i =>
    obtain ⟨a, ha, rfl⟩ := approve_compute.mp h
    refine setAction_kept _ ha ?_ j
    exact ⟨rfl, Or.inr rfl, id⟩
  | execute i cs =>
    obtain ⟨a, res, ha, _, _, rfl⟩ := execute_compute.mp h
    have hset : actionAt (executeRow i a res r).payload j =
        actionAt (r.setAction i (a.executedWith res)).payload j := by
      unfold executeRow
      dsimp only
      split <;> rfl
    rw [hset]
    refine setAction_kept _ ha ?_ j
    exact ⟨rfl, Or.inl rfl, fun _ => rfl⟩
  | assign assignee =>
    cases h
    exact hsame rfl
  | transition target now =>
    obtain ⟨status, _, rfl⟩ := transition_compute.mp h
    exact hsame rfl

end SentinelAI
