import SentinelAI.Security.CaseSteps

/-
  What the status of a case says about its containment. An execution moves an
  `investigating` case to `contained` whatever the connector answered, a failure or "no
  connector supports it" included; so the status can be trusted in exactly the runs in which
  every execution that gets that far was answered with success.
-/

namespace SentinelAI

open Lib

/-- The status of a case, in the header and in the payload. -/
def InvestigationRow.caseStatus (row : InvestigationRow) : String × DetectionStatus :=
  (row.status, row.payload.detection.status)

/-- The connector's answer to the action a request executes is a success. -/
def AnsweredWithSuccess (e : Event) (i : Int) (row : InvestigationRow) : Prop :=
  ∃ a r, executableAction i row = .ok a ∧
    executorResult e.env.connectors a.actionType a.target = .ok r ∧ r.status = "success"

/-- An execute request changes the status of its case only after a success. -/
def HonestStatus (rt : Runtime) (w : World) (e : Event) : Prop :=
  ∀ auth invId i row row', e.request = .case auth invId (.execute i) →
    w.db.investigations.find? invId = some row →
    (step rt w e).db.investigations.find? invId = some row' →
    row'.caseStatus ≠ row.caseStatus → AnsweredWithSuccess e i row

/-- The connector an action is dispatched to, if it answers and its answer can be announced,
    answers with success; without a connector the outcome cannot be announced. -/
def ConnectorSucceeds (env : Env) (row : InvestigationRow) (a : IncidentAction) : Prop :=
  match supportingConnector env.connectors a.actionType with
  | some c => ∀ r, c.execute a.actionType a.target = .ok r →
      Announced env (executionNote row a r) → r.status = "success"
  | none => ¬ Announced env (executionNote row a (unsupportedResult a.actionType a.target))

/-- An approved action that is executed on an `investigating` case succeeds. -/
def SuccessIfInvestigating (w : World) (e : Event) : Prop :=
  ∀ invId i row a, Reaches w e invId i row a →
    row.status = DetectionStatus.investigating.value → ConnectorSucceeds e.env row a

theorem connectorSucceeds_iff {env : Env} {row : InvestigationRow} {a : IncidentAction} :
    ConnectorSucceeds env row a ↔
      ∀ r, executorResult env.connectors a.actionType a.target = .ok r →
        Announced env (executionNote row a r) → r.status = "success" := by
  unfold ConnectorSucceeds executorResult
  cases supportingConnector env.connectors a.actionType with
  | some c => exact Iff.rfl
  | none =>
    constructor
    · rintro h r hr hann
      cases hr
      exact absurd hann h
    · intro h hann
      exact absurd (h _ rfl hann) (by show ¬ "unsupported" = "success"; decide)

/-- An execution of an `investigating` case contains it; any other keeps its status. -/
theorem executeRow_caseStatus (i : Int) (a : IncidentAction) (r : ExecutionResult)
    (row : InvestigationRow) :
    (executeRow i a r row).caseStatus =
      if row.status = DetectionStatus.investigating.value then
        (DetectionStatus.contained.value, .contained)
      else row.caseStatus := by
  unfold executeRow
  dsimp only
  by_cases h : row.status = DetectionStatus.investigating.value
  · rw [if_pos h, if_pos (by simpa using h)]
    rfl
  · rw [if_neg h, if_neg (by simpa using h)]
    rfl

theorem executeRow_moves {i : Int} {a : IncidentAction} {r : ExecutionResult}
    {row : InvestigationRow} :
    (executeRow i a r row).caseStatus ≠ row.caseStatus ↔
      row.status = DetectionStatus.investigating.value := by
  rw [executeRow_caseStatus]
  constructor
  · intro h
    by_contra hne
    rw [if_neg hne] at h
    exact h rfl
  · intro h he
    rw [if_pos h] at he
    have hs : DetectionStatus.contained.value = row.status := congrArg Prod.fst he
    rw [h] at hs
    exact absurd hs (by decide)

theorem honestStatus_iff (rt : Runtime) (w : World) (e : Event) :
    HonestStatus rt w e ↔ SuccessIfInvestigating w e := by
  constructor
  · intro h invId i row a hreach hinv
    refine connectorSucceeds_iff.mpr fun r hr hann => ?_
    obtain ⟨_, ⟨r', hr', _, _, hdb⟩ | ⟨hno, _⟩⟩ := hreach.step rt
    · obtain ⟨auth, p, he, _, _, ha⟩ := id hreach
      have hfind := hreach.row_eq
      have hnew := (find_written hfind (executeRow_fixed i a r' row).id).1
      rw [← hdb] at hnew
      obtain ⟨a', r'', ha', hr'', hs⟩ := h auth invId i row _ he hfind hnew (executeRow_moves.mpr hinv)
      rw [ha] at ha'
      cases ha'
      rw [hr] at hr''
      cases hr''
      exact hs
    · exact absurd hann (hno r hr)
  · intro h auth invId i row row' he hrow hrow' hne
    obtain ⟨row₁, a, hreach⟩ | ⟨_, _, hdb⟩ := reaches_or rt (w := w) he
    · have hfind := hreach.row_eq
      rw [hrow] at hfind
      cases hfind
      obtain ⟨_, ⟨r, hr, hann, _, hdb⟩ | ⟨_, _, hdb⟩⟩ := hreach.step rt
      · have hnew := (find_written hrow (executeRow_fixed i a r row).id).1
        rw [← hdb, hrow'] at hnew
        cases hnew
        obtain ⟨_, _, _, _, _, ha⟩ := id hreach
        have hsucc := connectorSucceeds_iff.mp (h invId i row a hreach (executeRow_moves.mp hne))
        exact ⟨a, r, ha, hr, hsucc r hr hann⟩
      · rw [hdb, hrow] at hrow'
        cases hrow'
        exact absurd rfl hne
    · rw [hdb, hrow] at hrow'
      cases hrow'
      exact absurd rfl hne

/-- The runs in which no execute request changes a status without a success are those in
    which every execution of an `investigating` case is answered with success. -/
theorem containment_honest_iff (rt : Runtime) (w w' : World) (es : List Event) :
    Steps (Guarded (Stepped rt) (HonestStatus rt)) w es w' ↔
      Steps (Guarded (Stepped rt) SuccessIfInvestigating) w es w' :=
  Steps.guarded_iff (I := fun _ => True) (fun w e _ _ _ => honestStatus_iff rt w e)
    (fun _ _ _ _ _ _ => trivial) trivial

/-- An action no connector supports, as planned from a model's answer. -/
def strangeAction : IncidentAction where
  actionType := "reboot_router"
  target := "ws-finance-07"
  rationale := ""
  requiresApproval := false

/-- Executing it contains the case. -/
theorem unsupported_contains :
    ¬ ∀ (rt : Runtime) (w w' : World) (es : List Event), Steps (Stepped rt) w es w' →
      Steps (Guarded (Stepped rt) (HonestStatus rt)) w es w' := by
  intro h
  have hrun := h .plain (caseWorld [strangeAction]) _ [caseEvent (.execute 0)]
    (Steps.cons rfl (Steps.nil _))
  obtain _ | ⟨⟨_, hhonest⟩, _⟩ := hrun
  have hreach : Reaches (caseWorld [strangeAction]) (caseEvent (.execute 0)) "INV-1" 0
      (openCase [strangeAction]) strangeAction :=
    ⟨.bearer responderToken, _, rfl, caseWorld_admitted (by decide), rfl, rfl⟩
  have hsucc := (honestStatus_iff ..).mp hhonest "INV-1" 0 _ _ hreach rfl
  rw [connectorSucceeds_iff] at hsucc
  have hr := hsucc (unsupportedResult "reboot_router" "ws-finance-07") rfl fun send hm => by
    simp [caseEvent] at hm
  exact absurd hr (by show ¬ "unsupported" = "success"; decide)

end SentinelAI
