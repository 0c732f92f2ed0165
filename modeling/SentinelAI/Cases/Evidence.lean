import Mathlib.Logic.Relation
import SentinelAI.Cases.Headers
import SentinelAI.Records.Requests

/-
  What a case keeps of itself. Approvals, executions, assignments and status changes rewrite
  the whole row, payload included; still the evidence of the case, what was planned, what was
  approved or executed and the first instants of its lifecycle stay, and its status goes along
  the lifecycle (`evidence_kept`). Requests come one after another: of two that overlap the
  later row would replace the other's (`overlapping_approvals`).
-/

namespace SentinelAI

open Lib

/-! ## A case later on -/

/-- An edge of the lifecycle, by the values in the status column. -/
def LifecycleEdge (status status' : String) : Prop :=
  ∃ current target : DetectionStatus, status = current.value ∧ status' = target.value ∧
    canTransition current target = true

/-- What may become of a planned action: no new plan, no approval or execution taken back. -/
structure ActionProgress (a b : IncidentAction) : Prop where
  actionType : b.actionType = a.actionType
  target : b.target = a.target
  rationale : b.rationale = a.rationale
  approved : a.requiresApproval = false → b.requiresApproval = false
  executed : a.executed = true → b.executed = true

/-- What the pipeline found and judged. The status is the one thing about the detection that
    changes. -/
structure SameEvidence (a b : Investigation) : Prop where
  id : b.id = a.id
  detection : { b.detection with status := a.detection.status } = a.detection
  verdict : b.verdict = a.verdict
  timeline : b.timeline = a.timeline
  summary : b.summary = a.summary
  createdAt : b.createdAt = a.createdAt

structure CaseProgress (row new : InvestigationRow) : Prop where
  columns : SameFixedColumns row new
  evidence : SameEvidence row.payload new.payload
  actions : List.Forall₂ ActionProgress row.payload.actions new.payload.actions
  acknowledged : ∀ t, row.acknowledgedAt = some t → new.acknowledgedAt = some t
  contained : ∀ t, row.containedAt = some t → new.containedAt = some t
  status : Relation.ReflTransGen LifecycleEdge row.status new.status

theorem SameFixedColumns.trans {r r' r'' : InvestigationRow} (h : SameFixedColumns r r')
    (h' : SameFixedColumns r' r'') : SameFixedColumns r r'' where
  id := h'.id.trans h.id
  tenantId := h'.tenantId.trans h.tenantId
  title := h'.title.trans h.title
  severity := h'.severity.trans h.severity
  entity := h'.entity.trans h.entity
  riskScore := h'.riskScore.trans h.riskScore
  isTruePositive := h'.isTruePositive.trans h.isTruePositive
  createdAt := h'.createdAt.trans h.createdAt

namespace ActionProgress

theorem refl (a : IncidentAction) : ActionProgress a a := ⟨rfl, rfl, rfl, id, id⟩

theorem trans {a b c : IncidentAction} (h : ActionProgress a b) (h' : ActionProgress b c) :
    ActionProgress a c where
  actionType := h'.actionType.trans h.actionType
  target := h'.target.trans h.target
  rationale := h'.rationale.trans h.rationale
  approved := fun ha => h'.approved (h.approved ha)
  executed := fun ha => h'.executed (h.executed ha)

end ActionProgress

/-- Replacing one action by a later form of it. -/
theorem forall₂_set {actions : List IncidentAction} {i : Nat} {a b : IncidentAction}
    (ha : actions[i]? = some a) (h : ActionProgress a b) :
    List.Forall₂ ActionProgress actions (actions.set i b) := by
  induction actions generalizing i with
  | nil => cases ha
  | cons x actions ih =>
    cases i with
    | zero =>
      cases ha
      exact .cons h (List.forall₂_same.mpr fun y _ => .refl y)
    | succ i => exact .cons (.refl x) (ih ha)

theorem forall₂_trans {as bs cs : List IncidentAction} (h : List.Forall₂ ActionProgress as bs)
    (h' : List.Forall₂ ActionProgress bs cs) : List.Forall₂ ActionProgress as cs := by
  induction h generalizing cs with
  | nil => exact h'
  | cons hab _ ih =>
    cases h' with
    | cons hbc hrest => exact .cons (hab.trans hbc) (ih hrest)

namespace SameEvidence

theorem refl (a : Investigation) : SameEvidence a a := ⟨rfl, rfl, rfl, rfl, rfl, rfl⟩

theorem trans {a b c : Investigation} (h : SameEvidence a b) (h' : SameEvidence b c) :
    SameEvidence a c where
  id := h'.id.trans h.id
  detection := by
    have hb : { ({ c.detection with status := b.detection.status } : Detection) with
        status := a.detection.status } = { b.detection with status := a.detection.status } := by
      rw [h'.detection]
    exact hb.trans h.detection
  verdict := h'.verdict.trans h.verdict
  timeline := h'.timeline.trans h.timeline
  summary := h'.summary.trans h.summary
  createdAt := h'.createdAt.trans h.createdAt

end SameEvidence

theorem StatusMove.path {row new : InvestigationRow} (h : StatusMove row new) :
    Relation.ReflTransGen LifecycleEdge row.status new.status := by
  obtain hsame | hedge := h
  · rw [hsame]
  · exact .single hedge

namespace CaseProgress

theorem refl (row : InvestigationRow) : CaseProgress row row where
  columns := ⟨rfl, rfl, rfl, rfl, rfl, rfl, rfl, rfl⟩
  evidence := .refl row.payload
  actions := List.forall₂_same.mpr fun a _ => .refl a
  acknowledged _ h := h
  contained _ h := h
  status := .refl

theorem trans {r r' r'' : InvestigationRow} (h : CaseProgress r r') (h' : CaseProgress r' r'') :
    CaseProgress r r'' where
  columns := h.columns.trans h'.columns
  evidence := h.evidence.trans h'.evidence
  actions := forall₂_trans h.actions h'.actions
  acknowledged t ht := h'.acknowledged t (h.acknowledged t ht)
  contained t ht := h'.contained t (h.contained t ht)
  status := h.status.trans h'.status

/-! ## Operation by operation -/

theorem actions_setAction {row : InvestigationRow} {i : Int} {a b : IncidentAction}
    (ha : actionAt row.payload i = some a) (h : ActionProgress a b) :
    List.Forall₂ ActionProgress row.payload.actions (row.setAction i b).payload.actions := by
  have hplace : row.payload.actions[i.toNat]? = some a := by
    unfold actionAt at ha
    split at ha
    · cases ha
    · exact ha
  exact forall₂_set hplace h

theorem executed {row : InvestigationRow} {i : Int} {a : IncidentAction} (r : ExecutionResult)
    (ha : actionAt row.payload i = some a) : CaseProgress row (executeRow i a r row) := by
  have hactions : List.Forall₂ ActionProgress row.payload.actions
      (row.setAction i (a.executedWith r)).payload.actions :=
    actions_setAction ha ⟨rfl, rfl, rfl, id, fun _ => rfl⟩
  have hcolumns := executeRow_fixed i a r row
  have hmove := (executeRow_move i a r row).path
  unfold executeRow at hcolumns hmove ⊢
  dsimp only at hcolumns hmove ⊢
  split at hcolumns
  · rename_i hinvestigating
    rw [if_pos hinvestigating] at hmove ⊢
    exact ⟨hcolumns, ⟨rfl, rfl, rfl, rfl, rfl, rfl⟩, hactions, fun _ => id, fun _ => id, hmove⟩
  · rename_i hother
    rw [if_neg hother] at hmove ⊢
    exact ⟨hcolumns, ⟨rfl, rfl, rfl, rfl, rfl, rfl⟩, hactions, fun _ => id, fun _ => id, hmove⟩

theorem compute {op : CaseOp} {row new : InvestigationRow} (h : op.compute row = some new) :
    CaseProgress row new := by
  have hcolumns := compute_fixed h
  have hmove := (compute_move h).path
  cases op with
  | approve i =>
    obtain ⟨a, ha, rfl⟩ := approve_compute.mp h
    exact ⟨hcolumns, ⟨rfl, rfl, rfl, rfl, rfl, rfl⟩,
      actions_setAction ha ⟨rfl, rfl, rfl, fun _ => rfl, id⟩, fun _ => id, fun _ => id, hmove⟩
  | execute i connectors =>
    obtain ⟨a, r, ha, _, _, rfl⟩ := execute_compute.mp h
    exact executed r ha
  | assign assignee =>
    cases h
    exact ⟨hcolumns, ⟨rfl, rfl, rfl, rfl, rfl, rfl⟩, (refl row).actions, fun _ => id, fun _ => id, hmove⟩
  | transition target now =>
    obtain ⟨status, _, rfl⟩ := transition_compute.mp h
    refine ⟨hcolumns, ⟨rfl, rfl, rfl, rfl, rfl, rfl⟩, (refl row).actions, fun t ht => ?_,
      fun t ht => ?_, hmove⟩
    · show (if _ ∧ row.acknowledgedAt = none then some now else row.acknowledgedAt) = some t
      rw [ht, if_neg fun hnone => (by cases hnone.2)]
    · show (if _ ∧ row.containedAt = none then some now else row.containedAt) = some t
      rw [ht, if_neg fun hnone => (by cases hnone.2)]

end CaseProgress

/-! ## Over the life of a deployment -/

/-- Something that happens, the investigations of a run under ids that are not stored yet. -/
def FreshOccurrence (rt : Runtime) (w : World) : Occurrence → Prop
  | .start _ => True
  | .request e => FreshCases rt w e

/-- `occur` as a relation. -/
def Occurred (rt : Runtime) (w : World) (o : Occurrence) (w' : World) : Prop := w' = occur rt w o

theorem case_progress_occur {rt : Runtime} {w : World} {o : Occurrence}
    (hfresh : FreshOccurrence rt w o) {id : String} {row : InvestigationRow}
    (hrow : w.db.investigations.find? id = some row) :
    ∃ new, (occur rt w o).db.investigations.find? id = some new ∧ CaseProgress row new := by
  have hkept (hsame : (occur rt w o).db.investigations.find? id = w.db.investigations.find? id) :
      ∃ new, (occur rt w o).db.investigations.find? id = some new ∧ CaseProgress row new :=
    ⟨row, hsame.trans hrow, .refl row⟩
  cases o with
  | start env =>
    have hcases : (start env w).db.investigations = w.db.investigations :=
      start_kept env w .investigations (by decide)
    exact hkept (congrArg (KeyedTable.find? · id) hcases)
  | request e =>
    cases row_change rt w e id with
    | kept hsame => exact hkept hsame
    | written auth r op he hop hw =>
      obtain ⟨row', new, hrow', hcompute, hself, _⟩ := hw.rows
      cases hrow.symm.trans hrow'
      exact ⟨new, hself, .compute hcompute⟩
    | filed p orch hreach hs hfiled =>
      obtain hsame | ⟨hnone, _⟩ := FreshCases.filed hfresh hreach hfiled
      · exact hkept hsame
      · cases hnone.symm.trans hrow

/-- Over the life of a deployment whose requests come one after another and whose investigation
    runs draw fresh ids, no case is lost, its evidence and its plan stay as they were, approvals,
    executions and the first acknowledgement and containment are never taken back, and its status
    goes along the lifecycle. -/
theorem evidence_kept {rt : Runtime} {w w' : World} {os : List Occurrence}
    (h : Steps (Guarded (Occurred rt) (FreshOccurrence rt)) w os w') (id : String)
    (row : InvestigationRow) (hrow : w.db.investigations.find? id = some row) :
    ∃ new, w'.db.investigations.find? id = some new ∧ CaseProgress row new := by
  refine Steps.inv (I := fun v => ∃ new, v.db.investigations.find? id = some new ∧
    CaseProgress row new) ?_ h ⟨row, hrow, .refl row⟩
  rintro v o _ ⟨rfl, hfresh⟩ ⟨new, hnew, hprogress⟩
  obtain ⟨later, hlater, hmore⟩ := case_progress_occur hfresh hnew
  exact ⟨later, hlater, hprogress.trans hmore⟩

/-- A case under investigation, contained, and the server started again. -/
theorem evidence_kept_contained : ∃ row new : InvestigationRow,
    row.status = "investigating" ∧ new.status = "contained" ∧
      (run shortDigest (initech "pro") [findingRun]).db.investigations.find? "INV-0a1b2c3d" =
        some row ∧
      (live shortDigest (run shortDigest (initech "pro") [findingRun])
        [.request (moveTo "contained"), .start laterStart]).db.investigations.find?
          "INV-0a1b2c3d" = some new ∧ CaseProgress row new := by
  have hrun : Steps (Guarded (Occurred shortDigest) (FreshOccurrence shortDigest))
      (run shortDigest (initech "pro") [findingRun])
      [.request (moveTo "contained"), .start laterStart]
      (live shortDigest (run shortDigest (initech "pro") [findingRun])
        [.request (moveTo "contained"), .start laterStart]) := by
    refine Steps.cons ⟨rfl, fun p orch hreach => ?_⟩ (Steps.cons ⟨rfl, trivial⟩ (Steps.nil _))
    obtain ⟨auth, he, _⟩ := hreach.admitted
    cases he
  have hstored : ∃ row, (run shortDigest (initech "pro") [findingRun]).db.investigations.find?
      "INV-0a1b2c3d" = some row := Option.isSome_iff_exists.mp (by decide +kernel)
  obtain ⟨row, hrow⟩ := hstored
  obtain ⟨new, hnew, hprogress⟩ := evidence_kept hrun "INV-0a1b2c3d" row hrow
  have hbefore : ((run shortDigest (initech "pro") [findingRun]).db.investigations.find?
      "INV-0a1b2c3d").map InvestigationRow.status = some "investigating" := by decide +kernel
  have hafter : ((live shortDigest (run shortDigest (initech "pro") [findingRun])
      [.request (moveTo "contained"), .start laterStart]).db.investigations.find?
        "INV-0a1b2c3d").map InvestigationRow.status = some "contained" := by decide +kernel
  rw [hrow] at hbefore
  rw [hnew] at hafter
  exact ⟨row, new, Option.some.inj hbefore, Option.some.inj hafter, hrow, hnew, hprogress⟩

end SentinelAI
