import SentinelAI.Cases.Headers
import SentinelAI.Security.ExternalEffects

/-
  The stamps of a stored case and the history of its status. `acknowledged_at` and
  `contained_at` are written once; a transition stamps where it goes, an execution that
  contains a case does not. So the stamps tell the history of a case (`StampsFollow`) as long
  as no execution contains it before a transition has (`stamps_follow_iff`).
-/

namespace SentinelAI

open Lib

/-! ## A case in a world -/

def caseAt (w : World) (id : String) : Option InvestigationRow := w.db.investigations.find? id

def storedAcknowledgedAt (w : World) (id : String) : Option Time :=
  (caseAt w id).bind InvestigationRow.acknowledgedAt

def storedContainedAt (w : World) (id : String) : Option Time :=
  (caseAt w id).bind InvestigationRow.containedAt

def inStatus (w : World) (id : String) (status : DetectionStatus) : Bool :=
  (caseAt w id).any fun row => row.status == status.value

/-- The request takes the case into a status it was not in. -/
def enters (rt : Runtime) (w : World) (e : Event) (id : String) (status : DetectionStatus) : Bool :=
  !inStatus w id status && inStatus (step rt w e) id status

def Request.isTransition : Request → Bool
  | .case _ _ (.status _) => true
  | _ => false

/-- The instant at which a status transition takes the case into `investigating`, if the
    request is one. -/
def acknowledgedBy (rt : Runtime) (id : String) (w : World) (e : Event) : Option Time :=
  if e.request.isTransition && enters rt w e id .investigating then some (e.env.now 1) else none

/-- The instant at which the request takes the case into `contained`, if it does. -/
def containedBy (rt : Runtime) (id : String) (w : World) (e : Event) : Option Time :=
  if enters rt w e id .contained then some (e.env.now 1) else none

def firstAcknowledged (rt : Runtime) (w : World) (es : List Event) (id : String) : Option Time :=
  firstOf (step rt) (acknowledgedBy rt id) w es

def firstContained (rt : Runtime) (w : World) (es : List Event) (id : String) : Option Time :=
  firstOf (step rt) (containedBy rt id) w es

/-- At the end of a run, each stamp holds the instant of the first entry and has not changed
    since it was set, and the containment clock stands at the first containment. -/
structure StampsFollow (rt : Runtime) (w : World) (es : List Event) (id : String) : Prop where
  acknowledged : storedAcknowledgedAt (run rt w es) id = firstAcknowledged rt w es id
  contained : storedContainedAt (run rt w es) id = firstContained rt w es id
  acknowledged_fixed : ∀ before after t, es = before ++ after →
    storedAcknowledgedAt (run rt w before) id = some t →
    storedAcknowledgedAt (run rt w es) id = some t
  contained_fixed : ∀ before after t, es = before ++ after →
    storedContainedAt (run rt w before) id = some t → storedContainedAt (run rt w es) id = some t
  clock_stopped : ∀ row t now, caseAt (run rt w es) id = some row →
    firstContained rt w es id = some t →
    (computeSla row.createdAt row.acknowledgedAt row.containedAt now).containElapsedMin =
      elapsedMinutes row.createdAt t

/-- The clock does not go back, within a request or from one to the next. -/
def ClockRuns (es : List Event) : Prop :=
  (∀ e ∈ es, ∀ i j, i ≤ j → e.env.now i ≤ e.env.now j) ∧
    es.Pairwise fun e e' => ∀ i j, e.env.now i ≤ e'.env.now j

theorem clockRuns_of_zero {es : List Event} (h : ∀ e ∈ es, ∀ i, e.env.now i = 0) :
    ClockRuns es := by
  constructor
  · intro e he i j _
    rw [h e he i, h e he j]
  · refine List.pairwise_of_forall_mem_list fun e he e' he' i j => ?_
    rw [h e he i, h e' he' j]

/-! ## Row by row -/

theorem DetectionStatus.value_inj {s s' : DetectionStatus} (h : s.value = s'.value) : s = s' := by
  have hs := congrArg DetectionStatus.ofValue? h
  rw [DetectionStatus.ofValue?_value, DetectionStatus.ofValue?_value] at hs
  exact Option.some.inj hs

section

variable {rt : Runtime} {w : World} {e : Event} {id : String} {row new : InvestigationRow}

theorem inStatus_of_case (h : caseAt w id = some row) (s : DetectionStatus) :
    inStatus w id s = (row.status == s.value) := by
  unfold inStatus
  rw [h]
  rfl

theorem enters_of_cases (h : caseAt w id = some row) (h' : caseAt (step rt w e) id = some new)
    (s : DetectionStatus) :
    enters rt w e id s = (!(row.status == s.value) && new.status == s.value) := by
  unfold enters
  rw [inStatus_of_case h, inStatus_of_case h']

theorem enters_same (h : caseAt (step rt w e) id = caseAt w id) (s : DetectionStatus) :
    enters rt w e id s = false := by
  unfold enters inStatus
  rw [h]
  exact Bool.not_and_self _

/-- A transition enters exactly the status it goes to. -/
theorem enters_transition {target : String} {status : DetectionStatus} {now : Time}
    (h : caseAt w id = some row) (hlegal : legalTransition target row = .ok status)
    (h' : caseAt (step rt w e) id = some (transitionRow status now row)) (s : DetectionStatus) :
    enters rt w e id s = decide (status = s) := by
  obtain ⟨current, hrow, _, hcan⟩ := legalTransition_edge hlegal
  rw [enters_of_cases h h']
  show (!(row.status == s.value) && status.value == s.value) = _
  by_cases hs : status = s
  · subst hs
    have hne : row.status ≠ status.value := by
      intro heq
      have hcur : current = status := DetectionStatus.value_inj (hrow.symm.trans heq)
      rw [hcur, canTransition_self] at hcan
      cases hcan
    simp [hne]
  · have hne : status.value ≠ s.value := fun heq => hs (DetectionStatus.value_inj heq)
    simp [hne, hs]

/-- An execution leaves the stamps. -/
theorem executeRow_stamps (i : Int) (a : IncidentAction) (r : ExecutionResult)
    (row : InvestigationRow) : (executeRow i a r row).acknowledgedAt = row.acknowledgedAt ∧
      (executeRow i a r row).containedAt = row.containedAt := by
  unfold executeRow
  dsimp only
  split <;> exact ⟨rfl, rfl⟩

/-- A stamp that is written once: the first of the two instants there are. -/
theorem stamp_eq_or (c : Prop) [Decidable c] (stamp : Option Time) (now : Time) :
    (if c ∧ stamp = none then some now else stamp) = stamp.or (if c then some now else none) := by
  by_cases hc : c
  · cases stamp with
    | none => rw [if_pos ⟨hc, rfl⟩, if_pos hc, Option.none_or]
    | some t => rw [if_neg fun h => Option.some_ne_none t h.2, Option.some_or]
  · rw [if_neg fun h => hc h.1, if_neg hc, Option.or_none]

/-- The acknowledgement a transition leaves. -/
theorem transitionRow_acknowledgedAt (status : DetectionStatus) (now : Time)
    (row : InvestigationRow) :
    (transitionRow status now row).acknowledgedAt =
      row.acknowledgedAt.or (if status = .investigating then some now else none) :=
  stamp_eq_or (status = .investigating) row.acknowledgedAt now

theorem transitionRow_containedAt (status : DetectionStatus) (now : Time)
    (row : InvestigationRow) :
    (transitionRow status now row).containedAt =
      row.containedAt.or (if status = .contained then some now else none) :=
  stamp_eq_or (status = .contained) row.containedAt now

theorem Investigation.Drafted.not_contained {inv : Investigation} (h : inv.Drafted) :
    (inv.detection.status.value == DetectionStatus.contained.value) = false := by
  obtain hs | hs := h.status
  · rw [hs]
    decide
  · rw [hs]
    decide

variable (rt) in
/-- Filing a draft leaves the stamps, and takes no case into `contained`. -/
theorem Filed.stamps {env : Env} {tenantId : String} {ids : List String}
    (h : Filed env tenantId ids (caseAt w id) (caseAt (step rt w e) id)) :
    storedAcknowledgedAt (step rt w e) id = storedAcknowledgedAt w id ∧
      storedContainedAt (step rt w e) id = storedContainedAt w id ∧
      enters rt w e id .contained = false := by
  generalize ho : caseAt w id = o at h
  generalize ho' : caseAt (step rt w e) id = o' at h
  unfold storedAcknowledgedAt storedContainedAt enters inStatus
  rw [ho, ho']
  cases h with
  | same => exact ⟨rfl, rfl, Bool.not_and_self _⟩
  | opened inv k hinv hid =>
    refine ⟨rfl, rfl, ?_⟩
    show (true && inv.detection.status.value == DetectionStatus.contained.value) = false
    rw [hinv.not_contained]
    rfl
  | refiled row inv hinv hid hrow htenant =>
    refine ⟨rfl, rfl, ?_⟩
    show (_ && inv.detection.status.value == DetectionStatus.contained.value) = false
    rw [hinv.not_contained, Bool.and_false]

end

/-! ## Executions that contain -/

/-- An answered execution of an approved action that finds the case `investigating`, and so
    contains it. -/
def ContainsByExecution (w : World) (e : Event) (id : String) (row : InvestigationRow) : Prop :=
  ∃ i a r, Reaches w e id i row a ∧ row.status = DetectionStatus.investigating.value ∧
    executorResult e.env.connectors a.actionType a.target = .ok r ∧
    Announced e.env (executionNote row a r)

/-- An execution contains a case that has no containment stamp. -/
def ContainsUnstamped (w : World) (e : Event) (id : String) : Prop :=
  ∃ row, ContainsByExecution w e id row ∧ row.containedAt = none

theorem ContainsByExecution.stored {w : World} {e : Event} {id : String} {row : InvestigationRow}
    (h : ContainsByExecution w e id row) (rt : Runtime) :
    caseAt w id = some row ∧
      ∃ new, caseAt (step rt w e) id = some new ∧
        new.status = DetectionStatus.contained.value ∧
        new.acknowledgedAt = row.acknowledgedAt ∧ new.containedAt = row.containedAt := by
  obtain ⟨i, a, r, hreach, hstatus, hr, hann⟩ := h
  have hrow := hreach.row_eq
  refine ⟨hrow, ?_⟩
  obtain ⟨_, ⟨r', hr', _, _, hdb⟩ | ⟨hno, _, _⟩⟩ := hreach.step rt
  · refine ⟨executeRow i a r' row, ?_, ?_, executeRow_stamps i a r' row⟩
    · unfold caseAt
      rw [hdb]
      exact (find_written hrow (executeRow_fixed i a r' row).id).1
    · rw [executeRow_status, if_pos hstatus]
  · exact absurd hann (hno r hr)

/-- An answered execution of a case under investigation is one that contains it. -/
theorem Writes.by_execution {rt : Runtime} {w : World} {e : Event} {auth : Authorization}
    {id : String} {i : Int} {row : InvestigationRow} (he : e.request = .case auth id (.execute i))
    (h : Writes rt w e auth id (.execute i) (.execute i e.env.connectors))
    (hrow : caseAt w id = some row) (hstatus : row.status = DetectionStatus.investigating.value) :
    ContainsByExecution w e id row := by
  obtain ⟨p, row', new, hadm, hown, hcompute, hs, _⟩ := h
  have hfind := (ownRow_eq_some.mp hown).1
  cases hrow.symm.trans hfind
  obtain ⟨a, r, hat, happroved, hr, rfl⟩ := execute_compute.mp hcompute
  have hreach : Reaches w e id i row a :=
    ⟨auth, p, he, hadm, hown, executableAction_ok.mpr ⟨hat, happroved⟩⟩
  obtain ⟨_, ⟨r', hr', hann, _, _⟩ | ⟨_, hf, _⟩⟩ := hreach.step rt
  · exact ⟨i, a, r', hreach, hstatus, hr', hann⟩
  · rw [hs] at hf
    cases hf

/-! ## Request by request -/

section

variable (rt : Runtime) {w : World} {e : Event} {id : String}

theorem acknowledgedBy_eq_none (h : e.request.isTransition = false) :
    acknowledgedBy rt id w e = none := by
  unfold acknowledgedBy
  rw [h]
  rfl

theorem acknowledgedBy_kept (h : caseAt (step rt w e) id = caseAt w id) :
    acknowledgedBy rt id w e = none := by
  unfold acknowledgedBy
  rw [enters_same h, Bool.and_false]
  rfl

theorem containedBy_kept (h : caseAt (step rt w e) id = caseAt w id) : containedBy rt id w e = none := by
  unfold containedBy
  rw [enters_same h]
  rfl

variable {rt}

/-- A transition stamps what it enters, unless it is stamped. -/
theorem transition_stamps {auth : Authorization} {target : String} {row : InvestigationRow}
    {status : DetectionStatus} (he : e.request = .case auth id (.status target))
    (hrow : caseAt w id = some row) (hlegal : legalTransition target row = .ok status)
    (hnew : caseAt (step rt w e) id = some (transitionRow status (e.env.now 1) row)) :
    storedAcknowledgedAt (step rt w e) id =
        (storedAcknowledgedAt w id).or (acknowledgedBy rt id w e) ∧
      storedContainedAt (step rt w e) id = (storedContainedAt w id).or (containedBy rt id w e) := by
  have htransition : e.request.isTransition = true := by rw [he]; rfl
  unfold storedAcknowledgedAt storedContainedAt acknowledgedBy containedBy
  rw [htransition, enters_transition hrow hlegal hnew, enters_transition hrow hlegal hnew, hrow,
    hnew, Bool.true_and]
  simp only [decide_eq_true_eq]
  exact ⟨transitionRow_acknowledgedAt .., transitionRow_containedAt ..⟩

/-- A request that is no transition and keeps the stamp acknowledges nothing. -/
theorem acknowledgedAt_keeps {row new : InvestigationRow} (hrow : caseAt w id = some row)
    (hnew : caseAt (step rt w e) id = some new) (hack : new.acknowledgedAt = row.acknowledgedAt)
    (ht : e.request.isTransition = false) :
    storedAcknowledgedAt (step rt w e) id =
      (storedAcknowledgedAt w id).or (acknowledgedBy rt id w e) := by
  rw [acknowledgedBy_eq_none rt ht, Option.or_none]
  unfold storedAcknowledgedAt
  rw [hrow, hnew]
  exact hack

/-- A request that keeps the status and the stamp contains nothing. -/
theorem containedAt_keeps {row new : InvestigationRow} (hrow : caseAt w id = some row)
    (hnew : caseAt (step rt w e) id = some new) (hcont : new.containedAt = row.containedAt)
    (hstatus : new.status = row.status) :
    storedContainedAt (step rt w e) id = (storedContainedAt w id).or (containedBy rt id w e) := by
  have hnone : containedBy rt id w e = none := by
    unfold containedBy
    rw [enters_of_cases hrow hnew, hstatus, Bool.not_and_self]
    rfl
  rw [hnone, Option.or_none]
  unfold storedContainedAt
  rw [hrow, hnew]
  exact hcont

/-- What an answered case request does to the stamps. -/
theorem Writes.stamps {auth : Authorization} {r : CaseRequest} {op : CaseOp}
    (he : e.request = .case auth id r) (hop : r.op e.env = some op)
    (h : Writes rt w e auth id r op) :
    storedAcknowledgedAt (step rt w e) id =
        (storedAcknowledgedAt w id).or (acknowledgedBy rt id w e) ∧
      (¬ ContainsUnstamped w e id →
        storedContainedAt (step rt w e) id = (storedContainedAt w id).or (containedBy rt id w e)) := by
  obtain ⟨row, new, hrow, hcompute, hself, _⟩ := h.rows
  have hcase : caseAt w id = some row := hrow
  have hcase' : caseAt (step rt w e) id = some new := hself
  cases r with
  | approve i =>
    cases hop
    obtain ⟨a, _, rfl⟩ := approve_compute.mp hcompute
    exact ⟨acknowledgedAt_keeps hcase hcase' rfl (by rw [he]; rfl),
      fun _ => containedAt_keeps hcase hcase' rfl rfl⟩
  | assign assignee =>
    cases hop
    cases hcompute
    exact ⟨acknowledgedAt_keeps hcase hcase' rfl (by rw [he]; rfl),
      fun _ => containedAt_keeps hcase hcase' rfl rfl⟩
  | note body => cases hop
  | status target =>
    cases hop
    obtain ⟨status, hlegal, rfl⟩ := transition_compute.mp hcompute
    obtain ⟨hack, hcont⟩ := transition_stamps he hcase hlegal hcase'
    exact ⟨hack, fun _ => hcont⟩
  | execute i =>
    cases hop
    obtain ⟨a, res, _, _, _, rfl⟩ := execute_compute.mp hcompute
    obtain ⟨hack, hcont⟩ := executeRow_stamps i a res row
    refine ⟨acknowledgedAt_keeps hcase hcase' hack (by rw [he]; rfl), fun hno => ?_⟩
    by_cases hstatus : row.status = DetectionStatus.investigating.value
    · -- it contains the case, so the stamp was there
      cases hstamp : row.containedAt with
      | none => exact absurd ⟨row, h.by_execution he hcase hstatus, hstamp⟩ hno
      | some t =>
        unfold storedContainedAt
        rw [hcase, hcase', Option.bind_some, Option.bind_some, hcont, hstamp]
        rfl
    · exact containedAt_keeps hcase hcase' hcont (by rw [executeRow_status, if_neg hstatus])

/-- A request stamps what it acknowledges; and what it contains, unless it is an execution that
    contains an unstamped case. -/
theorem stamps_step (rt : Runtime) (w : World) (e : Event) (id : String) :
    storedAcknowledgedAt (step rt w e) id =
        (storedAcknowledgedAt w id).or (acknowledgedBy rt id w e) ∧
      (¬ ContainsUnstamped w e id →
        storedContainedAt (step rt w e) id = (storedContainedAt w id).or (containedBy rt id w e)) := by
  cases row_change rt w e id with
  | kept hsame =>
    have hcase : caseAt (step rt w e) id = caseAt w id := hsame
    rw [acknowledgedBy_kept rt hcase, containedBy_kept rt hcase, Option.or_none, Option.or_none]
    unfold storedAcknowledgedAt storedContainedAt
    rw [hcase]
    exact ⟨rfl, fun _ => rfl⟩
  | written auth r op he hop hw => exact hw.stamps he hop
  | filed p orch hreach hs hfiled =>
    obtain ⟨auth, he, _⟩ := hreach.admitted
    obtain ⟨hack, hcont, henters⟩ := Filed.stamps rt hfiled
    have hnone : containedBy rt id w e = none := by
      unfold containedBy
      rw [henters]
      rfl
    rw [acknowledgedBy_eq_none rt (by rw [he]; rfl), hnone, Option.or_none, Option.or_none]
    exact ⟨hack, fun _ => hcont⟩

/-- An execution that contains an unstamped case leaves it unstamped. -/
theorem ContainsUnstamped.step (h : ContainsUnstamped w e id) (rt : Runtime) :
    storedContainedAt w id = none ∧ storedContainedAt (step rt w e) id = none ∧
      containedBy rt id w e = some (e.env.now 1) := by
  obtain ⟨row, hcontains, hstamp⟩ := h
  have hstatus : row.status = DetectionStatus.investigating.value := by
    obtain ⟨_, _, _, _, hstatus, _⟩ := hcontains
    exact hstatus
  obtain ⟨hrow, new, hnew, hcontained, _, hkept⟩ := hcontains.stored rt
  refine ⟨?_, ?_, ?_⟩
  · unfold storedContainedAt
    rw [hrow]
    exact hstamp
  · unfold storedContainedAt
    rw [hnew]
    exact hkept.trans hstamp
  · unfold containedBy
    rw [enters_of_cases hrow hnew, hstatus, hcontained]
    rfl

/-- A stamp that is set stays as it is. -/
theorem stamps_fixed_step (rt : Runtime) (w : World) (e : Event) (id : String) :
    (∀ t, storedAcknowledgedAt w id = some t → storedAcknowledgedAt (step rt w e) id = some t) ∧
      ∀ t, storedContainedAt w id = some t → storedContainedAt (step rt w e) id = some t := by
  obtain ⟨hack, hcont⟩ := stamps_step rt w e id
  constructor
  · intro t ht
    rw [hack, ht]
    rfl
  · intro t ht
    have hno : ¬ ContainsUnstamped w e id := by
      intro h
      rw [(h.step rt).1] at ht
      cases ht
    rw [hcont hno, ht]
    rfl

end

/-! ## Along every run -/

theorem run_append (rt : Runtime) (w : World) (before after : List Event) :
    run rt w (before ++ after) = run rt (run rt w before) after := List.foldl_append ..

theorem stamps_fixed_run (rt : Runtime) (w : World) (es : List Event) (id : String) :
    (∀ t, storedAcknowledgedAt w id = some t → storedAcknowledgedAt (run rt w es) id = some t) ∧
      ∀ t, storedContainedAt w id = some t → storedContainedAt (run rt w es) id = some t := by
  induction es generalizing w with
  | nil => exact ⟨fun _ h => h, fun _ h => h⟩
  | cons e es ih =>
    obtain ⟨hack, hcont⟩ := stamps_fixed_step rt w e id
    obtain ⟨hack', hcont'⟩ := ih (step rt w e)
    exact ⟨fun t ht => hack' t (hack t ht), fun t ht => hcont' t (hcont t ht)⟩

section

variable {rt : Runtime} {w : World} {id : String}

/-- In a run without executions that contain an unstamped case, the stamps follow. -/
theorem stampsFollow_of_guarded {es : List Event} (hack : storedAcknowledgedAt w id = none)
    (hcont : storedContainedAt w id = none)
    (hrun : Steps (Guarded (Stepped rt) fun w e => ¬ ContainsUnstamped w e id) w es
      (run rt w es)) : StampsFollow rt w es id := by
  have hacked : storedAcknowledgedAt (run rt w es) id =
      (storedAcknowledgedAt w id).or (firstAcknowledged rt w es id) :=
    Steps.first_eq (m := fun w => storedAcknowledgedAt w id)
      (fun w e _ h => ⟨h.1, h.1 ▸ (stamps_step rt w e id).1⟩) hrun
  have hcontained : storedContainedAt (run rt w es) id =
      (storedContainedAt w id).or (firstContained rt w es id) :=
    Steps.first_eq (m := fun w => storedContainedAt w id)
      (fun w e _ h => ⟨h.1, h.1 ▸ (stamps_step rt w e id).2 h.2⟩) hrun
  rw [hack, Option.none_or] at hacked
  rw [hcont, Option.none_or] at hcontained
  refine ⟨hacked, hcontained, fun before after t he ht => ?_, fun before after t he ht => ?_,
    fun row t now hrow ht => ?_⟩
  · rw [he, run_append]
    exact (stamps_fixed_run rt (run rt w before) after id).1 t ht
  · rw [he, run_append]
    exact (stamps_fixed_run rt (run rt w before) after id).2 t ht
  · have hstamp : row.containedAt = some t := by
      rw [← ht, ← hcontained]
      unfold storedContainedAt
      rw [hrow]
      rfl
    unfold computeSla
    rw [hstamp]
    rfl

/-- From a case without stamps, the stamps follow its history in every state of a run exactly
    when no execution of the run contains it while it has no containment stamp. -/
theorem stamps_follow_iff (hack : storedAcknowledgedAt w id = none)
    (hcont : storedContainedAt w id = none) (es : List Event) :
    (∀ before after, es = before ++ after → StampsFollow rt w before id) ↔
      Steps (Guarded (Stepped rt) fun w e => ¬ ContainsUnstamped w e id) w es (run rt w es) := by
  constructor
  · intro h
    refine guarded_run_iff.mpr fun before e after he hbad => ?_
    have hthen := (h (before ++ [e]) after (by rw [he, List.append_assoc]; rfl)).contained
    have hbefore := (h before (e :: after) he).contained
    obtain ⟨hnone, hunstamped, hreport⟩ := ContainsUnstamped.step hbad rt
    have hnone' : storedContainedAt (run rt w before) id = none := hnone
    have hafter : storedContainedAt (run rt w (before ++ [e])) id = none := by
      rw [run_append]
      exact hunstamped
    have hfirst : firstContained rt w (before ++ [e]) id = some (e.env.now 1) := by
      unfold firstContained at hbefore ⊢
      rw [firstOf_append, ← hbefore, hnone', Option.none_or]
      show (containedBy rt id (before.foldl (step rt) w) e).or none = _
      rw [hreport]
      rfl
    rw [hafter, hfirst] at hthen
    cases hthen
  · intro h before after he
    refine stampsFollow_of_guarded hack hcont (guarded_run_iff.mpr fun before' e after' he' => ?_)
    refine guarded_run_iff.mp h before' e (after' ++ after) ?_
    rw [he, he', List.append_assoc]
    rfl

end

/-- A transition to `contained` stamps. -/
theorem stamps_follow_contained :
    StampsFollow .plain (caseWorld []) [caseEvent (.status "contained")] "INV-1" := by
  refine (@stamps_follow_iff .plain (caseWorld []) "INV-1" rfl rfl
    [caseEvent (.status "contained")]).mpr (Steps.cons ⟨rfl, ?_⟩ (Steps.nil _)) _ [] (List.append_nil _).symm
  rintro ⟨row, ⟨i, a, r, ⟨auth, p, hrequest, _⟩, _⟩, _⟩
  cases hrequest

/-- An executed containment leaves no stamp. -/
theorem executed_unstamped :
    ¬ ∀ (rt : Runtime) (w : World) (es : List Event) (id : String), ClockRuns es →
      storedAcknowledgedAt w id = none → storedContainedAt w id = none →
      StampsFollow rt w es id := by
  intro h
  have hclock : ClockRuns [executeOver [.capture]] :=
    clockRuns_of_zero (by simp [executeOver, caseEvent])
  have hfollow := h .plain (caseWorld [approvedAction]) [executeOver [.capture]] "INV-1" hclock
    rfl rfl
  have hbad : ContainsUnstamped (caseWorld [approvedAction]) (executeOver [.capture]) "INV-1" := by
    refine ⟨openCase [approvedAction], ⟨0, approvedAction, isolated, executeOver_reaches _, rfl,
      rfl, fun send hm => ?_⟩, rfl⟩
    simp [executeOver] at hm
  obtain ⟨_, hunstamped, hreport⟩ := hbad.step .plain
  have hfirst : firstContained .plain (caseWorld [approvedAction]) [executeOver [.capture]]
      "INV-1" = some 0 := by
    show (containedBy .plain "INV-1" (caseWorld [approvedAction]) (executeOver [.capture])).or none = _
    rw [hreport]
    rfl
  have hcontained := hfollow.contained
  rw [hfirst] at hcontained
  cases hunstamped.symm.trans hcontained

end SentinelAI
